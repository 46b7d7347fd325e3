import ProfileKit.Error
import ProfileKit.Toml.Quoted
import ProfileKit.Toml.Reader

/-!
# Settings

What can be set for the whole library, in a file of three tables. Every table and every key may be
left out; a table may also be given as a list of its values in order.

| here | `config` of glossa-core |
| --- | --- |
| `Settings`, `Settings.default` | `CoreConfig` with its three tables, and its defaults |
| `strictTypes` | `unknown_type_is_error` |
| `parse` | `CoreConfig::from_toml_str` |
| `ofFile`, `render` | `CoreConfig::load`, `CoreConfig::save`, as functions of the text of the file |
-/

namespace ProfileKit

/-- The settings. -/
structure Settings where
  /-- How long an edit waits before it is written, in milliseconds. -/
  debounceMs : Nat
  /-- Whether a type that is not known is an error. -/
  strictTypes : Bool
  /-- Where profiles are kept. -/
  root : String
  /-- The extension of files with profiles. -/
  extension : String
deriving DecidableEq, Repr

namespace Settings

def default : Settings where
  debounceMs := 300
  strictTypes := false
  root := "profiles"
  extension := "yaml"

/-- The values of a table that has these keys, each where it is given. A date counts as a table with
nothing in it. -/
def valuesOf (keys : List String) : Option Toml → Option (List (Option Toml))
  | none | some .date => some (keys.map fun _ => none)
  | some (.table _ entries) => some (keys.map fun k => entries.lookup k)
  | some (.array items) => some ((List.range keys.length).map (items[·]?))
  | some (.tables items) =>
    some ((List.range keys.length).map fun i => (items[i]?).map (.table .header))
  | some _ => none

def natural (otherwise : Nat) : Option Toml → Option Nat
  | none => some otherwise
  | some (.integer (.ofNat n)) => some n
  | some _ => none

def boolean (otherwise : Bool) : Option Toml → Option Bool
  | none => some otherwise
  | some (.boolean b) => some b
  | some _ => none

def text (otherwise : String) : Option Toml → Option String
  | none => some otherwise
  | some (.string s) => some s
  | some _ => none

/-- The settings of a document. -/
def ofEntries (entries : List (String × Toml)) : Option Settings := do
  let sync ← valuesOf ["debounce_ms"] (entries.lookup "sync")
  let validation ← valuesOf ["unknown_type_is_error"] (entries.lookup "validation")
  let store ← valuesOf ["root", "extension"] (entries.lookup "store")
  some {
    debounceMs := ← natural default.debounceMs (sync.getD 0 none)
    strictTypes := ← boolean default.strictTypes (validation.getD 0 none)
    root := ← text default.root (store.getD 0 none)
    extension := ← text default.extension (store.getD 1 none) }

/-- Reads settings. -/
def parse (content : String) : Except ProfileError Settings :=
  match (Toml.read? content).bind ofEntries with
  | some s => .ok s
  | none => .error (.serialization "the settings cannot be read")

/-- The settings of a file; without one everything is left out. -/
def ofFile (content : Option String) : Except ProfileError Settings :=
  match content with
  | some content => parse content
  | none => .ok default

/-- The settings as a file. -/
def render (s : Settings) : String :=
  "[sync]\ndebounce_ms = " ++ toString s.debounceMs
    ++ "\n\n[validation]\nunknown_type_is_error = " ++ toString s.strictTypes
    ++ "\n\n[store]\nroot = " ++ Toml.quote s.root
    ++ "\nextension = " ++ Toml.quote s.extension ++ "\n"

end Settings
end ProfileKit

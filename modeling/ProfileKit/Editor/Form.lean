import ProfileKit.Kind

/-!
# Forms

A form shows a profile as entries that can be edited: texts, lists of texts, and toggles. Numbers
and JSON objects are edited as text. The layout of a form tells which entry belongs to which key of
the document, and in what way.

| here | `sync::forms` of glossa-core |
| --- | --- |
| `Form` | `ApiForm`, `PipelineForm`, `PromptForm`, `ParserForm`, `PolicyForm`, `ChunkForm` |
| `Layout.ofKind` | the keys that `from_mapping` and `write_mapping` of a form go through |
| `Layout.jsonKeys` | `FormModel::JSON_FIELDS` |
-/

namespace ProfileKit

/-- What an entry holds. -/
inductive Entry where
  | text (s : String)
  | toggle (on : Option Bool)
  | items (xs : List String)
deriving DecidableEq, Repr

/-- How a key of a document is edited. -/
inductive Widget where
  | text
  /-- A text whose key has an older spelling, which is read but not written. -/
  | renamedText (old : String)
  | number
  /-- An object, edited as JSON text. -/
  | json
  | toggle
  | list
deriving DecidableEq, Repr

/-- The entry for a key that is not there. -/
def Widget.blank : Widget → Entry
  | .toggle => .toggle none
  | .list => .items []
  | _ => .text ""

/-- An entry of a form: its name, the key that it edits, and how. -/
structure Slot where
  name : String
  key : String
  widget : Widget
deriving DecidableEq, Repr

/-- The slots of a form: those of the document itself, and those of one mapping inside it. -/
structure Layout where
  top : List Slot
  scope : String
  inner : List Slot
deriving Repr

namespace Layout

/-- Slots that are named like their keys. -/
def slots (widget : Widget) (keys : List String) : List Slot := keys.map fun k => ⟨k, k, widget⟩

def identity : List Slot := slots .text ["id", "name"]

/-- The form of each kind. A kind without a mapping to edit inside has no inner slots. -/
def ofKind : Kind → Layout
  | .api => {
      top := identity ++ [⟨"api_type", "type", .text⟩]
        ++ slots .text ["base_url", "model", "api_key"]
        ++ slots .json ["headers", "params"]
        ++ slots .number ["timeout", "concurrency", "rpm", "max_retries"]
        ++ slots .list ["members"]
      scope := "", inner := [] }
  | .pipeline => {
      top := identity
        ++ slots .text ["provider", "prompt", "parser", "chunk_policy", "line_policy"]
        ++ slots .toggle ["apply_line_policy"]
      scope := "settings", inner := slots .number ["batch_size", "concurrency"] }
  | .prompt => {
      top := identity ++ slots .text ["system_template", "user_template"]
      scope := "context"
      inner := slots .number ["before_lines", "after_lines"]
        ++ slots .text ["joiner", "source_format"] ++ slots .number ["source_lines"] }
  | .parser => {
      top := identity ++ [⟨"parser_type", "type", .text⟩] ++ slots .json ["options"]
      scope := "", inner := [] }
  | .policy => {
      top := identity ++ [⟨"policy_type", "type", .text⟩]
      scope := "options"
      inner := slots .text ["on_mismatch"] ++ slots .toggle ["trim"]
        ++ slots .number ["similarity_threshold"] ++ slots .list ["checks"] }
  | .chunk => {
      top := identity ++ [⟨"chunk_type", "chunk_type", .renamedText "type"⟩]
      scope := "options"
      inner := slots .number ["target_chars", "max_chars", "balance_threshold", "balance_count"]
        ++ slots .toggle ["kana_retry_enabled"]
        ++ slots .number ["kana_retry_threshold", "kana_retry_min_chars"] }

/-- All slots, in the order in which they are written. -/
def all (l : Layout) : List Slot := l.top ++ l.inner

/-- The keys that are edited as JSON text. -/
def jsonKeys (l : Layout) : List String :=
  (l.top.filter fun s => s.widget = .json).map Slot.key

end Layout

/-- A form: entries with their names, in the order of its layout. -/
structure Form where
  entries : List (String × Entry)
deriving DecidableEq, Repr

namespace Form

/-- The form with nothing filled in. -/
def blank (k : Kind) : Form := ⟨(Layout.ofKind k).all.map fun s => (s.name, s.widget.blank)⟩

def get? (f : Form) (name : String) : Option Entry := f.entries.lookup name

/-- Changes an entry. -/
def set (f : Form) (name : String) (entry : Entry) : Form :=
  ⟨f.entries.map fun e => if e.1 = name then (name, entry) else e⟩

def text (f : Form) (name : String) : String :=
  match f.get? name with
  | some (.text s) => s
  | _ => ""

def toggle (f : Form) (name : String) : Option Bool :=
  match f.get? name with
  | some (.toggle on) => on
  | _ => none

def items (f : Form) (name : String) : List String :=
  match f.get? name with
  | some (.items xs) => xs
  | _ => []

end Form
end ProfileKit

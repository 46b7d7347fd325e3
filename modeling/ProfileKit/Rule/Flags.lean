import ProfileKit.Json
import ProfileKit.Pattern
import ProfileKit.Rule.Failure
import ProfileKit.Text.Blank
import ProfileKit.Text.Lines
import ProfileKit.Unicode.Lowercase

/-!
# Flags of patterns

The options of a rule set flags for its pattern: by a list of names, by a text of letters or names,
and by truth values.

| here | `parser::pattern` of glossa-core |
| --- | --- |
| `RegexFlags`, `set` | `RegexFlags`, `RegexFlags::set` |
| `ofOptions` | `RegexFlags::from_options` |
| `ofFlagsOption` with `namesIn` and `setAll` | what that makes of the option `flags` |
| `isSet` | `bool_option` |
-/

namespace ProfileKit

/-- How a pattern is matched. -/
structure RegexFlags where
  /-- Line starts and ends match `^` and `$`. -/
  multiline : Bool
  /-- A point matches a line feed. -/
  dotall : Bool
  ignorecase : Bool
deriving DecidableEq, Repr

namespace RegexFlags

def none : RegexFlags := ⟨false, false, false⟩

/-- Sets the flag of a name; a blank name sets nothing. -/
def set (flags : RegexFlags) (name : String) : Except RuleFailure RegexFlags :=
  let n := Unicode.lowercase (Text.trim name)
  if n = "m" ∨ n = "multiline" ∨ n = "re.m" ∨ n = "re.multiline" then
    .ok { flags with multiline := true }
  else if n = "s" ∨ n = "dotall" ∨ n = "re.s" ∨ n = "re.dotall" then
    .ok { flags with dotall := true }
  else if n = "i" ∨ n = "ignorecase" ∨ n = "re.i" ∨ n = "re.ignorecase" then
    .ok { flags with ignorecase := true }
  else if n = "" then .ok flags
  else .error (.invalidParserEntry (.unknownFlag n))

/-- The names in a text: its letters, if it is at most three letters, and otherwise what stands
between commas, bars and spaces. -/
def namesIn (text : String) : List String :=
  let cs := text.toList
  if cs.all Char.isAlpha && cs.length ≤ 3 then cs.map fun c => String.ofList [c]
  else (Text.splitAt (fun c => c == ',' || c == '|' || c == ' ') cs).map String.ofList

/-- Sets the flags of a list, which has to hold texts only. -/
def setAll (flags : RegexFlags) : List Json → Except RuleFailure RegexFlags
  | [] => .ok flags
  | .string name :: rest => do setAll (← flags.set name) rest
  | _ :: _ => .error (.invalidParserEntry .flagNotText)

/-- The flags of the option `flags`. -/
def ofFlagsOption : Option Json → Except RuleFailure RegexFlags
  | .none | some .null => .ok .none
  | some (.string text) => (namesIn text).foldlM set .none
  | some (.array names) => setAll .none names
  | some _ => .error (.invalidParserEntry .flagsNotList)

/-- An option is set to true. -/
def isSet (options : Mapping) (key : String) : Bool :=
  (options.get? key).bind Json.asBool? == some true

/-- The flags of the options of a rule. -/
def ofOptions (options : Mapping) : Except RuleFailure RegexFlags := do
  let flags ← ofFlagsOption (options.get? "flags")
  return {
    multiline := flags.multiline || isSet options "multiline"
    dotall := flags.dotall || isSet options "dotall"
    ignorecase := flags.ignorecase || isSet options "ignorecase" }

/-- The flags as options of a pattern. -/
def toOptions (flags : RegexFlags) : Pattern.Options :=
  { ignoreCase := flags.ignorecase, multiLine := flags.multiline, dotAll := flags.dotall }

end RegexFlags
end ProfileKit

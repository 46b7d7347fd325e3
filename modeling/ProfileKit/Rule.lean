import ProfileKit.Pattern
import ProfileKit.Rule.Failure
import ProfileKit.Text.Lines

/-!
# Rules

A compiled rule takes lines of text out of a model's response. A cascade is a list of rules that are
tried in turn; its branches are basic rules, so no cascade holds another one. A branch that could
not be compiled keeps its place and fails when its turn comes.

| here | `parser` of glossa-core |
| --- | --- |
| `BasicRule`, `Rule` | `ParserRule`, without and with its variant `Any` |
| `BasicRule.script` | `ParserRule::Python` |
| `RuleOutput`, `ofText`, `ofLines` | `ParseOutput`, `from_text`, `from_lines` |
| `ScriptRunner` | `ScriptRunner::run` |
-/

namespace ProfileKit

/-- What is done with more lines than one. -/
inductive MultiLinePolicy where
  /-- Lines that are not blank are joined by spaces. -/
  | join
  | first
  | error
deriving DecidableEq, Repr

/-- The order of tagged lines. -/
inductive TagOrder where
  | input
  /-- By the number in the group `id`. -/
  | id
  /-- By the number in the group `line`, or else in `id`. -/
  | lineNumber
deriving DecidableEq, Repr

/-- What is taken out of an object. -/
inductive JsonSelector where
  | path (path : String)
  /-- A key as it is, points and all. -/
  | key (key : String)
deriving DecidableEq, Repr

/-- A group of a pattern. -/
inductive CaptureGroup where
  | number (n : Nat)
  | name (name : String)
deriving DecidableEq, Repr

/-- Where a script is. -/
inductive ScriptSource where
  | inline (script : String)
  | file (path : String)
deriving DecidableEq, Repr

/-- A rule that is no cascade. -/
inductive BasicRule where
  | plain
  | lineStrict (policy : MultiLinePolicy)
  | jsonObject (selector : JsonSelector)
  | jsonArray
  | jsonl (path : Option String)
  | taggedLine (pattern : Pattern) (order : TagOrder)
  | regex (pattern : Pattern) (group : CaptureGroup)
  | script (source : ScriptSource) (function : String)
deriving Repr

/-- A rule. -/
inductive Rule where
  | basic (rule : BasicRule)
  | cascade (branches : List (Except RuleFailure BasicRule))

/-- What a rule takes out of a text. -/
structure RuleOutput where
  text : String
  lines : List String
deriving DecidableEq, Repr

namespace RuleOutput

/-- A text and its lines. -/
def ofText (text : String) : RuleOutput := { text, lines := Text.splitLines text }

/-- Lines and the text that they make up. -/
def ofLines (lines : List String) : RuleOutput := { text := Text.joinLines lines, lines }

end RuleOutput

/-- Runs a function of a script on a text. -/
abbrev ScriptRunner := ScriptSource → String → String → Except String RuleOutput

end ProfileKit

import ProfileKit.Json.Printer
import ProfileKit.Rule.Failure
import ProfileKit.Text.Blank
import ProfileKit.Text.Integer
import ProfileKit.Text.Lines

/-!
# Paths into JSON values

A path is steps with points between them; empty steps count for nothing. A step picks the value of a
key in an object, or an item of an array by its number. Main statement: a path of two parts is
followed one part after the other.

| here | `parser::json` of glossa-core |
| --- | --- |
| `resolve` | `resolve_path` |
| `pathSteps`, `step`, `follow` | its segments, the body of its loop, and the loop |
| `extractedText` | `stringify` |
-/

namespace ProfileKit.Json

/-- The steps of a path. -/
def pathSteps (path : String) : List String :=
  ((Text.splitAt (· == '.') path.toList).filter fun s => !s.isEmpty).map String.ofList

/-- One step into a value. -/
def step (v : Json) (s : String) : Except RuleFailure Json :=
  match v with
  | .object fields => ((Table.get? s fields).map .ok).getD (.error (.keyNotFound s))
  | .array items =>
    match (Text.natural? (Text.trimChars s.toList)).bind (items[·]?) with
    | some item => .ok item
    | none => .error (.listIndexInvalid s)
  | _ => .error (.keyNotFound s)

/-- Takes steps one after the other. -/
def follow (v : Json) : List String → Except RuleFailure Json
  | [] => .ok v
  | s :: rest =>
    match v.step s with
    | .ok w => follow w rest
    | .error e => .error e

/-- The value that a path leads to. -/
def resolve (v : Json) (path : String) : Except RuleFailure Json := v.follow (pathSteps path)

theorem follow_append (v : Json) (p q : List String) :
    v.follow (p ++ q) = (v.follow p).bind fun w => w.follow q := by
  induction p generalizing v with
  | nil => rfl
  | cons s rest ih =>
    simp only [List.cons_append, follow]
    cases v.step s with
    | ok w => exact ih w
    | error e => rfl

/-- The text of a value that was taken out: a string as it is, nothing for null, and compact JSON
otherwise. -/
def extractedText : Json → String
  | .string s => s
  | .null => ""
  | v => v.render

end ProfileKit.Json

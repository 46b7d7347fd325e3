import ProfileKit.Check.Rules

/-!
# Checking profiles

A profile is checked against the ids that are known; a profile that is to be saved is also checked
for being new. A check does not look at any store.

| here | `validate` of glossa-core |
| --- | --- |
| `Context.check` | `Validator::validate` |
| `Context.checkForSave`, with `Context.duplicate` | `Validator::validate_for_save` |
| `Context.checkText` | `Validator::validate_text` |
-/

namespace ProfileKit

namespace Check.Context

/-- Checks a profile. -/
def check (c : Context) (p : Profile) : Report := .ofFindings (findings c p)

/-- A profile that may not be overwritten is there already. -/
def duplicate (c : Context) (p : Profile) (overwrite : Bool) : List Finding :=
  match p.id with
  | some id => Finding.errorIf (!overwrite && c.index.contains p.kind (Text.trim id)) .duplicateId
  | none => []

/-- Checks a profile that is about to be saved. -/
def checkForSave (c : Context) (p : Profile) (overwrite : Bool) : Report :=
  .ofFindings (findings c p ++ c.duplicate p overwrite)

/-- Checks a text. One that does not read has that as its only error. -/
def checkText (c : Context) (k : Kind) (text : String) : Report :=
  match Profile.parse k text with
  | .ok p => c.check p
  | .error _ => .ofFindings [.error .invalidDocument]

end Check.Context
end ProfileKit

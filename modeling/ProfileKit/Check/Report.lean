import ProfileKit.Check.Code

/-!
# Reports

A check collects findings; a report sorts them into errors, which keep a profile from being saved,
and warnings, which do not. A code is reported once, where it was found first.

| here | `validate::code` of glossa-core |
| --- | --- |
| `Report`, `Report.isOk` | `ValidationReport`, `is_ok` |
| `Finding` | one call of `Pass::error` or `Pass::warn` |
| `Report.ofFindings` | what such calls make of an empty report, each code pushed once |
-/

namespace ProfileKit.Check

/-- Something that was found. -/
inductive Finding where
  | error (code : Code)
  | warning (code : Code)
  /-- References to a kind were not checked; this is told as a warning too. -/
  | skipped (kind : Kind)
deriving DecidableEq, Repr

namespace Finding

def error? : Finding → Option Code
  | .error c => some c
  | _ => none

def warning? : Finding → Option Code
  | .warning c => some c
  | .skipped k => some (.referenceCheckSkipped k)
  | .error _ => none

def skipped? : Finding → Option Kind
  | .skipped k => some k
  | _ => none

/-- An error if a condition holds. -/
def errorIf (p : Bool) (c : Code) : List Finding := if p then [.error c] else []

/-- A warning if a condition holds. -/
def warningIf (p : Bool) (c : Code) : List Finding := if p then [.warning c] else []

end Finding

/-- The outcome of a check. -/
structure Report where
  errors : List Code
  warnings : List Code
  /-- The kinds to which references were not checked. -/
  skipped : KindSet
deriving DecidableEq, Repr

namespace Report

/-- A list without repetitions, in the order of first occurrence. -/
def firstOccurrences {α : Type} [DecidableEq α] : List α → List α
  | [] => []
  | a :: rest => a :: (firstOccurrences rest).filter (· ≠ a)

def ofFindings (findings : List Finding) : Report where
  errors := firstOccurrences (findings.filterMap Finding.error?)
  warnings := firstOccurrences (findings.filterMap Finding.warning?)
  skipped := .ofList (findings.filterMap Finding.skipped?)

def isOk (r : Report) : Bool := r.errors.isEmpty

def errorCodes (r : Report) : List String := r.errors.map Code.render

def warningCodes (r : Report) : List String := r.warnings.map Code.render

theorem mem_firstOccurrences {α : Type} [DecidableEq α] (a : α) (xs : List α) :
    a ∈ firstOccurrences xs ↔ a ∈ xs := by
  induction xs with
  | nil => simp [firstOccurrences]
  | cons b rest ih =>
    simp only [firstOccurrences, List.mem_cons, List.mem_filter, ih]
    by_cases h : a = b <;> simp [h]

theorem nodup_firstOccurrences {α : Type} [DecidableEq α] (xs : List α) :
    (firstOccurrences xs).Nodup := by
  induction xs with
  | nil => simp [firstOccurrences]
  | cons b rest ih => exact List.nodup_cons.2 ⟨by simp, List.Pairwise.filter _ ih⟩

end Report
end ProfileKit.Check

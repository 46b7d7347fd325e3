import ProfileKit.Store

/-!
# Repair of references

After a profile was renamed or deleted, the pipelines that refer to it are changed: they refer to its
new id, to another profile of its kind, or, if there is none, to nothing any more. Repair does what
it can: a pipeline that cannot be read or saved is left as it is.

| here | `reconcile` of glossa-core |
| --- | --- |
| `RepairReport` | `ReconcileReport` |
| `run` | `reconcile` |
| `replacement` | `replacement` in it |
| `repairPipeline` | the body of its loop over the pipelines |
| `repoint` | what that body assigns to a pipeline |
-/

namespace ProfileKit

/-- What a repair did. -/
structure RepairReport where
  /-- How many pipelines were changed and saved. -/
  updated : Nat
  /-- A pipeline lost a reference, for which there was no replacement. -/
  missingFallback : Bool
deriving DecidableEq, Repr

namespace RepairReport

def none : RepairReport := ⟨0, false⟩

end RepairReport

namespace Repair

variable {σ : Type}

/-- The pipeline with another reference to a kind. Without a line policy lines are not aligned. -/
def repoint (k : Kind) (replacement : Option String) (p : PipelineProfile) : PipelineProfile :=
  let p := p.setSlot k replacement
  if replacement.isNone && k = .policy then { p with applyLinePolicy := some false } else p

/-- What takes the place of an id: its new id, or else the first other one. A store that cannot be
listed has none. -/
def replacement (s : Store σ) (k : Kind) (old : String) (new : Option String) :
    Action σ (Option String) :=
  match new with
  | some id => return some id
  | none => do
    match ← (s.list k).attempt with
    | .ok summaries => return (summaries.map Summary.id).find? (· ≠ old)
    | .error _ => return none

/-- Repairs one pipeline. -/
def repairPipeline (s : Store σ) (k : Kind) (old : String) (substitute : Option String)
    (report : RepairReport) (id : String) : Action σ RepairReport := do
  match ← (s.load .pipeline id).attempt with
  | .ok ⟨.pipeline p, _⟩ =>
    if p.reference k = some old then
      let lost := { report with missingFallback := report.missingFallback || substitute.isNone }
      let text := (Profile.pipeline (repoint k substitute p)).toYaml
      match ← (s.save .pipeline id text true).attempt with
      | .ok _ => return { lost with updated := lost.updated + 1 }
      | .error _ => return lost
    else return report
  | _ => return report

/-- Repairs the pipelines after the profile of a kind with the id `old` was renamed to `new`, or
deleted if there is no new id: `reconcile`. -/
def run (s : Store σ) (k : Kind) (old : String) (new : Option String) : Action σ RepairReport := do
  if k.pipelineField?.isNone then return .none
  else
    let substitute ← replacement s k old new
    match ← (s.list .pipeline).attempt with
    | .error _ => return .none
    | .ok pipelines => (pipelines.map Summary.id).foldlM (repairPipeline s k old substitute) .none

end Repair
end ProfileKit

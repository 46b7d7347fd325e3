import ProfileKit.Check
import ProfileKit.Registry.Repair

/-!
# Registry

Where checking, storing and repairing meet: a profile with errors is not saved, and renaming or
deleting a profile is followed by the repair of the pipelines that referred to it.

| here | `manager` of glossa-core |
| --- | --- |
| `Registry` | `ProfileManager`; `strictTypes` is the configuration of its validator |
| `index` | `reference_index`; its loop over kinds runs `indexKind`, and that `indexSummary` |
| `check` | `ProfileManager::validate` |
| `save`, `suggestId`, `rename`, `delete` | `save`, `suggest_id`, `rename`, `delete` |
-/

namespace ProfileKit

/-- A store whose profiles are checked. -/
structure Registry (σ : Type) where
  store : Store σ
  /-- Whether a type that is not known is an error. -/
  strictTypes : Bool

namespace Registry

variable {σ : Type}

/-- Adds a listed profile to an index. The type of a chunk profile is looked up; one that cannot be
read is known by its id only. -/
def indexSummary (r : Registry σ) (k : Kind) (x : ReferenceIndex) (s : Summary) :
    Action σ ReferenceIndex :=
  if k = .chunk then do
    match ← (r.store.load k s.id).attempt with
    | .ok loaded => return x.insertProfile loaded.profile
    | .error _ => return x.insert k s.id
  else return x.insert k s.id

/-- Adds the profiles of a kind to an index. -/
def indexKind (r : Registry σ) (x : ReferenceIndex) (k : Kind) : Action σ ReferenceIndex := do
  (← r.store.list k).foldlM (r.indexSummary k) x

/-- The ids of all stored profiles. -/
def index (r : Registry σ) : Action σ ReferenceIndex := Kind.all.foldlM r.indexKind .empty

def context (r : Registry σ) (index : ReferenceIndex) : Check.Context :=
  { index, strictTypes := r.strictTypes }

/-- Checks a text against what is stored. -/
def check (r : Registry σ) (k : Kind) (text : String) : Action σ Check.Report := do
  return (r.context (← r.index)).checkText k text

/-- Checks a text and stores it under its id. The warnings are those of the check and then those of
the store. -/
def save (r : Registry σ) (k : Kind) (text : String) (overwrite : Bool) :
    Action σ (List String) := do
  let profile ← Action.ofExcept (Profile.parse k text)
  let report := (r.context (← r.index)).checkForSave profile overwrite
  if !report.isOk then throw (.validation report.errorCodes)
  let warnings ← r.store.save k (Text.trim (profile.id.getD "")) text overwrite
  return report.warningCodes ++ warnings

/-- An id for a new profile with a name, which no profile of the kind has. -/
def suggestId (r : Registry σ) (k : Kind) (name : String) : Action σ String := do
  return Id.unique (Id.derive name) ((← r.store.list k).map Summary.id)

/-- Gives a profile another id, and repairs the references to it. -/
def rename (r : Registry σ) (k : Kind) (old new : String) : Action σ RepairReport := do
  Action.ofExcept (Id.check new)
  if old = new then return .none
  else
    if ((← r.store.list k).map Summary.id).contains new then
      throw (.conflict (Key.render ⟨k, new⟩))
    let loaded ← r.store.load k old
    let _ ← r.store.save k new (loaded.profile.setId new).toYaml false
    r.store.delete k old
    Repair.run r.store k old (some new)

/-- Deletes a profile, and repairs the references to it. -/
def delete (r : Registry σ) (k : Kind) (id : String) : Action σ RepairReport := do
  r.store.delete k id
  Repair.run r.store k id none

end Registry
end ProfileKit

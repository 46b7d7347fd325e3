import ProfileKit.Store

/-!
# Stores that fail

A store some of whose calls fail without any effect, and which tells warnings of its own.

Any `ProfileStore` of glossa-core may fail; this is one that does.
-/

namespace ProfileKit

/-- Which calls of a store fail, and what its saves warn of. -/
structure StoreFaults where
  list : List Kind
  load : List Key
  save : List Key
  delete : List Key
  warnings : List String
deriving DecidableEq, Repr

namespace StoreFaults

def none : StoreFaults := ⟨[], [], [], [], []⟩

/-- The error of a call that fails. -/
def fault (call target : String) : ProfileError := .storage ("fault " ++ call ++ " " ++ target)

/-- Fails in place of an action. -/
def failIf {σ α : Type} (p : Bool) (call target : String) (a : Action σ α) : Action σ α :=
  if p then throw (fault call target) else a

/-- The store with these faults. -/
def apply {σ : Type} (f : StoreFaults) (s : Store σ) : Store σ where
  list k := failIf (f.list.contains k) "list" k.name (s.list k)
  load k id := failIf (f.load.contains ⟨k, id⟩) "load" (Key.render ⟨k, id⟩) (s.load k id)
  save k id text overwrite :=
    failIf (f.save.contains ⟨k, id⟩) "save" (Key.render ⟨k, id⟩) do
      return (← s.save k id text overwrite) ++ f.warnings
  delete k id := failIf (f.delete.contains ⟨k, id⟩) "delete" (Key.render ⟨k, id⟩) (s.delete k id)

end StoreFaults
end ProfileKit

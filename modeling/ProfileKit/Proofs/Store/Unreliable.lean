import ProfileKit.Proofs.Store.Memory
import ProfileKit.Store.Faults

/-!
# Stores that cannot be relied on

A store is `Unreliable` over what it holds if each of its calls fails without an effect or does what a store
in memory does. That is all that is asked, so a call may fail for a reason of its own each time. The stores
whose calls fail by a plan of their numbers are of that sort, whatever the plan is (`Unreliable.failing`),
and so are those with a fixed list of faults (`Unreliable.apply`).
-/

namespace ProfileKit

variable {σ α : Type} {st : Store σ} {content : σ → MemoryStore}

/-- A sequence has failed in its first action, or it got to the second one. -/
theorem Action.eval_bind_cases {β : Type} {a : Action σ α} {f : α → Action σ β} {x x' : σ}
    {r : Except ProfileError β} (h : (a >>= f).eval x = (r, x')) :
    (∃ e, a.eval x = (.error e, x') ∧ r = .error e) ∨
      ∃ v y, a.eval x = (.ok v, y) ∧ (f v).eval y = (r, x') := by
  rw [Action.eval_bind] at h
  rcases ha : a.eval x with ⟨e | v, y⟩
  · rw [ha] at h
    obtain ⟨rfl, rfl⟩ := Prod.mk.inj h
    exact .inl ⟨e, rfl, rfl⟩
  · rw [ha] at h
    exact .inr ⟨v, y, rfl, h⟩

/-- Each call fails without an effect, or does to what the store holds as a store in memory does. Only the
warnings of a save are the store's own. -/
structure Unreliable (st : Store σ) (content : σ → MemoryStore) : Prop where
  list_error {k : Kind} {x x' : σ} {e : ProfileError} (h : (st.list k).eval x = (.error e, x')) :
    content x' = content x
  list_ok {k : Kind} {x x' : σ} {listed : List Summary} (h : (st.list k).eval x = (.ok listed, x')) :
    content x' = content x ∧ listed = MemoryStore.list k (content x)
  load_error {k : Kind} {id : String} {x x' : σ} {e : ProfileError}
    (h : (st.load k id).eval x = (.error e, x')) : content x' = content x
  load_ok {k : Kind} {id : String} {x x' : σ} {loaded : StoredProfile}
    (h : (st.load k id).eval x = (.ok loaded, x')) :
    content x' = content x ∧ MemoryStore.load k id (content x) = .ok loaded
  save_error {k : Kind} {id text : String} {overwrite : Bool} {x x' : σ} {e : ProfileError}
    (h : (st.save k id text overwrite).eval x = (.error e, x')) : content x' = content x
  save_ok {k : Kind} {id text : String} {overwrite : Bool} {x x' : σ} {ws : List String}
    (h : (st.save k id text overwrite).eval x = (.ok ws, x')) :
    MemoryStore.save k id text overwrite (content x) = (.ok [], content x')
  delete_error {k : Kind} {id : String} {x x' : σ} {e : ProfileError}
    (h : (st.delete k id).eval x = (.error e, x')) : content x' = content x
  delete_ok {k : Kind} {id : String} {x x' : σ} (h : (st.delete k id).eval x = (.ok (), x')) :
    MemoryStore.delete k id (content x) = (.ok (), content x')

/-! ## A store in memory -/

namespace MemoryStore

theorem unreliable_store : Unreliable store id where
  list_error h := nomatch (Prod.mk.inj h).1
  list_ok h := by
    obtain ⟨hlisted, rfl⟩ := Prod.mk.inj h
    exact ⟨rfl, (Except.ok.inj hlisted).symm⟩
  load_error h := (Prod.mk.inj h).2.symm
  load_ok h := by
    obtain ⟨hloaded, rfl⟩ := Prod.mk.inj h
    exact ⟨rfl, hloaded⟩
  save_error h := save_eq_error h
  save_ok h := by
    obtain ⟨-, -, rfl, -⟩ := save_eq_ok h
    exact h
  delete_error h := delete_eq_error h
  delete_ok h := h

end MemoryStore

/-! ## Planned faults -/

/-- Which calls fail, by their numbers, and with what error. -/
abbrev FaultPlan := Nat → Option ProfileError

/-- Counts a call, and fails in its place if that is planned. -/
def Action.planned (plan : FaultPlan) (a : Action σ α) : Action (Nat × σ) α :=
  .ofFunction fun x =>
    match plan x.1 with
    | some e => (.error e, (x.1 + 1, x.2))
    | none => ((a.eval x.2).1, (x.1 + 1, (a.eval x.2).2))

/-- The store whose calls fail by a plan. -/
def Store.failing (plan : FaultPlan) (st : Store σ) : Store (Nat × σ) where
  list k := (st.list k).planned plan
  load k id := (st.load k id).planned plan
  save k id text overwrite := (st.save k id text overwrite).planned plan
  delete k id := (st.delete k id).planned plan

namespace Action

variable {plan : FaultPlan} {a : Action σ α} {x x' : Nat × σ}

theorem eval_planned_error {e : ProfileError} (h : (a.planned plan).eval x = (.error e, x')) :
    x'.2 = x.2 ∨ a.eval x.2 = (.error e, x'.2) := by
  rw [planned, eval_ofFunction] at h
  split at h
  · obtain ⟨-, rfl⟩ := Prod.mk.inj h
    exact .inl rfl
  · obtain ⟨hr, rfl⟩ := Prod.mk.inj h
    exact .inr (Prod.ext hr rfl)

theorem eval_planned_ok {v : α} (h : (a.planned plan).eval x = (.ok v, x')) : a.eval x.2 = (.ok v, x'.2) := by
  rw [planned, eval_ofFunction] at h
  split at h
  · cases (Prod.mk.inj h).1
  · obtain ⟨hr, rfl⟩ := Prod.mk.inj h
    exact Prod.ext hr rfl

end Action

theorem Unreliable.failing (hu : Unreliable st content) (plan : FaultPlan) :
    Unreliable (st.failing plan) fun x => content x.2 where
  list_error h := (Action.eval_planned_error h).elim (congrArg content) hu.list_error
  list_ok h := hu.list_ok (Action.eval_planned_ok h)
  load_error h := (Action.eval_planned_error h).elim (congrArg content) hu.load_error
  load_ok h := hu.load_ok (Action.eval_planned_ok h)
  save_error h := (Action.eval_planned_error h).elim (congrArg content) hu.save_error
  save_ok h := hu.save_ok (Action.eval_planned_ok h)
  delete_error h := (Action.eval_planned_error h).elim (congrArg content) hu.delete_error
  delete_ok h := hu.delete_ok (Action.eval_planned_ok h)

/-! ## Fixed faults -/

namespace StoreFaults

variable {p : Bool} {call target : String} {a : Action σ α} {x x' : σ}

theorem eval_failIf_error {e : ProfileError} (h : (failIf p call target a).eval x = (.error e, x')) :
    x' = x ∨ a.eval x = (.error e, x') := by
  unfold failIf at h
  split at h
  · exact .inl (Prod.mk.inj h).2.symm
  · exact .inr h

theorem eval_failIf_ok {v : α} (h : (failIf p call target a).eval x = (.ok v, x')) :
    a.eval x = (.ok v, x') := by
  unfold failIf at h
  split at h
  · cases (Prod.mk.inj h).1
  · exact h

end StoreFaults

theorem Unreliable.apply (hu : Unreliable st content) (faults : StoreFaults) :
    Unreliable (faults.apply st) content where
  list_error h := (StoreFaults.eval_failIf_error h).elim (congrArg content) hu.list_error
  list_ok h := hu.list_ok (StoreFaults.eval_failIf_ok h)
  load_error h := (StoreFaults.eval_failIf_error h).elim (congrArg content) hu.load_error
  load_ok h := hu.load_ok (StoreFaults.eval_failIf_ok h)
  save_error h := by
    rcases StoreFaults.eval_failIf_error h with hx | h
    · exact congrArg content hx
    · rcases Action.eval_bind_cases h with ⟨e, hsave, -⟩ | ⟨ws, y, -, h⟩
      · exact hu.save_error hsave
      · cases (Prod.mk.inj h).1
  save_ok h := by
    rcases Action.eval_bind_cases (StoreFaults.eval_failIf_ok h) with ⟨e, -, he⟩ | ⟨ws, y, hsave, h⟩
    · cases he
    · obtain ⟨-, rfl⟩ := Prod.mk.inj h
      exact hu.save_ok hsave
  delete_error h := (StoreFaults.eval_failIf_error h).elim (congrArg content) hu.delete_error
  delete_ok h := hu.delete_ok (StoreFaults.eval_failIf_ok h)

end ProfileKit

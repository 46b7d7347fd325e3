import ProfileKit.Profile

/-!
# Stores

Where profiles are kept, as texts under keys. A store is four actions on a state; any of them may
fail, and what it did up to then stays done.

| here | `store` of glossa-core |
| --- | --- |
| `Store` | `ProfileStore` |
| `Action` | a call that is awaited: its result, and the store after it |
| `Summary`, `Summary.ofText` | `ProfileSummary`, `summarize` |
| `StoredProfile`, `StoredProfile.ofText` | `LoadedProfile`, `load_text` |
| `overwrite` and the result of `save` | `SaveOptions::allow_overwrite`, `SaveOutcome::warnings` |
-/

namespace ProfileKit

/-- An action on a state that may fail; the state after it is there in either case. -/
abbrev Action (σ α : Type) := ExceptT ProfileError (StateM σ) α

namespace Action

variable {σ α : Type}

/-- Runs an action. -/
def eval (a : Action σ α) (s : σ) : Except ProfileError α × σ := a.run.run s

/-- An action of its result and the state after it. -/
def ofFunction (f : σ → Except ProfileError α × σ) : Action σ α := ExceptT.mk f

/-- An action that only looks at the state. -/
def inspect (f : σ → Except ProfileError α) : Action σ α := ofFunction fun s => (f s, s)

/-- The outcome of an action, as an action that does not fail. -/
def attempt (a : Action σ α) : Action σ (Except ProfileError α) :=
  ofFunction fun s => let (r, s') := a.eval s; (.ok r, s')

/-- A result that is known already. -/
def ofExcept (r : Except ProfileError α) : Action σ α := inspect fun _ => r

@[simp] theorem eval_ofFunction (f : σ → Except ProfileError α × σ) (s : σ) :
    (ofFunction f).eval s = f s := rfl

@[simp] theorem eval_inspect (f : σ → Except ProfileError α) (s : σ) :
    (inspect f).eval s = (f s, s) := rfl

@[simp] theorem eval_attempt (a : Action σ α) (s : σ) :
    a.attempt.eval s = (.ok (a.eval s).1, (a.eval s).2) := rfl

@[simp] theorem eval_ofExcept (r : Except ProfileError α) (s : σ) :
    (ofExcept r : Action σ α).eval s = (r, s) := rfl

@[simp] theorem eval_pure (a : α) (s : σ) : (pure a : Action σ α).eval s = (.ok a, s) := rfl

@[simp] theorem eval_throw (e : ProfileError) (s : σ) :
    (throw e : Action σ α).eval s = (.error e, s) := rfl

/-- A sequence stops at the first failure. -/
theorem eval_bind {β : Type} (a : Action σ α) (f : α → Action σ β) (s : σ) :
    (a >>= f).eval s =
      match a.eval s with
      | (.ok x, s') => (f x).eval s'
      | (.error e, s') => (.error e, s') := by
  simp only [eval, ExceptT.run_bind, StateT.run_bind]
  cases h : a.run.run s with
  | mk r s' => cases r <;> simp <;> rfl

end Action

/-- An entry of a listing. -/
structure Summary where
  id : String
  /-- The name, where the profile can be read and has one. -/
  name : Option String
deriving DecidableEq, Repr

/-- A stored profile and the text it was read from. -/
structure StoredProfile where
  profile : Profile
  text : String
deriving DecidableEq, Repr

/-- Profiles kept under keys. -/
structure Store (σ : Type) where
  /-- The profiles of a kind, by id in increasing order. -/
  list : Kind → Action σ (List Summary)
  load : Kind → String → Action σ StoredProfile
  /-- Keeps a text under a key, and tells warnings. A text that is there is replaced only when that
  is allowed. -/
  save : Kind → (id text : String) → (overwrite : Bool) → Action σ (List String)
  delete : Kind → String → Action σ Unit

/-- The entry for a text. -/
def Summary.ofText (k : Kind) (id text : String) : Summary where
  id := id
  name :=
    match Profile.parse k text with
    | .ok p => p.name
    | .error _ => none

/-- Reads a text that was stored. -/
def StoredProfile.ofText (k : Kind) (text : String) : Except ProfileError StoredProfile :=
  (Profile.parse k text).map fun profile => { profile, text }

end ProfileKit

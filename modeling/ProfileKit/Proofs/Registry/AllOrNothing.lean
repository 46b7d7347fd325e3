import ProfileKit.Proofs.Registry.Calls
import ProfileKit.Proofs.Registry.Unloaded

/-!
# A save is all or nothing

Over a store any of whose calls may fail, a save that fails has changed nothing, and one that succeeds has put
the text under the id of its profile, which passed the check (`Registry.save_allOrNothing`). What the profile is
checked against is the index that is built for the save. That is the index of what the store holds if every
chunk profile that reads could be loaded. The type of one that could not be loaded is not known, and then a
pipeline may be saved that does not go with it (`Registry.save_unloadedBlock`).
-/

namespace ProfileKit.Registry

open Check MemoryStore

variable {σ : Type} {st : Store σ} {content : σ → MemoryStore} {strict overwrite : Bool} {k : Kind}
  {text : String}

/-- An index that was built from the state `x`: that of what the store holds, but for the chunk profiles that
could not be loaded. -/
def BuiltFrom (st : Store σ) (content : σ → MemoryStore) (x : σ) (index : ReferenceIndex) : Prop :=
  ∃ y, (st.listAll Kind.all).eval x = (.ok (), y) ∧
    let unloaded := st.failedLoads (ids .chunk (content x)) y
    index = indexWithout unloaded (content x) ∧
      ((∀ id ∈ unloaded, ∀ loaded, load .chunk id (content x) ≠ .ok loaded) →
        index = MemoryStore.index (content x))

theorem eval_index_builtFrom (hu : Unreliable st content) {x x' : σ} (hs : Table.Sorted (content x))
    {r : Except ProfileError ReferenceIndex} (h : (index ⟨st, strict⟩).eval x = (r, x')) :
    content x' = content x ∧ ∀ idx, r = .ok idx → BuiltFrom st content x idx := by
  obtain ⟨hcontent, hok⟩ := eval_index_cases hu hs h
  refine ⟨hcontent, fun idx hr => ?_⟩
  obtain ⟨y, hlisted, rfl⟩ := hok idx hr
  exact ⟨y, hlisted, rfl, indexWithout_eq_index hs⟩

/-- A save that succeeded with these warnings: the text reads as a profile that was checked without errors, its
id was free if nothing may be replaced, and the text is what is under it now and all that has changed. -/
structure Saved (st : Store σ) (content : σ → MemoryStore) (strict : Bool) (k : Kind) (text : String)
    (overwrite : Bool) (x : σ) (ws : List String) (x' : σ) (p : Profile) (id : String)
    (index : ReferenceIndex) : Prop where
  parse : Profile.parse k text = .ok p
  trimmedId : p.trimmedId? = some id
  builtFrom : BuiltFrom st content x index
  isOk : ((Context.mk index strict).checkForSave p overwrite).isOk = true
  free : overwrite = true ∨ (content x).get? ⟨k, id⟩ = none
  stored (key : Key) : (content x').get? key = if key = ⟨k, id⟩ then some text else (content x).get? key
  /-- The warnings of the check come before those of the store. -/
  warnings : ∃ y ws', content y = content x ∧ (st.save k id text overwrite).eval y = (.ok ws', x') ∧
    ws = ((Context.mk index strict).checkForSave p overwrite).warningCodes ++ ws'

/-- What a save leaves. -/
def AfterSave (st : Store σ) (content : σ → MemoryStore) (strict : Bool) (k : Kind) (text : String)
    (overwrite : Bool) (x : σ) : Except ProfileError (List String) → σ → Prop
  | .error _, x' => content x' = content x
  | .ok ws, x' => ∃ p id index, Saved st content strict k text overwrite x ws x' p id index

/-- Whatever calls of the store fail, a save that fails has changed nothing, and one that succeeds has stored
the text under the id of the profile that was checked. -/
theorem save_allOrNothing (hu : Unreliable st content) {x : σ} (hs : Table.Sorted (content x)) (strict : Bool)
    (k : Kind) (text : String) (overwrite : Bool) {r : Except ProfileError (List String)} {x' : σ}
    (h : (save ⟨st, strict⟩ k text overwrite).eval x = (r, x')) :
    AfterSave st content strict k text overwrite x r x' := by
  unfold save at h
  rcases Action.eval_bind_cases h with ⟨e, hparse, rfl⟩ | ⟨p, x₀, hparse, h⟩
  · obtain ⟨-, rfl⟩ := Prod.mk.inj hparse
    exact rfl
  obtain ⟨hp, rfl⟩ := Prod.mk.inj hparse
  rcases Action.eval_bind_cases h with ⟨e, hindex, rfl⟩ | ⟨idx, x₁, hindex, h⟩
  · exact (eval_index_builtFrom hu hs hindex).1
  obtain ⟨hx₁, hbuilt⟩ := eval_index_builtFrom hu hs hindex
  have hcontext : context ⟨st, strict⟩ idx = ⟨idx, strict⟩ := rfl
  simp only [hcontext] at h
  -- Only a profile that passed the check gets as far as the store.
  cases hok : ((Context.mk idx strict).checkForSave p overwrite).isOk with
  | false =>
    rw [hok] at h
    obtain ⟨rfl, rfl⟩ := Prod.mk.inj h
    exact hx₁
  | true =>
    rw [hok] at h
    rcases Action.eval_bind_cases h with ⟨e, hsave, rfl⟩ | ⟨ws, x₂, hsave, h⟩
    · exact (hu.save_error hsave).trans hx₁
    obtain ⟨rfl, rfl⟩ := Prod.mk.inj h
    have hclean := hok
    rw [Context.checkForSave, isOk_ofFindings, clean_append] at hclean
    obtain ⟨id, hid, htrim, -⟩ := trimmedId?_of_clean hclean.1
    rw [htrim] at hsave
    obtain ⟨-, hfree, -, hx₂⟩ := save_eq_ok (hu.save_ok hsave)
    rw [hx₁] at hfree hx₂
    refine ⟨p, id, idx, hp, hid, hbuilt idx rfl, hok, ?_, fun key => ?_, x₁, ws, hx₁, hsave, rfl⟩
    · exact hfree.imp_right fun hno => by simpa [Table.contains] using hno
    · rw [hx₂, Table.get?_insert]
      simp only [eq_comm]

/-- The loading of the only chunk profile fails. -/
def unloadedBlock : Store MemoryStore :=
  ({ StoreFaults.none with load := [⟨.chunk, "b"⟩] } : StoreFaults).apply MemoryStore.store

def oneBlock : MemoryStore := [(⟨.chunk, "b"⟩, "id: b\nname: B\ntype: block\n")]

/-- A pipeline that aligns lines, with a chunk profile of blocks. -/
def misfit : PipelineProfile :=
  { PipelineProfile.wired "p" "a" "b" "d" "b" with name := some "P", linePolicy := some "e" }

def misfitPipeline : String :=
  "id: p\nname: P\nprovider: a\nprompt: b\nparser: d\nchunk_policy: b\nline_policy: e\n"

def misfitWarnings : List String :=
  ["reference_check_skipped:api", "reference_check_skipped:prompt", "reference_check_skipped:parser",
    "reference_check_skipped:policy"]

theorem save_allOrNothing_unloadedBlock :
    ∃ x', (save ⟨unloadedBlock, false⟩ .pipeline misfitPipeline false).eval oneBlock =
        (.ok misfitWarnings, x') ∧
      AfterSave unloadedBlock id false .pipeline misfitPipeline false oneBlock (.ok misfitWarnings) x' := by
  have hu : Unreliable unloadedBlock id := unreliable_store.apply _
  have hs : Table.Sorted oneBlock := by unfold Table.Sorted; decide
  have h : (save ⟨unloadedBlock, false⟩ .pipeline misfitPipeline false).eval oneBlock =
      (.ok misfitWarnings, _) := Prod.ext (by decide +kernel) rfl
  exact ⟨_, h, save_allOrNothing hu hs false .pipeline misfitPipeline false h⟩

/-- The pipeline is saved, though against the index of what the store holds it has an error. -/
theorem save_unloadedBlock :
    Unreliable unloadedBlock id ∧ Table.Sorted oneBlock ∧
      (save ⟨unloadedBlock, false⟩ .pipeline misfitPipeline false).eval oneBlock =
        (.ok misfitWarnings, (⟨.pipeline, "p"⟩, misfitPipeline) :: oneBlock) ∧
      Profile.parse .pipeline misfitPipeline = .ok (.pipeline misfit) ∧
      ((oneBlock.context false).checkForSave (.pipeline misfit) false).errorCodes =
        ["line_policy_requires_line_chunk"] :=
  ⟨unreliable_store.apply _, by unfold Table.Sorted; decide, by decide +kernel, by decide +kernel,
    by decide +kernel⟩

end ProfileKit.Registry

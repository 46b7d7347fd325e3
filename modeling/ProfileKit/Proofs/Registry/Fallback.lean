import ProfileKit.Proofs.Registry.NoLoss

/-!
# What takes the place of a deleted profile

The repair after a delete asks once what takes the place of the deleted profile, by listing its kind, and
gives that to every pipeline which referred to it (`Repair.fallback`). A reference is taken away only where
there is no other profile of the kind, with one exception: if the kind cannot be listed, references are taken
away all the same (`Registry.delete_fallsBack`), also from a pipeline that could have been given another profile
(`Registry.delete_unlistedChunks`). Where the pipelines cannot be listed, or one of them not be loaded or saved,
references are left as they are.
-/

namespace ProfileKit

open MemoryStore

variable {σ : Type} {st : Store σ} {content : σ → MemoryStore} {k : Kind} {id : String} {x x' : σ}

namespace Repair

/-- The kind cannot be listed in the state `x`. -/
def ListFails (st : Store σ) (k : Kind) (x : σ) : Prop := ∃ e, ((st.list k).eval x).1 = .error e

/-- What a repair that starts from the state `x` puts in the place of `id`: the first other profile of the kind,
but nothing if the kind cannot be listed. -/
def fallback (st : Store σ) (content : σ → MemoryStore) (k : Kind) (id : String) (x : σ) : Option String :=
  match ((st.list k).eval x).1 with
  | .ok _ => firstOther? k id (content x)
  | .error _ => none

theorem fallback_eq_none_iff :
    fallback st content k id x = none ↔ ListFails st k x ∨ firstOther? k id (content x) = none := by
  unfold fallback ListFails
  cases ((st.list k).eval x).1 with
  | error e => simp
  | ok listed => simp

theorem fallback_eq_some_iff {first : String} :
    fallback st content k id x = some first ↔
      ¬ ListFails st k x ∧ firstOther? k id (content x) = some first := by
  unfold fallback ListFails
  cases ((st.list k).eval x).1 with
  | error e => simp
  | ok listed => simp

theorem eval_replacement_none (hu : Unreliable st content) (k : Kind) (id : String) (x : σ) :
    ∃ x', (replacement st k id none).eval x = (.ok (fallback st content k id x), x') ∧
      content x' = content x := by
  simp only [replacement, fallback, Action.eval_bind, Action.eval_attempt]
  rcases hlist : (st.list k).eval x with ⟨e | listed, x'⟩
  · exact ⟨x', rfl, hu.list_error hlist⟩
  · obtain ⟨hx', rfl⟩ := hu.list_ok hlist
    exact ⟨x', rfl, hx'⟩

end Repair

namespace Registry

open Repair

/-- A delete got from the state `x` to `y` by deleting the profile, and to `x'` by the repair. -/
structure FallsBack (st : Store σ) (content : σ → MemoryStore) (k : Kind) (id : String) (x y x' : σ) :
    Prop where
  deleted : (st.delete k id).eval x = (.ok (), y)
  gone : (content x').get? ⟨k, id⟩ = none
  /-- Every other entry is as it was, or it is a pipeline whose reference is now the fallback. -/
  others : ∀ key, key ≠ ⟨k, id⟩ →
    Preserved k id (fallback st content k id y) (content x) (content x') key
  /-- The reference is taken away only where no other profile is left, or none could be listed. -/
  removes_iff : fallback st content k id y = none ↔
    ListFails st k y ∨ ∀ other, (content x).contains ⟨k, other⟩ = true → other = id
  repoints_iff : ∀ first, fallback st content k id y = some first ↔
    ¬ ListFails st k y ∧ firstOther? k id (content x) = some first

/-- Whatever calls of the store fail, a delete that fails has changed nothing, and after one that succeeds the
references to the profile are left, or they are those to the fallback. -/
theorem delete_fallsBack (hu : Unreliable st content) (hs : Table.Sorted (content x)) (strict : Bool)
    {r : Except ProfileError RepairReport} (h : (delete ⟨st, strict⟩ k id).eval x = (r, x')) :
    (∃ e, r = .error e ∧ content x' = content x) ∨ ∃ report y, r = .ok report ∧
      FallsBack st content k id x y x' := by
  unfold delete at h
  rcases Action.eval_bind_cases h with ⟨e, hdelete, rfl⟩ | ⟨u, y, hdelete, h⟩
  · exact .inl ⟨e, rfl, hu.delete_error hdelete⟩
  obtain ⟨-, hy⟩ := delete_eq_ok (hu.delete_ok hdelete)
  have hsy : Table.Sorted (content y) := hy ▸ Table.sorted_erase hs _
  obtain ⟨z, hreplacement, hz⟩ := eval_replacement_none hu k id y
  obtain ⟨report, x₁, hrun, hpreserves⟩ := run_preserves_of_replacement hu hsy hreplacement hz
  obtain ⟨rfl, rfl⟩ := Prod.mk.inj (hrun.symm.trans h)
  obtain ⟨hgone, hothers⟩ := preserved_of_preserves_erase (hy ▸ hpreserves)
  have hfirst : firstOther? k id (content y) = firstOther? k id (content x) := by
    rw [hy, firstOther?_erase]
  refine .inr ⟨report, y, rfl, hdelete, hgone, hothers, ?_, fun first => ?_⟩
  · rw [fallback_eq_none_iff, hfirst, firstOther?_eq_none_iff]
  · rw [fallback_eq_some_iff, hfirst]

/-- Two chunk profiles, and two pipelines that refer to the first one. -/
def twoChunks : MemoryStore :=
  [(⟨.pipeline, "p"⟩, "id: p\nchunk_policy: a\n"), (⟨.pipeline, "q"⟩, "id: q\nchunk_policy: a\n"),
    (⟨.chunk, "a"⟩, "id: a\ntype: block\n"), (⟨.chunk, "b"⟩, "id: b\ntype: block\n")]

/-- One of the pipelines cannot be loaded. -/
def unloadedPipeline : Store MemoryStore :=
  StoreFaults.apply { StoreFaults.none with load := [⟨.pipeline, "q"⟩] } MemoryStore.store

/-- The pipeline that can be loaded is given the other chunk profile, and the other one is left. -/
theorem delete_fallsBack_unloadedPipeline :
    ∃ y x', FallsBack unloadedPipeline (fun s => s) .chunk "a" twoChunks y x' ∧
      fallback unloadedPipeline (fun s => s) .chunk "a" y = some "b" ∧
      x'.get? ⟨.pipeline, "p"⟩ = some "chunk_policy: b\nid: p\n" ∧
      x'.get? ⟨.pipeline, "q"⟩ = some "id: q\nchunk_policy: a\n" := by
  have hu : Unreliable unloadedPipeline fun s => s := unreliable_store.apply _
  have hs : Table.Sorted twoChunks := by unfold Table.Sorted; decide
  have hdelete : (delete ⟨unloadedPipeline, false⟩ .chunk "a").eval twoChunks = (.ok ⟨1, false⟩, _) :=
    Prod.ext (by decide +kernel) rfl
  rcases delete_fallsBack hu hs false hdelete with ⟨e, he, -⟩ | ⟨report, y, -, h⟩
  · cases he
  · exact ⟨y, _, h, (h.repoints_iff "b").2 ⟨fun hfails => (nomatch hfails.choose_spec), by decide +kernel⟩,
      by decide +kernel, by decide +kernel⟩

/-- Chunk profiles cannot be listed. -/
def unlistedChunks : Store MemoryStore :=
  StoreFaults.apply { StoreFaults.none with list := [.chunk] } MemoryStore.store

/-- Both pipelines lose their reference, though there is another chunk profile. -/
theorem delete_unlistedChunks :
    (delete ⟨unlistedChunks, false⟩ .chunk "a").eval twoChunks =
        (.ok ⟨2, true⟩, [(⟨.pipeline, "p"⟩, "id: p\n"), (⟨.pipeline, "q"⟩, "id: q\n"),
          (⟨.chunk, "b"⟩, "id: b\ntype: block\n")]) ∧
      firstOther? .chunk "a" twoChunks = some "b" :=
  ⟨by decide +kernel, by decide +kernel⟩

end Registry
end ProfileKit

import ProfileKit.Check.Index
import ProfileKit.Proofs.Store.Memory

/-!
# What an index contains

Whether anything is known about a kind, and what a profile adds to an index, both in terms of
`ReferenceIndex.contains`.
-/

namespace ProfileKit

namespace ReferenceIndex

/-- Nothing is known about a kind if no id of it is contained. -/
theorem isEmptyFor_iff {x : ReferenceIndex} {k : Kind} :
    x.isEmptyFor k = true ↔ ∀ id, x.contains k id = false := by
  simp only [isEmptyFor, ids, List.isEmpty_iff, List.map_eq_nil_iff, List.filter_eq_nil_iff, Table.keys,
    List.mem_map, decide_eq_true_eq, contains, ← Bool.not_eq_true, Table.contains_iff_mem]
  constructor
  · rintro h id ⟨v, hv⟩
    exact h _ ⟨_, hv, rfl⟩ rfl
  · rintro h _ ⟨⟨⟨j, id⟩, v⟩, hv, rfl⟩ rfl
    exact h id ⟨v, hv⟩

theorem isEmptyFor_of_contains {x : ReferenceIndex} {k : Kind} {id : String} (h : x.contains k id = true) :
    x.isEmptyFor k = false := by
  rw [← Bool.not_eq_true, isEmptyFor_iff]
  intro hempty
  rw [hempty id] at h
  cases h

theorem isEmptyFor_congr {x y : ReferenceIndex} {k : Kind} (h : ∀ id, x.contains k id = y.contains k id) :
    x.isEmptyFor k = y.isEmptyFor k := by
  rw [Bool.eq_iff_iff, isEmptyFor_iff, isEmptyFor_iff]
  simp [h]

theorem contains_insertProfile (x : ReferenceIndex) (p : Profile) (k : Kind) (id : String) :
    (x.insertProfile p).contains k id =
      (decide (p.kind = k ∧ p.trimmedId? = some id) || x.contains k id) := by
  unfold insertProfile
  cases hid : p.trimmedId? with
  | none => simp
  | some i =>
    cases p with
    | chunk c =>
      have hchunk : (insertProfile x (.chunk c)).contains k id = (x.insert .chunk i).contains k id := by
        simp only [insertProfile, hid]
        cases c.type? <;> rfl
      simp only [insertProfile, hid] at hchunk
      rw [hchunk, contains_insert]
      simp [Profile.kind]
    | _ => simp [contains_insert, Profile.kind]

end ReferenceIndex

end ProfileKit

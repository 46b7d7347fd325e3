import ProfileKit.Proofs.Profile.RoundTrip

/-!
# Faults field by field

Where a mapping has each key once, it has no fault for a record exactly if no field refuses the value under
its key (`Record.fault?_cons`, `Record.fault?_field`), and a key with two spellings stands under one of them
only (`Record.fault?_aliasedField`).
-/

namespace ProfileKit

/-- The field takes the value of a key, or that there is none. -/
def Field.Takes {α : Type} (f : Field α) (v : Option Json) : Prop := ∀ w, v = some w → f.fault? w = none

namespace Record

variable {α β : Type} {r : Record α} {s : Record β} {f : Field α} {m : Mapping}

theorem fault?_iff_get? (hm : m.Sorted) :
    r.fault? m = none ↔ ∀ key v, m.get? key = some v → r.faultAt? m key v = none := by
  rw [fault?_eq_none_iff]
  refine ⟨fun h key v hv => h _ (Table.mem_of_get? hv), fun h e he => h e.1 e.2 ?_⟩
  exact (Table.get?_eq_some_iff hm).2 he

theorem fault?_field (hm : m.Sorted) (key : String) : (field key f).fault? m = none ↔ f.Takes (m.get? key) := by
  rw [fault?_iff_get? hm]
  constructor
  · intro h v hv
    simpa [field] using h key v hv
  · intro h k v hv
    simp only [field]
    split
    · rename_i hkey
      exact h v (hkey ▸ hv)
    · rfl

theorem fault?_pair (hm : m.Sorted) : (r.pair s).fault? m = none ↔ r.fault? m = none ∧ s.fault? m = none := by
  simp only [fault?_iff_get? hm, pair, Option.or_eq_none_iff]
  exact ⟨fun h => ⟨fun k v hv => (h k v hv).1, fun k v hv => (h k v hv).2⟩,
    fun h k v hv => ⟨h.1 k v hv, h.2 k v hv⟩⟩

theorem fault?_cons (hm : m.Sorted) (key : String) :
    (cons key f s).fault? m = none ↔ f.Takes (m.get? key) ∧ s.fault? m = none := by
  rw [cons, fault?_pair hm, fault?_field hm]

/-- Of the two spellings of a key a mapping has one at most. -/
theorem fault?_aliasedField (hm : m.Sorted) {key second : String} (hne : key ≠ second) :
    (aliasedField key second f).fault? m = none ↔
      f.Takes (m.get? key) ∧ f.Takes (m.get? second) ∧ (m.get? key = none ∨ m.get? second = none) := by
  rw [fault?_iff_get? hm]
  constructor
  · intro h
    refine ⟨fun v hv => by simpa [aliasedField] using h key v hv, fun v hv => ?_, ?_⟩
    · have hsecond := h second v hv
      simp only [aliasedField, if_neg hne.symm, if_true] at hsecond
      split at hsecond
      · cases hsecond
      · exact hsecond
    · cases hv : m.get? second with
      | none => exact .inr rfl
      | some v =>
        have hsecond := h second v hv
        simp only [aliasedField, if_neg hne.symm, if_true] at hsecond
        split at hsecond
        · cases hsecond
        · rename_i hcontains
          left
          simpa [Table.contains] using hcontains
  · rintro ⟨hkey, hsecond, hone⟩ k v hv
    simp only [aliasedField]
    split
    · rename_i h
      exact hkey v (h ▸ hv)
    · split
      · rename_i h
        subst h
        have hnone : m.get? key = none := hone.resolve_right (by simp [hv])
        rw [if_neg (by simp [Table.contains, hnone])]
        exact hsecond v hv
      · rfl

end Record

end ProfileKit

import ProfileKit.Id
import ProfileKit.Proofs.Text.Blank

/-!
# Valid ids

A valid id has no blanks in it, so it is not changed by trimming (`Id.nonBlank?_of_isValid`).
-/

namespace ProfileKit

namespace Id

/-- The characters of ids lie between the blanks of ASCII and those beyond it. -/
theorem toNat_of_isPart {c : Char} (h : isPart c = true) : 0x20 < c.toNat ∧ c.toNat < 0x80 := by
  change (((((decide (65 ≤ c.val ∧ c.val ≤ 90) || (decide (97 ≤ c.val) && decide (c.val ≤ 122))) ||
    (decide (48 ≤ c.val) && decide (c.val ≤ 57))) || c == '_') || c == '.') || c == '-') = true at h
  simp only [Bool.or_eq_true, Bool.and_eq_true, decide_eq_true_eq, beq_iff_eq, UInt32.le_iff_toNat_le] at h
  change (((((65 ≤ c.toNat ∧ c.toNat ≤ 90) ∨ (97 ≤ c.toNat ∧ c.toNat ≤ 122)) ∨
    (48 ≤ c.toNat ∧ c.toNat ≤ 57)) ∨ c = '_') ∨ c = '.') ∨ c = '-' at h
  rcases h with ((h | rfl) | rfl) | rfl
  · omega
  all_goals decide

theorem isBlank_of_isPart {c : Char} (h : isPart c = true) : Text.isBlank c = false := by
  have := toNat_of_isPart h
  simp only [Text.isBlank, Bool.or_eq_false_iff, Bool.and_eq_false_iff, decide_eq_false_iff_not,
    beq_eq_false_iff_ne]
  omega

theorem isPart_of_isValid {id : String} (h : isValid id = true) : ∀ c ∈ id.toList, isPart c = true := by
  unfold isValid at h
  cases hcs : id.toList with
  | nil => simp
  | cons c cs =>
    simp only [hcs, isValidChars, Bool.and_eq_true, List.all_eq_true] at h
    intro d hd
    rcases List.mem_cons.1 hd with rfl | hd
    · simp [isPart, h.1.1]
    · exact h.1.2 d hd

theorem exists_start_of_isValid {id : String} (h : isValid id = true) :
    ∃ c cs, id.toList = c :: cs ∧ isStart c = true := by
  unfold isValid at h
  cases hcs : id.toList with
  | nil => simp [hcs, isValidChars] at h
  | cons c cs =>
    simp only [hcs, isValidChars, Bool.and_eq_true] at h
    exact ⟨c, cs, rfl, h.1.1⟩

theorem noSlash_of_isValid {id : String} (h : isValid id = true) : '/' ∉ id.toList :=
  fun hc => absurd (isPart_of_isValid h _ hc) (by decide)

/-- A valid id is not blank, and there are no blanks around it. -/
theorem nonBlank?_of_isValid {id : String} (h : isValid id = true) : Text.nonBlank? id = some id := by
  refine Text.nonBlank?_of_noBlank ?_ fun c hc => isBlank_of_isPart (isPart_of_isValid h c hc)
  rintro rfl
  cases h

end Id
end ProfileKit

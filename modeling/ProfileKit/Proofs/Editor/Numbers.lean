import ProfileKit.Editor.Binding
import ProfileKit.Proofs.Json.WellFormed
import ProfileKit.Proofs.Text.Blank
import ProfileKit.Proofs.Text.Integer

/-!
# Numbers survive being shown

The text that a number is shown as is typed as the same number (`Json.Number.typedValue_render`): an
integer is its digits, and a float has a point or an exponent, so that it is not taken for an integer.
-/

namespace ProfileKit

namespace Binary64

/-! ## Float text -/

/-- A character that numbers are written with. -/
def IsNumeral (c : Char) : Prop := c.isDigit = true ∨ c = '-' ∨ c = '+' ∨ c = '.' ∨ c = 'e'

theorem IsNumeral.not_blank {c : Char} (h : IsNumeral c) : Text.isBlank c = false := by
  rcases h with h | rfl | rfl | rfl | rfl
  · cases hblank : Text.isBlank c with
    | false => rfl
    | true => rw [Text.isDigit_of_isBlank hblank] at h; exact h.symm
  all_goals decide

theorem isNumeral_toDigits {n : Nat} {c : Char} (hc : c ∈ Nat.toDigits 10 n) : IsNumeral c :=
  .inl (isDigit_toDigits n c hc)

theorem isNumeral_positional {digits : List Char} (h : ∀ c ∈ digits, IsNumeral c) (whole : Int) :
    ∀ c ∈ positional digits whole, IsNumeral c := by
  have hzeros {n : Nat} : ∀ c ∈ zeros n, IsNumeral c := fun c hc => .inl (isDigit_zeros n c hc)
  have hpoint : IsNumeral '.' := by simp [IsNumeral]
  have hzero : IsNumeral '0' := .inl (by decide)
  intro c hc
  unfold positional at hc
  dsimp only at hc
  split at hc
  · simp only [List.mem_append, List.mem_cons, List.not_mem_nil, or_false] at hc
    rcases hc with ((rfl | rfl) | hc) | hc
    · exact hzero
    · exact hpoint
    · exact hzeros c hc
    · exact h c hc
  · split at hc
    · simp only [List.mem_append, List.mem_cons, List.not_mem_nil, or_false] at hc
      rcases hc with (hc | hc) | rfl | rfl
      · exact h c hc
      · exact hzeros c hc
      · exact hpoint
      · exact hzero
    · simp only [List.mem_append, List.mem_cons, List.not_mem_nil, or_false] at hc
      rcases hc with (hc | rfl) | hc
      · exact h c (List.mem_of_mem_take hc)
      · exact hpoint
      · exact h c (List.mem_of_mem_drop hc)

theorem isNumeral_scientific (layout : Layout) {digits : List Char} (h : ∀ c ∈ digits, IsNumeral c) (e : Int) :
    ∀ c ∈ scientific layout digits e, IsNumeral c := by
  intro c hc
  unfold scientific at hc
  dsimp only at hc
  rw [List.append_assoc, List.mem_append] at hc
  rcases hc with hc | hc
  · match digits, h with
    | [], _ => simp at hc
    | [d], h => exact h c hc
    | d :: d' :: rest, h =>
      rcases List.mem_cons.1 hc with rfl | hc
      · exact h c List.mem_cons_self
      · rcases List.mem_cons.1 hc with rfl | hc
        · simp [IsNumeral]
        · exact h c (List.mem_cons_of_mem d hc)
  · simp only [List.cons_append, List.mem_cons, List.mem_append] at hc
    rcases hc with rfl | hc | hc
    · simp [IsNumeral]
    · split at hc
      · simp_all [IsNumeral]
      · split at hc <;> simp_all [IsNumeral]
    · exact isNumeral_toDigits hc

theorem isNumeral_render (layout : Layout) (x : Binary64) :
    ∀ c ∈ (x.render layout).toList, IsNumeral c := by
  intro c hc
  rw [toList_render, List.mem_append] at hc
  rcases hc with hc | hc
  · unfold signText at hc
    split at hc <;> simp_all [IsNumeral]
  · unfold body at hc
    dsimp only at hc
    split at hc
    · exact isNumeral_positional (fun _ => isNumeral_toDigits) _ c hc
    · exact isNumeral_scientific layout (fun _ => isNumeral_toDigits) _ c hc

/-- A float has a point or an exponent. -/
theorem exists_mark_mem_body (layout : Layout) (x : Binary64) :
    ∃ c ∈ body layout x, c = '.' ∨ c = 'e' := by
  unfold body
  dsimp only
  split
  · refine ⟨'.', ?_, .inl rfl⟩
    unfold positional
    dsimp only
    split
    · simp
    · split <;> simp
  · exact ⟨'e', by simp [scientific], .inr rfl⟩

end Binary64

namespace Json.Number

variable {n : Number}

theorem toList_render_natural (k : Nat) (layout : Binary64.Layout) :
    ((natural k).render layout).toList = Nat.toDigits 10 k := by simp [render]

theorem toList_render_negative (k : Nat) (layout : Binary64.Layout) :
    ((negative k).render layout).toList = '-' :: Nat.toDigits 10 (k + 1) := by simp [render]

theorem typedNumber?_render (h : n.WellFormed) : typedNumber? (n.render .signed).toList = some n := by
  cases n with
  | natural k => rw [typedNumber?, toList_render_natural, Text.natural?_toDigits h]
  | negative k =>
    have hbound : k + 1 < 2 ^ 63 + 1 := Nat.succ_lt_succ h
    have hnatural : Text.natural? ('-' :: Nat.toDigits 10 (k + 1)) = none :=
      Text.natural?_eq_none List.mem_cons_self (by decide) (by decide)
    have hnegative : Text.negative? ('-' :: Nat.toDigits 10 (k + 1)) = some (k + 1) := by
      rw [Text.negative?, Text.digits?_toDigits]
      exact if_pos hbound
    simp only [typedNumber?, toList_render_negative, hnatural, hnegative]
  | float x =>
    obtain ⟨c, hc, hmark⟩ := Binary64.exists_mark_mem_body .signed x
    have hmem : c ∈ (x.render .signed).toList := by
      rw [Binary64.toList_render]
      exact List.mem_append_right _ hc
    have hdigit : c.isDigit = false ∧ c ≠ '+' ∧ c ≠ '-' := by
      rcases hmark with rfl | rfl <;> decide
    have hnatural := Text.natural?_eq_none hmem hdigit.2.1 hdigit.1
    have hnegative := Text.negative?_eq_none hmem hdigit.2.2 hdigit.1
    simp only [typedNumber?, render, hnatural, hnegative, Binary64.ofText?_render h, Option.map_some]

theorem isNumeral_render (n : Number) (layout : Binary64.Layout) :
    ∀ c ∈ (n.render layout).toList, Binary64.IsNumeral c := by
  cases n with
  | natural k =>
    rw [toList_render_natural]
    exact fun _ => Binary64.isNumeral_toDigits
  | negative k =>
    rw [toList_render_negative]
    exact List.forall_mem_cons.2 ⟨by simp [Binary64.IsNumeral], fun _ => Binary64.isNumeral_toDigits⟩
  | float x => exact Binary64.isNumeral_render layout x

theorem render_ne_empty (n : Number) (layout : Binary64.Layout) : n.render layout ≠ "" := by
  intro h
  have hnil : (n.render layout).toList = [] := by simp [h]
  cases n with
  | natural k => exact Nat.toDigits_ne_nil ((toList_render_natural k layout).symm.trans hnil)
  | negative k => simp [toList_render_negative] at hnil
  | float x =>
    obtain ⟨c, hc, -⟩ := Binary64.exists_mark_mem_body layout x
    rw [render, Binary64.toList_render] at hnil
    rw [(List.append_eq_nil_iff.1 hnil).2] at hc
    cases hc

/-- A number is typed as it is shown. -/
theorem typedValue_render (h : n.WellFormed) :
    (Text.nonBlank? (n.render .signed)).map typedValue = some (.number n) := by
  rw [Text.nonBlank?_of_noBlank (render_ne_empty n .signed) fun c hc => (isNumeral_render n .signed c hc).not_blank,
    Option.map_some, typedValue, typedNumber?_render h]
  rfl

end Json.Number
end ProfileKit

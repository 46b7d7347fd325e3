import Mathlib.Data.List.DropRight
import ProfileKit.Text.Blank

/-!
# Blanks around texts

A text without blanks is not changed by trimming (`nonBlank?_of_noBlank`), nor is one that was trimmed before
(`nonBlank?_of_nonBlank?`).
-/

namespace ProfileKit.Text

/-- No digit is a blank. -/
theorem isDigit_of_isBlank {c : Char} (h : isBlank c = true) : c.isDigit = false := by
  have hrange : ¬ (48 ≤ c.toNat ∧ c.toNat ≤ 57) := by
    simp only [isBlank, Bool.or_eq_true, Bool.and_eq_true, decide_eq_true_eq, beq_iff_eq] at h
    omega
  have hdigit : ¬ (c.isDigit = true) := fun hd => hrange (by
    simp only [Char.isDigit, Bool.and_eq_true, decide_eq_true_eq, ge_iff_le, UInt32.le_iff_toNat_le] at hd
    exact hd)
  simpa using hdigit

theorem dropWhileEnd_eq_rdropWhile (p : Char → Bool) (cs : List Char) : dropWhileEnd p cs = cs.rdropWhile p := rfl

/-! ## Texts without blanks -/

theorem trimChars_eq_self {cs : List Char} (h : ∀ c ∈ cs, isBlank c = false) : trimChars cs = cs := by
  have hfront : cs.dropWhile isBlank = cs :=
    List.dropWhile_eq_self_iff.2 fun hl => by simp [h _ (List.getElem_mem hl)]
  rw [trimChars, hfront, dropWhileEnd_eq_rdropWhile, List.rdropWhile_eq_self_iff]
  exact fun hne => by simp [h _ (List.getLast_mem hne)]

theorem nonBlank?_of_noBlank {s : String} (hne : s ≠ "") (h : ∀ c ∈ s.toList, isBlank c = false) :
    nonBlank? s = some s := by
  have hblank : isBlankText s = false := by
    cases hs : s.toList with
    | nil => exact absurd (String.toList_eq_nil_iff.1 hs) hne
    | cons c rest => simp [isBlankText, hs, h c (hs ▸ List.mem_cons_self)]
  rw [nonBlank?, hblank, if_neg Bool.false_ne_true, trim, trimChars_eq_self h, String.ofList_toList]

/-! ## Trimmed texts -/

/-- Dropping from the end leaves the front as it is. -/
theorem dropWhile_dropWhileEnd {p : Char → Bool} {cs : List Char} (h : cs.dropWhile p = cs) :
    (dropWhileEnd p cs).dropWhile p = dropWhileEnd p cs := by
  obtain ⟨tail, htail⟩ := List.rdropWhile_prefix p (l := cs)
  rw [dropWhileEnd_eq_rdropWhile]
  cases hfront : cs.rdropWhile p with
  | nil => rfl
  | cons c rest =>
    rw [hfront] at htail
    rw [← htail] at h
    have hc : ¬ p c = true := List.dropWhile_eq_self_iff.1 h (by simp)
    rw [List.dropWhile_cons, if_neg hc]

theorem dropWhile_trimChars (cs : List Char) : (trimChars cs).dropWhile isBlank = trimChars cs :=
  dropWhile_dropWhileEnd (List.dropWhile_idempotent _ _)

/-- Trimming again does nothing. -/
theorem trimChars_trimChars (cs : List Char) : trimChars (trimChars cs) = trimChars cs := by
  rw [trimChars, dropWhile_trimChars]
  exact List.rdropWhile_idempotent _ _

/-- Trimming leaves something of every text that is not blank. -/
theorem isBlankText_trim (s : String) : isBlankText (trim s) = isBlankText s := by
  rw [Bool.eq_iff_iff]
  simp only [isBlankText, trim, String.toList_ofList, List.all_eq_true]
  constructor
  · intro h
    rw [← List.dropWhile_eq_nil_iff, dropWhile_trimChars, trimChars, dropWhileEnd_eq_rdropWhile,
      List.rdropWhile_eq_nil_iff, ← List.dropWhile_eq_nil_iff, List.dropWhile_idempotent] at h
    exact List.dropWhile_eq_nil_iff.1 h
  · intro h c hc
    have hnil : s.toList.dropWhile isBlank = [] := List.dropWhile_eq_nil_iff.2 h
    rw [trimChars, hnil] at hc
    cases hc

theorem trim_eq_empty_iff {s : String} : trim s = "" ↔ isBlankText s = true := by
  constructor
  · intro h
    rw [← isBlankText_trim, h]
    rfl
  · intro h
    have hnil : s.toList.dropWhile isBlank = [] := List.dropWhile_eq_nil_iff.2 (List.all_eq_true.1 h)
    rw [trim, trimChars, hnil]
    rfl

theorem nonBlank?_eq_some_iff {s t : String} : nonBlank? s = some t ↔ trim s = t ∧ t ≠ "" := by
  unfold nonBlank?
  split
  · rename_i hblank
    have hempty := trim_eq_empty_iff.2 hblank
    simp only [reduceCtorEq, hempty, false_iff]
    rintro ⟨rfl, hne⟩
    exact hne rfl
  · rename_i hblank
    rw [Option.some.injEq, iff_self_and]
    rintro rfl
    exact fun hempty => hblank (trim_eq_empty_iff.1 hempty)

theorem nonBlank?_of_nonBlank? {s t : String} (h : nonBlank? s = some t) : nonBlank? t = some t := by
  obtain ⟨rfl, hne⟩ := nonBlank?_eq_some_iff.1 h
  refine nonBlank?_eq_some_iff.2 ⟨?_, hne⟩
  simp only [trim, String.toList_ofList, trimChars_trimChars]

theorem filterMap_nonBlank?_eq_self {xs : List String} (h : ∀ x ∈ xs, nonBlank? x = some x) :
    xs.filterMap nonBlank? = xs := by
  rw [List.filterMap_congr h, List.filterMap_some]

theorem filterMap_nonBlank?_idempotent (xs : List String) :
    (xs.filterMap nonBlank?).filterMap nonBlank? = xs.filterMap nonBlank? := by
  refine filterMap_nonBlank?_eq_self fun t ht => ?_
  obtain ⟨s, -, hs⟩ := List.mem_filterMap.1 ht
  exact nonBlank?_of_nonBlank? hs

end ProfileKit.Text

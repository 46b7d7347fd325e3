import Mathlib.Data.List.Basic
import ProfileKit.Json.Reader
import ProfileKit.Proofs.Text.Blank

/-!
# Blank text is no JSON

The reader of JSON skips fewer characters than count as blank, and what it does not skip of a blank text
starts no value.
-/

namespace ProfileKit

namespace Json.Reader

theorem skipBlanks_suffix (cs : List Char) : skipBlanks cs <:+ cs := by
  induction cs with
  | nil => exact List.suffix_refl _
  | cons c cs ih =>
    unfold skipBlanks
    split
    · exact ih.trans (List.suffix_cons c cs)
    · exact List.suffix_refl _

theorem readUnsigned_of_isBlank {cs : List Char} (h : ∀ c ∈ cs, Text.isBlank c = true) (negative : Bool) :
    readUnsigned negative cs = none := by
  cases cs with
  | nil => rfl
  | cons c cs =>
    have hc := Text.isDigit_of_isBlank (h c (by simp))
    simp [readUnsigned, Binary64.spanDigits, hc]

theorem readValue_of_isBlank {cs : List Char} (h : ∀ c ∈ cs, Text.isBlank c = true) (fuel depth : Nat) :
    readValue fuel depth cs = none := by
  cases fuel with
  | zero => simp [readValue]
  | succ fuel =>
    have hskip : ∀ c ∈ skipBlanks cs, Text.isBlank c = true := fun c hc =>
      h c ((skipBlanks_suffix cs).subset hc)
    unfold readValue
    generalize skipBlanks cs = rest at hskip
    have hne : ∀ c : Char, Text.isBlank c = false → ∀ cs, rest ≠ c :: cs := by
      rintro c hc cs rfl
      simp [hskip c (by simp)] at hc
    -- no value starts with a blank, and a number would be the last thing to try
    split
    · exact absurd rfl (hne _ (by decide) _)
    · exact absurd rfl (hne _ (by decide) _)
    · exact absurd rfl (hne _ (by decide) _)
    · exact absurd rfl (hne _ (by decide) _)
    · exact absurd rfl (hne _ (by decide) _)
    · exact absurd rfl (hne _ (by decide) _)
    · exact absurd rfl (hne _ (by decide) _)
    · rw [readUnsigned_of_isBlank hskip]
      rfl

end Json.Reader

theorem Json.read?_of_isBlankText {text : String} (h : Text.isBlankText text = true) :
    read? text = none := by
  have hblank : ∀ c ∈ text.toList, Text.isBlank c = true := by simpa [Text.isBlankText] using h
  simp only [read?, Reader.readValue_of_isBlank hblank]

end ProfileKit

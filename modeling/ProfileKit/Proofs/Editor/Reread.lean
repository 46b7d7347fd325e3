import ProfileKit.Check.Rules
import ProfileKit.Proofs.Editor.Numbers
import ProfileKit.Proofs.Profile.Faults

/-!
# Values are read as they are shown

What a form writes for a value that was not edited is another value in many cases: a number where a text was
expected becomes a text, an empty text goes, a list loses its blank items. Every field takes what is written
for it, and a check sees no difference. Texts are checked without the blanks around them
(`Field.IsText.filled_read_shown`), of lists only the items that are not blank count
(`Field.nonBlanks_read_texts_shown`), and numbers that a check lets pass are the same
(`Field.read_count_shown`, `Field.read_ratio_shown`).
-/

namespace ProfileKit

open Check (filled isBadCount isBadRatio)

namespace Field

variable {m : Mapping} {key : String}

/-! ## Texts -/

/-- A field of texts: it takes every text, and whatever else it takes it reads as the text that is shown,
blanks aside. -/
structure IsText (f : Field (Option String)) : Prop where
  fault?_string (s : String) : f.fault? (.string s) = none
  read_string (s : String) : f.read (some (.string s)) = some s
  read_none : f.read none = none
  filled_read {v : Json} (h : f.fault? v = none) : filled (f.read (some v)) = filled (some v.shownText)

theorem isText_looseText : looseText.IsText where
  fault?_string _ := rfl
  read_string _ := rfl
  read_none := rfl
  filled_read {v} h := by
    cases v with
    | bool b => cases b <;> rfl
    | array xs => cases h
    | object fields => cases h
    | _ => rfl

theorem isText_text : text.IsText where
  fault?_string _ := rfl
  read_string _ := rfl
  read_none := rfl
  filled_read {v} h := by
    cases v with
    | null => rfl
    | string s => rfl
    | _ => cases h

namespace IsText

variable {f : Field (Option String)}

theorem takes_textValue (hf : f.IsText) (s : String) : f.Takes (textValue s) := by
  intro w hw
  unfold textValue at hw
  split at hw
  · cases hw
  · rw [← Option.some.inj hw, hf.fault?_string]

theorem filled_read_textValue (hf : f.IsText) (s : String) :
    filled (f.read (textValue s)) = filled (some s) := by
  unfold textValue
  split
  · rename_i h
    rw [String.isEmpty_iff.1 h, hf.read_none]
    decide
  · rw [hf.read_string]

theorem filled_shownAt (hf : f.IsText) (h : f.Takes (m.get? key)) :
    filled (some (shownAt m key)) = filled (f.read (m.get? key)) := by
  unfold shownAt
  cases hv : m.get? key with
  | none =>
    rw [hf.read_none]
    decide
  | some v => exact (hf.filled_read (h v hv)).symm

/-- The text that is written is the one that was read. -/
theorem filled_read_shown (hf : f.IsText) (h : f.Takes (m.get? key)) :
    filled (f.read (textValue (shownAt m key))) = filled (f.read (m.get? key)) :=
  (hf.filled_read_textValue _).trans (hf.filled_shownAt h)

end IsText

/-! ## Truth values -/

theorem takes_flag_shown (v : Option Json) : flag.Takes ((v.bind Json.asBool?).map .bool) := by
  intro w hw
  obtain ⟨b, -, rfl⟩ := Option.map_eq_some_iff.1 hw
  rfl

theorem read_flag_shown (v : Option Json) : flag.read ((v.bind Json.asBool?).map .bool) = flag.read v := by
  simp only [flag]
  cases v.bind Json.asBool? <;> rfl

/-! ## Numbers -/

theorem takes_count (v : Option Json) : count.Takes v := fun _ _ => rfl

theorem takes_ratio (v : Option Json) : ratio.Takes v := fun _ _ => rfl

theorem takes_anyValue (v : Option Json) : anyValue.Takes v := fun _ _ => rfl

@[simp] theorem present_present (v : Option Json) : present (present v) = present v :=
  present_eq_self (present_ne_null v)

/-- Where there is no value but a number, it is written as it was. -/
theorem numberValue_shown (hm : (Json.object m).WellFormed)
    (h : ∀ v, present (m.get? key) = some v → ∃ n, v = .number n) :
    (Text.nonBlank? (shownAt m key)).map typedValue = present (m.get? key) := by
  unfold shownAt
  rcases hv : m.get? key with _ | v
  · decide
  · cases v with
    | null => decide
    | number n => exact Json.Number.typedValue_render (by simpa using hm.of_get? hv)
    | _ =>
      obtain ⟨n, hn⟩ := h _ (by rw [hv]; rfl)
      cases hn

/-- A count that a check lets pass is written as it was. -/
theorem read_count_shown (hm : (Json.object m).WellFormed) (h : isBadCount (count.read (m.get? key)) = false) :
    count.read ((Text.nonBlank? (shownAt m key)).map typedValue) = count.read (m.get? key) := by
  rw [numberValue_shown hm fun v hv => ?_]
  · simp [count]
  · simp only [count, hv, Option.map_some, isBadCount, Option.any_some] at h
    cases v with
    | number n => exact ⟨n, rfl⟩
    | _ => cases h

/-- A ratio that a check lets pass is written as it was. -/
theorem read_ratio_shown (hm : (Json.object m).WellFormed) (h : isBadRatio (ratio.read (m.get? key)) = false) :
    ratio.read ((Text.nonBlank? (shownAt m key)).map typedValue) = ratio.read (m.get? key) := by
  rw [numberValue_shown hm fun v hv => ?_]
  · simp [ratio]
  · simp only [ratio, hv, Option.map_some] at h
    cases v with
    | number n => exact ⟨n, rfl⟩
    | _ => cases h

/-! ## Lists and mappings -/

theorem takes_texts_listValue (xs : List String) : texts.Takes (listValue xs) := by
  intro w hw
  unfold listValue at hw
  split at hw
  · cases hw
  · rw [← Option.some.inj hw]
    simp [texts, Json.asString?]

theorem read_texts_listValue (xs : List String) :
    (texts.read (listValue xs)).getD [] = xs.filterMap Text.nonBlank? := by
  unfold listValue
  split
  · rename_i h
    rw [h]
    rfl
  · simp [texts, List.filterMap_map, Function.comp_def, Json.asString?]

/-- The items are shown as they are. -/
theorem itemsAt_eq (h : texts.Takes (m.get? key)) : itemsAt m key = (texts.read (m.get? key)).getD [] := by
  unfold itemsAt
  cases hv : m.get? key with
  | none => rfl
  | some v =>
    cases v with
    | array items =>
      have hitems : ∀ v ∈ items, ¬ v.asString? = none := by simpa [texts] using h _ hv
      simp only [texts, Option.getD_some]
      rw [← List.filterMap_eq_map]
      refine List.filterMap_congr fun v hv => ?_
      cases v with
      | string s => rfl
      | _ => exact absurd rfl (hitems _ hv)
    | _ => rfl

/-- The items that are written are those that were read, without the blanks around them. -/
theorem nonBlanks_read_texts_shown (h : texts.Takes (m.get? key)) :
    ((texts.read (listValue (itemsAt m key))).getD []).filterMap Text.nonBlank? =
      ((texts.read (m.get? key)).getD []).filterMap Text.nonBlank? := by
  rw [read_texts_listValue, Text.filterMap_nonBlank?_idempotent, itemsAt_eq h]

/-- A mapping is written as it was. -/
theorem present_eq_of_takes_options {v : Option Json} (h : options.Takes v) : present v = v :=
  present_eq_self fun hv => by cases h _ hv

end Field
end ProfileKit

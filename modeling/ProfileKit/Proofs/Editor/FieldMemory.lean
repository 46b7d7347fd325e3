import ProfileKit.Editor.FieldMemory
import ProfileKit.Proofs.Json.Agrees
import ProfileKit.Proofs.Json.Blank

/-!
# What a field memory does for one field

A JSON text is blank, or an object, or it is refused (`jsonText_cases`), and whichever it is, writing it
touches nothing of other fields. Text that was typed is found again as long as the value it gave stands in
the mapping, the two zeros of binary64 being one number (`typedText?_eq_some_iff`).
-/

namespace ProfileKit.FieldMemory

variable {m : FieldMemory} {map : Mapping} {field text : String}

/-! ## Text that was typed -/

theorem get?_typed_remember (m : FieldMemory) (path text : String) (value : Option Json) (other : String) :
    (m.remember path text value).typed.get? other =
      if path = other then value.map fun v => (text, v) else m.typed.get? other := by
  rw [remember, Table.get?_put]

theorem typedText?_eq_some_iff {path : String} {current : Option Json} :
    m.typedText? path current = some text ↔
      ∃ written v, m.typed.get? path = some (text, written) ∧ current = some v ∧ v.agrees written = true := by
  constructor
  · intro h
    unfold typedText? at h
    split at h
    · rename_i t written v ht
      split at h
      · rename_i hagrees
        obtain rfl := Option.some.inj h
        exact ⟨written, v, ht, rfl, hagrees⟩
      · cases h
    · cases h
  · rintro ⟨written, v, ht, rfl, hagrees⟩
    simp [typedText?, ht, hagrees]

theorem typedText?_congr {m' : FieldMemory} {path : String} (h : m.typed.get? path = m'.typed.get? path)
    (current : Option Json) : m.typedText? path current = m'.typedText? path current := by
  unfold typedText?
  rw [h]

/-- What was typed is shown as long as the value is there. -/
theorem typedText?_of_get? {path t : String} {v : Json} (h : m.typed.get? path = some (t, v)) :
    m.typedText? path (some v) = some t :=
  typedText?_eq_some_iff.2 ⟨v, v, h, rfl, v.agrees_refl⟩

theorem typedText?_none_of_get? {path : String} (h : m.typed.get? path = none) (current : Option Json) :
    m.typedText? path current = none := by
  simp only [typedText?, h]

@[simp] theorem typedText?_none (m : FieldMemory) (path : String) : m.typedText? path none = none := by
  unfold typedText?
  split <;> simp_all

/-! ## JSON text -/

/-- The text is an object. -/
def IsObject (text : String) (fields : Mapping) : Prop := Json.read? text = some (.object fields)

theorem IsObject.not_blank {fields : Mapping} (h : IsObject text fields) : Text.isBlankText text = false := by
  cases hblank : Text.isBlankText text with
  | false => rfl
  | true => simp [IsObject, Json.read?_of_isBlankText hblank] at h

theorem get?_refuse (m : FieldMemory) (map : Mapping) (field : String) (reason : NoticeReason) (key : String) :
    (m.refuse map field reason).1.get? key =
      if field = key then (m.lastGood.get? field).or (map.get? field) else map.get? key := by
  unfold refuse
  cases m.lastGood.get? field with
  | none => by_cases h : field = key <;> cases m.warned.contains field <;> simp [h]
  | some v => cases m.warned.contains field <;> simp [Table.get?_insert]

theorem typed_refuse (m : FieldMemory) (map : Mapping) (field : String) (reason : NoticeReason) :
    (m.refuse map field reason).2.typed = m.typed := by
  unfold refuse
  cases m.warned.contains field <;> rfl

theorem lastGood_refuse (m : FieldMemory) (map : Mapping) (field : String) (reason : NoticeReason) :
    (m.refuse map field reason).2.lastGood = m.lastGood := by
  unfold refuse
  cases m.warned.contains field <;> rfl

theorem putJson_of_isBlank (m : FieldMemory) (map : Mapping) (field : String)
    (h : Text.isBlankText text = true) :
    m.putJson map field text = (map.erase field, { m with
      lastGood := m.lastGood.erase field
      warned := m.warned.erase field
      typed := m.typed.erase field }) := by
  rw [putJson, if_pos h]

theorem putJson_of_isObject (m : FieldMemory) (map : Mapping) (field : String) {fields : Mapping}
    (h : IsObject text fields) :
    m.putJson map field text = (map.insert field (.object fields), { m with
      warned := m.warned.erase field
      lastGood := m.lastGood.insert field (.object fields)
      typed := m.typed.insert field (text, .object fields) }) := by
  rw [putJson, if_neg (by simp [h.not_blank]), h]

theorem putJson_of_refused (m : FieldMemory) (map : Mapping) (field : String)
    (hblank : Text.isBlankText text = false) (h : ∀ fields, ¬ IsObject text fields) :
    ∃ reason, m.putJson map field text = m.refuse map field reason := by
  rw [putJson, if_neg (by simp [hblank])]
  split
  · rename_i fields hread
    exact absurd hread (h fields)
  · exact ⟨_, rfl⟩
  · exact ⟨_, rfl⟩

/-- What a JSON text can be. -/
theorem jsonText_cases (text : String) :
    Text.isBlankText text = true ∨ (∃ fields, IsObject text fields) ∨
      (Text.isBlankText text = false ∧ ∀ fields, ¬ IsObject text fields) := by
  cases hblank : Text.isBlankText text with
  | true => exact .inl rfl
  | false =>
    by_cases h : ∃ fields, IsObject text fields
    · exact .inr (.inl h)
    · exact .inr (.inr ⟨rfl, not_exists.1 h⟩)

/-- Writing a JSON text does nothing to other fields. -/
theorem putJson_frame (m : FieldMemory) (map : Mapping) (text : String) {key : String} (h : field ≠ key) :
    (m.putJson map field text).1.get? key = map.get? key ∧
      (m.putJson map field text).2.typed.get? key = m.typed.get? key ∧
      (m.putJson map field text).2.lastGood.get? key = m.lastGood.get? key := by
  rcases jsonText_cases text with hb | ⟨fields, ho⟩ | ⟨hb, ho⟩
  · simp [putJson_of_isBlank m map field hb, Table.get?_erase, h]
  · simp [putJson_of_isObject m map field ho, Table.get?_insert, h]
  · obtain ⟨reason, hr⟩ := putJson_of_refused m map field hb ho
    simp [hr, get?_refuse, typed_refuse, lastGood_refuse, h]

/-- What becomes of a field by writing a JSON text depends on this field alone. -/
theorem putJson_congr {m' : FieldMemory} {map' : Mapping} (text : String)
    (hmap : map.get? field = map'.get? field) (htyped : m.typed.get? field = m'.typed.get? field)
    (hgood : m.lastGood.get? field = m'.lastGood.get? field) :
    (m.putJson map field text).1.get? field = (m'.putJson map' field text).1.get? field ∧
      (m.putJson map field text).2.typed.get? field = (m'.putJson map' field text).2.typed.get? field ∧
      (m.putJson map field text).2.lastGood.get? field = (m'.putJson map' field text).2.lastGood.get? field := by
  rcases jsonText_cases text with hb | ⟨fields, ho⟩ | ⟨hb, ho⟩
  · simp [putJson_of_isBlank _ _ field hb, Table.get?_erase]
  · simp [putJson_of_isObject _ _ field ho, Table.get?_insert]
  · obtain ⟨reason, hr⟩ := putJson_of_refused m map field hb ho
    obtain ⟨reason', hr'⟩ := putJson_of_refused m' map' field hb ho
    simp [hr, hr', get?_refuse, typed_refuse, lastGood_refuse, hmap, htyped, hgood]

end ProfileKit.FieldMemory

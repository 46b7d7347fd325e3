import ProfileKit.Proofs.Editor.PendingEdit
import ProfileKit.Proofs.Editor.Unedited

/-!
# The last good value of a field

A JSON text is accepted if it is an object, which sets the field, or blank, which clears it; any other text is
refused. The latest accepted text since a load decides what the field has in the documents that are written
after it, and before there is one it has the value that was loaded (`lastKnownGood`). There is one exception,
which `Editor.lastKnownGood_unless_cleared` finds exactly: clearing a field leaves nothing in the memory, so
while a text is refused after it the field has the value that was loaded, and not none
(`FieldMemory.Resurfaces`).
-/

namespace ProfileKit

namespace FieldMemory

variable {m : FieldMemory} {map : Mapping} {field text : String} {before : Option Json} {texts : List String}

/-! ## Texts that are accepted -/

/-- What a text that is accepted sets a field to: an object, or nothing for a blank text. -/
def accepted? (text : String) : Option (Option Json) :=
  if Text.isBlankText text then some none
  else
    match Json.read? text with
    | some (.object fields) => some (some (.object fields))
    | _ => none

theorem accepted?_of_isBlank (h : Text.isBlankText text = true) : accepted? text = some none := by
  rw [accepted?, if_pos h]

theorem accepted?_of_isObject {fields : Mapping} (h : IsObject text fields) :
    accepted? text = some (some (.object fields)) := by
  rw [accepted?, if_neg (by simp [h.not_blank]), h]

theorem accepted?_of_refused (hblank : Text.isBlankText text = false) (h : ∀ fields, ¬ IsObject text fields) :
    accepted? text = none := by
  rw [accepted?, if_neg (by simp [hblank])]
  split
  · rename_i fields hread
    exact absurd hread (h fields)
  · rfl

/-- Where a text is refused, the last good value is written over the one of the mapping, if there is one. -/
theorem get?_putJson (m : FieldMemory) (map : Mapping) (field text : String) :
    (m.putJson map field text).1.get? field =
      (accepted? text).getD ((m.lastGood.get? field).or (map.get? field)) := by
  rcases jsonText_cases text with hb | ⟨fields, ho⟩ | ⟨hb, ho⟩
  · simp [putJson_of_isBlank m map field hb, accepted?_of_isBlank hb, Table.get?_erase]
  · simp [putJson_of_isObject m map field ho, accepted?_of_isObject ho, Table.get?_insert]
  · obtain ⟨reason, hr⟩ := putJson_of_refused m map field hb ho
    simp [hr, accepted?_of_refused hb ho, get?_refuse]

theorem lastGood_putJson (m : FieldMemory) (map : Mapping) (field text : String) :
    (m.putJson map field text).2.lastGood.get? field = (accepted? text).getD (m.lastGood.get? field) := by
  rcases jsonText_cases text with hb | ⟨fields, ho⟩ | ⟨hb, ho⟩
  · simp [putJson_of_isBlank m map field hb, accepted?_of_isBlank hb, Table.get?_erase]
  · simp [putJson_of_isObject m map field ho, accepted?_of_isObject ho, Table.get?_insert]
  · obtain ⟨reason, hr⟩ := putJson_of_refused m map field hb ho
    simp [hr, accepted?_of_refused hb ho, lastGood_refuse]

/-! ## The latest of them -/

/-- What the latest accepted text sets. -/
def lastAccepted? (texts : List String) : Option (Option Json) := (texts.filterMap accepted?).getLast?

theorem lastAccepted?_concat (texts : List String) (text : String) :
    lastAccepted? (texts ++ [text]) = (accepted? text).or (lastAccepted? texts) := by
  rw [lastAccepted?, List.filterMap_append]
  cases h : accepted? text with
  | none => simp [h, lastAccepted?]
  | some v => simp [h]

/-- The value that the latest accepted text decides, or else the one from before. -/
def lastKnownGood (before : Option Json) (texts : List String) : Option Json :=
  (lastAccepted? texts).getD before

/-- A field was cleared, and then a text is refused. -/
structure Resurfaces (before : Option Json) (texts : List String) (text : String) : Prop where
  cleared : lastAccepted? texts = some none
  refused : accepted? text = none
  exists_before : before ≠ none

/-- The last good value of a field is the one of the latest accepted text. Before there is one it is that of the
document, unless that is no object. -/
def Follows (m : FieldMemory) (field : String) (before : Option Json) (texts : List String) : Prop :=
  match lastAccepted? texts with
  | some v => m.lastGood.get? field = v
  | none => ∀ v, m.lastGood.get? field = some v → before = some v

theorem Follows.congr {m' : FieldMemory} (h : m.Follows field before texts)
    (hgood : m'.lastGood.get? field = m.lastGood.get? field) : m'.Follows field before texts := by
  unfold Follows at h ⊢
  rwa [hgood]

theorem Follows.putJson (h : m.Follows field before texts) (map : Mapping) (text : String) :
    (m.putJson map field text).2.Follows field before (texts ++ [text]) := by
  unfold Follows
  rw [lastAccepted?_concat, lastGood_putJson]
  cases accepted? text with
  | none => exact h
  | some v => rfl

/-- Over the document that was loaded, a field is written as its last good value, unless it was cleared. -/
theorem Follows.get?_putJson (h : m.Follows field before texts) (hmap : map.get? field = before)
    (hno : ¬ Resurfaces before texts text) :
    (m.putJson map field text).1.get? field = lastKnownGood before (texts ++ [text]) := by
  rw [FieldMemory.get?_putJson, lastKnownGood, lastAccepted?_concat, hmap]
  cases hrefused : accepted? text with
  | some v => rfl
  | none =>
    unfold Follows at h
    cases hlast : lastAccepted? texts with
    | none =>
      simp only [hlast] at h
      cases hgood : m.lastGood.get? field with
      | none => rfl
      | some v => simp [h v hgood]
    | some v =>
      simp only [hlast] at h
      cases v with
      | some w => simp [h]
      | none =>
        have hbefore : before = none := by
          by_contra hne
          exact hno ⟨hlast, hrefused, hne⟩
        simp [h, hbefore]

theorem Follows.get?_putJson_of_resurfaces (h : m.Follows field before texts) (hmap : map.get? field = before)
    (hr : Resurfaces before texts text) : (m.putJson map field text).1.get? field = before := by
  unfold Follows at h
  simp only [hr.cleared] at h
  rw [FieldMemory.get?_putJson, hr.refused, h, hmap]
  rfl

theorem Resurfaces.lastKnownGood_eq (h : Resurfaces before texts text) :
    lastKnownGood before (texts ++ [text]) = none := by
  rw [lastKnownGood, lastAccepted?_concat, h.refused, h.cleared]
  rfl

end FieldMemory

/-! ## Editors -/

namespace Editor

open FieldMemory (lastKnownGood Resurfaces)

/-- The editor after forms were written one after the other. -/
def afterForms (e : Editor) (forms : List Form) : Editor := forms.foldl (fun e f => e.after (.write f)) e

variable {e : Editor} {s : Slot} {before : Option Json}

theorem afterForms_concat (e : Editor) (forms : List Form) (f : Form) :
    e.afterForms (forms ++ [f]) = (e.afterForms forms).after (.write f) := List.foldl_append

/-- Writing forms changes neither the kind of an editor nor the document that it writes over. -/
theorem kind_raw_afterForms (e : Editor) (forms : List Form) :
    (e.afterForms forms).kind = e.kind ∧ (e.afterForms forms).raw = e.raw := by
  induction forms using List.reverseRecOn with
  | nil => exact ⟨rfl, rfl⟩
  | append_singleton forms f ih =>
    rw [afterForms_concat]
    exact ih

/-- To a field that is edited as JSON text a form is a text. -/
theorem same_mappingOf (hs : s ∈ (Layout.ofKind e.kind).top) (hw : s.widget = .json) (f : Form) :
    s.Same "" (e.mappingOf f) (e.memory.putJson e.raw s.key (f.text s.name)) := by
  have hwrite : s.write f "" (e.raw, e.memory) = e.memory.putJson e.raw s.key (f.text s.name) := by
    simp only [Slot.write, hw]
  exact hwrite ▸ Form.same_writeOver_top hs f e.memory e.raw

theorem follows_afterForms (hs : s ∈ (Layout.ofKind e.kind).top) (hw : s.widget = .json)
    (h : e.memory.Follows s.key before []) (forms : List Form) :
    (e.afterForms forms).memory.Follows s.key before (forms.map fun f => f.text s.name) := by
  induction forms using List.reverseRecOn with
  | nil => exact h
  | append_singleton forms f ih =>
    rw [afterForms_concat, List.map_append]
    rw [← (kind_raw_afterForms e forms).1] at hs
    exact (ih.putJson _ (f.text s.name)).congr ((same_mappingOf hs hw f).lastGood hw)

/-- A load starts over with the values of the document. -/
theorem follows_display (raw : Mapping) (text field : String) :
    (e.display raw text).memory.Follows field (raw.get? field) [] := fun _ hv =>
  FieldMemory.get?_of_get?_lastGood_seed hv

/-- After a load, a field that is edited as JSON text has in every document that is written the value of the
latest accepted text, or the one that was loaded if no text was accepted yet, except where it resurfaces: it was
cleared, and the text for it is refused now. Then it has the value that was loaded. -/
theorem lastKnownGood_unless_cleared {text : String} {raw : Mapping}
    (hread : Document.readMapping text = .ok raw) (hs : s ∈ (Layout.ofKind e.kind).all)
    (hw : s.widget = .json) :
    ∃ loaded, e.load text = .ok loaded ∧ ∀ (forms : List Form) (f : Form),
      let texts := forms.map fun g => g.text s.name
      let written := ((loaded.afterForms forms).mappingOf f).1
      ((loaded.afterForms forms).writeDocument f).1 = Yaml.render (.object written) ∧
        (written.get? s.key = lastKnownGood (raw.get? s.key) (texts ++ [f.text s.name]) ↔
          ¬ Resurfaces (raw.get? s.key) texts (f.text s.name)) ∧
        (Resurfaces (raw.get? s.key) texts (f.text s.name) → written.get? s.key = raw.get? s.key) := by
  have hload : e.load text = .ok (e.park.display raw text) := by
    rw [load, hread]
    rfl
  have hkind : (e.park.display raw text).kind = e.kind := by
    unfold park
    split <;> rfl
  refine ⟨_, hload, fun forms f => ?_⟩
  generalize hloaded : e.park.display raw text = loaded at hkind
  have hraw : loaded.raw = raw := by rw [← hloaded]; rfl
  have htop : s ∈ (Layout.ofKind loaded.kind).top := by
    rw [hkind]
    exact (List.mem_append.1 hs).resolve_right fun hinner => (Layout.lawful_ofKind e.kind).innerJson s hinner hw
  have hfollows := follows_afterForms htop hw (hloaded ▸ follows_display raw text s.key) forms
  obtain ⟨hkindForms, hrawForms⟩ := kind_raw_afterForms loaded forms
  have hsame := (same_mappingOf (hkindForms ▸ htop) hw f).mapping s.key s.key_mem_keys
  have hmap : (loaded.afterForms forms).raw.get? s.key = raw.get? s.key := by rw [hrawForms, hraw]
  dsimp only
  rw [hsame]
  refine ⟨rfl, ⟨fun heq hr => ?_, hfollows.get?_putJson hmap⟩, hfollows.get?_putJson_of_resurfaces hmap⟩
  rw [hfollows.get?_putJson_of_resurfaces hmap hr, hr.lastKnownGood_eq] at heq
  exact hr.exists_before heq

def countedParser : String := "id: a\noptions:\n  group: 1\n"

def countedParserFields : Mapping :=
  [("id", .string "a"), ("options", .object [("group", .number (.natural 1))])]

/-- The form of `countedParser` with another text for the options. -/
def countedForm (options : String) : Form :=
  (Form.blank .parser).set "id" (.text "a") |>.set "options" (.text options)

/-- A text that is refused leaves what was typed before it. -/
theorem lastKnownGood_unless_cleared_countedParser :
    ∃ loaded, (new .parser 300).load countedParser = .ok loaded ∧
      ((loaded.afterForms [countedForm "\x7b\"group\": 2\x7d"]).mappingOf (countedForm "\x7b\"group\": ")).1.get?
        "options" = some (.object [("group", .number (.natural 2))]) := by
  have hread : Document.readMapping countedParser = .ok countedParserFields := by decide +kernel
  obtain ⟨loaded, hload, h⟩ := lastKnownGood_unless_cleared (e := new .parser 300)
    (s := ⟨"options", "options", .json⟩) hread (by decide) rfl
  have hno : ¬ Resurfaces (Table.get? "options" countedParserFields) ["\x7b\"group\": 2\x7d"] "\x7b\"group\": " :=
    fun hr => absurd hr.cleared (by decide +kernel)
  refine ⟨loaded, hload, ((h [countedForm "\x7b\"group\": 2\x7d"] (countedForm "\x7b\"group\": ")).2.1.2 hno).trans ?_⟩
  decide +kernel

/-- A text that is refused after the options were cleared brings back those that were loaded. -/
theorem resurfaces_countedParser :
    ∃ loaded, (new .parser 300).load countedParser = .ok loaded ∧
      lastKnownGood (loaded.raw.get? "options") ["", "\x7b"] = none ∧
      ((loaded.afterForms [countedForm ""]).mappingOf (countedForm "\x7b")).1.get? "options" =
        some (.object [("group", .number (.natural 1))]) :=
  ⟨(new .parser 300).display countedParserFields countedParser, by decide +kernel, by decide +kernel,
    by decide +kernel⟩

end Editor
end ProfileKit

import ProfileKit.Proofs.Editor.Numbers
import ProfileKit.Proofs.Editor.Reachable
import ProfileKit.Proofs.Editor.RoundTrip

/-!
# Edits are local

Writing a form over a document leaves keys that the form does not edit alone, and of those that it edits
the ones whose entries still are what was read from the document (`Editor.edits_local`). The entry of a key
is a text, so a value is kept if its shape is one that the form itself stores (`Widget.Stores`); and as what
was typed for a field is remembered by the value that it gave, the two zeros being one number there, an
object may get back the zeros of the text that was typed for it (`Editor.zeroSign_of_rememberedText`).
-/

namespace ProfileKit

/-- Values in the shape that a key is stored in. An object has to be one whose text reads as it. -/
def Widget.Stores : Widget → Json → Prop
  | .text, .string t | .renamedText _, .string t => t ≠ ""
  | .number, .number (.natural _) | .number, .number (.negative _) => True
  | .number, .string t => Text.isBlankText t = false ∧ Text.trim t = t ∧ typedNumber? t.toList = none
  | .json, .object fields => Json.read? (Json.object fields).renderIndented = some (.object fields)
  | .toggle, .bool _ => True
  | .list, .array items =>
    items ≠ [] ∧ ∀ v ∈ items, ∃ t, v = .string t ∧ Text.isBlankText t = false ∧ Text.trim t = t
  | _, _ => False

/-! ## Shapes -/

namespace Widget

variable {v : Json}

theorem stores_text : Widget.text.Stores v ↔ ∃ t, v = .string t ∧ t ≠ "" := by
  cases v <;> simp [Stores]

theorem stores_renamedText {old : String} : (renamedText old).Stores v ↔ ∃ t, v = .string t ∧ t ≠ "" := by
  cases v <;> simp [Stores]

theorem stores_toggle : Widget.toggle.Stores v ↔ ∃ b, v = .bool b := by
  cases v <;> simp [Stores]

theorem stores_json :
    Widget.json.Stores v ↔ ∃ fields, v = .object fields ∧ FieldMemory.IsObject v.renderIndented fields := by
  cases v <;> simp [Stores, FieldMemory.IsObject]

theorem stores_list : Widget.list.Stores v ↔ ∃ ts : List String, v = .array (ts.map .string) ∧ ts ≠ [] ∧
    ∀ t ∈ ts, Text.isBlankText t = false ∧ Text.trim t = t := by
  constructor
  · intro h
    cases v with
    | array items =>
      obtain ⟨hne, hitems⟩ := h
      have hexists : ∃ ts : List String, items = ts.map .string := by
        refine ⟨items.map fun w => (w.asString?).getD "", ?_⟩
        rw [List.map_map, List.map_congr_left (g := id), List.map_id]
        intro w hw
        obtain ⟨t, rfl, -⟩ := hitems w hw
        rfl
      obtain ⟨ts, rfl⟩ := hexists
      refine ⟨ts, rfl, fun h => hne (by simp [h]), fun t ht => ?_⟩
      obtain ⟨t', he, hkept⟩ := hitems (.string t) (List.mem_map_of_mem ht)
      exact Json.string.inj he ▸ hkept
    | _ => exact h.elim
  · rintro ⟨ts, rfl, hne, hts⟩
    refine ⟨by simpa using hne, fun w hw => ?_⟩
    obtain ⟨t, ht, rfl⟩ := List.mem_map.1 hw
    exact ⟨t, rfl, hts t ht⟩

/-- A number is typed as it is shown, and so is a text that is no number. -/
theorem typedValue_of_stores (h : Widget.number.Stores v) (hv : v.WellFormed) :
    (Text.nonBlank? v.shownText).map typedValue = some v := by
  cases v with
  | number n => exact Json.Number.typedValue_render (Json.wellFormed_number.1 hv)
  | string t =>
    obtain ⟨hblank, htrim, hnumber⟩ := h
    simp [Json.shownText, Text.nonBlank?, hblank, htrim, typedValue, hnumber]
  | _ => exact h.elim

/-- Of the values that a number is stored as, those that agree are the same. -/
theorem eq_of_agrees_of_stores {w : Json} (h : Widget.number.Stores v) (hagrees : v.agrees w = true) :
    w = v := by
  cases v with
  | number n =>
    cases n with
    | natural k => exact Json.eq_of_agrees_natural hagrees
    | negative k => exact Json.eq_of_agrees_negative hagrees
    | float x => exact h.elim
  | string t => exact Json.eq_of_agrees_string hagrees
  | _ => exact h.elim

end Widget

namespace Slot

variable {s : Slot} {scope : String} {f : Form} {m : Mapping} {memory shownBy : FieldMemory}

/-- The value of a slot in the mapping that its key stands in. -/
def value? (s : Slot) (m : Mapping) : Option Json :=
  match s.widget with
  | .renamedText old => (m.get? s.key).or (m.get? old)
  | _ => m.get? s.key

/-- A slot has the value that it had, or one that is remembered and differs from it in the signs of zeros. -/
def Keeps (s : Slot) (memory : FieldMemory) (m m' : Mapping) : Prop :=
  m'.get? s.key = s.value? m ∨
    s.widget = .json ∧ ∃ v text w, m.get? s.key = some v ∧ memory.typed.get? s.key = some (text, w) ∧
      v.agrees w = true ∧ m'.get? s.key = some w

theorem Keeps.congr {m' m'' : Mapping} (h : s.Keeps memory m m') (hkey : m''.get? s.key = m'.get? s.key) :
    s.Keeps memory m m'' := by
  unfold Keeps at h ⊢
  rwa [hkey]

/-- A text is written as it is shown. -/
theorem textValue_shownAt {key : String}
    (h : ∀ v, m.get? key = some v → ∃ t, v = .string t ∧ t ≠ "") : textValue (shownAt m key) = m.get? key := by
  rw [shownAt]
  cases hv : m.get? key with
  | none => rfl
  | some v =>
    obtain ⟨t, rfl, hne⟩ := h v hv
    simp [textValue, Json.shownText, hne]

/-- A text whose key was renamed is written as it is shown, from whichever key it stands under. -/
theorem textValue_renamed {key old : String}
    (h : ∀ v, (m.get? key).or (m.get? old) = some v → ∃ t, v = .string t ∧ t ≠ "") :
    textValue (if (shownAt m key).isEmpty then shownAt m old else shownAt m key) =
      (m.get? key).or (m.get? old) := by
  cases hkey : m.get? key with
  | none =>
    have hempty : shownAt m key = "" := by simp [shownAt, hkey]
    rw [hkey, Option.none_or] at h
    rw [hempty, if_pos (by decide), Option.none_or]
    exact textValue_shownAt h
  | some v =>
    obtain ⟨t, rfl, hne⟩ := h v (by rw [hkey, Option.some_or])
    have hshown : shownAt m key = t := by simp [shownAt, hkey, Json.shownText]
    rw [hshown, if_neg (by simpa using hne), Option.some_or]
    simp [textValue, hne]

/-- A list is written as its items are shown. -/
theorem listValue_itemsAt {key : String} (h : ∀ v, m.get? key = some v → Widget.list.Stores v) :
    listValue (itemsAt m key) = m.get? key := by
  cases hv : m.get? key with
  | none => simp [itemsAt, hv, listValue]
  | some v =>
    obtain ⟨ts, rfl, hne, hts⟩ := Widget.stores_list.1 (h v hv)
    have hitems : itemsAt m key = ts := by
      simp only [itemsAt, hv, List.map_map]
      exact List.map_id _
    rw [hitems, listValue, filterMap_nonBlank? hts]
    cases ts with
    | nil => exact absurd rfl hne
    | cons t rest => rfl

/-- The value that is shown for a number is the value that it is typed as. -/
theorem typedValue_shown (hw : s.widget = .number) (hm : ∀ v, m.get? s.key = some v → v.WellFormed)
    (hmemory : s.Remembers scope shownBy) (hshape : ∀ v, m.get? s.key = some v → s.widget.Stores v) :
    (Text.nonBlank? ((shownBy.typedText? (fieldPath scope s.key) (m.get? s.key)).getD (shownAt m s.key))).map
      typedValue = m.get? s.key := by
  have hpath : s.path scope = fieldPath scope s.key := by simp [path, hw]
  cases hv : m.get? s.key with
  | none =>
    rw [FieldMemory.typedText?_none, shownAt, hv]
    rfl
  | some v =>
    have hstores := hw ▸ hshape v hv
    cases ht : shownBy.typedText? (fieldPath scope s.key) (some v) with
    | none =>
      rw [Option.getD_none, shownAt, hv]
      exact Widget.typedValue_of_stores hstores (hm v hv)
    | some text =>
      obtain ⟨w, -, hagrees, hgives⟩ := hmemory.of_typedText? (by rwa [hpath])
      rw [hw] at hgives
      rw [Option.getD_some, ← Widget.eq_of_agrees_of_stores hstores hagrees]
      exact hgives

/-- An object is written as it is shown, or as what was typed for a value that agrees with it. -/
theorem keeps_write_json (hw : s.widget = .json) (memory : FieldMemory) (hmemory : s.Remembers scope shownBy)
    (hf : f.text s.name = (shownBy.typedText? s.key (m.get? s.key)).getD (jsonAt m s.key))
    (hshape : ∀ v, m.get? s.key = some v → Widget.json.Stores v) :
    s.Keeps shownBy m (s.write f scope (m, memory)).1 := by
  have hvalue : s.value? m = m.get? s.key := by simp [value?, hw]
  have hpath : s.path scope = s.key := by simp [path, hw]
  simp only [Keeps, write, hvalue, hw, hf]
  cases hv : m.get? s.key with
  | none =>
    left
    rw [FieldMemory.typedText?_none, jsonAt, hv, Option.getD_none, FieldMemory.putJson_of_isBlank _ _ _ (by decide)]
    simp [Table.get?_erase]
  | some v =>
    obtain ⟨fields, rfl, hobject⟩ := Widget.stores_json.1 (hshape v hv)
    cases ht : shownBy.typedText? s.key (some (.object fields)) with
    | none =>
      left
      have hshown : jsonAt m s.key = (Json.object fields).renderIndented := by simp [jsonAt, hv]
      rw [Option.getD_none, hshown, FieldMemory.putJson_of_isObject _ _ _ hobject]
      simp [Table.get?_insert]
    | some text =>
      right
      obtain ⟨w, htyped, hagrees, hgives⟩ := hmemory.of_typedText? (by rwa [hpath])
      rw [hw] at hgives
      obtain ⟨fields', rfl, hobject'⟩ := hgives
      refine ⟨trivial, _, text, _, rfl, hpath ▸ htyped, hagrees, ?_⟩
      rw [Option.getD_some, FieldMemory.putJson_of_isObject _ _ _ hobject']
      simp [Table.get?_insert]

/-- A slot whose entry is what was shown keeps its value, if the value has the shape that is stored. -/
theorem keeps_write (memory : FieldMemory) (hm : ∀ v, m.get? s.key = some v → v.WellFormed)
    (hmemory : s.Remembers scope shownBy) (hf : f.get? s.name = some (s.read shownBy scope m))
    (hshape : ∀ v, s.value? m = some v → s.widget.Stores v) :
    s.Keeps shownBy m (s.write f scope (m, memory)).1 := by
  cases hw : s.widget with
  | text =>
    left
    simp only [read, value?, hw] at hf hshape
    simp only [write, value?, hw, Form.text_of_get? hf, Table.get?_put, if_true]
    exact textValue_shownAt fun v hv => Widget.stores_text.1 (hshape v hv)
  | renamedText old =>
    left
    simp only [read, value?, hw] at hf hshape
    simp only [write, value?, hw, Form.text_of_get? hf, Table.get?_put, if_true]
    exact textValue_renamed fun v hv => Widget.stores_renamedText.1 (hshape v hv)
  | number =>
    left
    have hvalue : s.value? m = m.get? s.key := by simp [value?, hw]
    rw [hvalue] at hshape ⊢
    have hshown := typedValue_shown hw hm hmemory hshape
    simp only [read, hw] at hf
    simp only [write, hw, Form.text_of_get? hf, Table.get?_put, if_true]
    exact hshown
  | json =>
    simp only [read, value?, hw] at hf hshape
    exact keeps_write_json hw memory hmemory (Form.text_of_get? hf) hshape
  | toggle =>
    left
    simp only [read, value?, hw] at hf hshape
    simp only [write, value?, hw, Form.toggle, hf, Table.get?_put, if_true]
    cases hv : m.get? s.key with
    | none => rfl
    | some v =>
      obtain ⟨b, rfl⟩ := Widget.stores_toggle.1 (hshape v hv)
      rfl
  | list =>
    left
    simp only [read, value?, hw] at hf hshape
    simp only [write, value?, hw, Form.items, hf, Table.get?_put, if_true]
    exact listValue_itemsAt hshape

/-- The old key of a text that was renamed is not written. -/
theorem get?_old_write {old : String} (hw : s.widget = .renamedText old) (hne : s.key ≠ old) (f : Form)
    (state : Mapping × FieldMemory) : (s.write f scope state).1.get? old = none := by
  obtain ⟨m, memory⟩ := state
  simp [write, hw, Table.get?_put, Table.get?_erase, hne]

end Slot

/-! ## Forms -/

namespace Form

variable {k : Kind} {s : Slot} {memory : FieldMemory} {m : Mapping}

theorem get?_ofMapping_top (hs : s ∈ (Layout.ofKind k).top) :
    (ofMapping k memory m).get? s.name = some (s.read memory "" m) := by
  have hnames : ((ofMapping k memory m).entries.map Prod.fst).Nodup :=
    map_fst_ofMapping k memory m ▸ (Layout.lawful_ofKind k).names
  refine lookup_of_mem (e := (s.name, s.read memory "" m)) hnames ?_
  rw [entries_ofMapping]
  exact List.mem_append_left _ (List.mem_map.2 ⟨s, hs, rfl⟩)

theorem get?_ofMapping_inner (hs : s ∈ (Layout.ofKind k).inner) :
    (ofMapping k memory m).get? s.name =
      some (s.read memory (Layout.ofKind k).scope (innerMapping m (Layout.ofKind k).scope)) := by
  have hnames : ((ofMapping k memory m).entries.map Prod.fst).Nodup :=
    map_fst_ofMapping k memory m ▸ (Layout.lawful_ofKind k).names
  refine lookup_of_mem (e := (s.name, s.read memory _ (innerMapping m _))) hnames ?_
  rw [entries_ofMapping]
  exact List.mem_append_right _ (List.mem_map.2 ⟨s, hs, rfl⟩)

/-- An old spelling is gone. -/
theorem get?_old_writeOver (hs : s ∈ (Layout.ofKind k).top) {old : String} (hw : s.widget = .renamedText old)
    (f : Form) (memory : FieldMemory) (raw : Mapping) : (f.writeOver k memory raw).1.get? old = none := by
  have hne : s.key ≠ old := by
    have hkeys := Layout.nodup_keys (List.mem_append_left (Layout.ofKind k).inner hs)
    simpa [Slot.keys, hw] using hkeys
  rw [(same_writeOver_top hs f memory raw).mapping old (by simp [Slot.keys, hw])]
  exact Slot.get?_old_write hw hne f _

end Form

theorem Json.WellFormed.innerMapping {m : Mapping} (h : (Json.object m).WellFormed) (scope : String) :
    (Json.object (innerMapping m scope)).WellFormed := by
  unfold ProfileKit.innerMapping
  split
  · rename_i fields hscope
    exact h.of_get? hscope
  · exact Json.wellFormed_object_nil

/-! ## Editors -/

namespace Editor

variable {k : Kind} {e shownBy : Editor}

/-- What a form leaves of the document over which it is written. The entries that were not edited are those
of the form that was shown for the document, with what was remembered then. -/
structure EditsLocally (k : Kind) (e : Editor) (shownWith : FieldMemory) (f : Form) : Prop where
  otherKeys : ∀ key, key ∉ (Layout.ofKind k).keys → (e.mappingOf f).1.get? key = e.raw.get? key
  otherInnerKeys : ∀ key, key ∉ (Layout.ofKind k).innerKeys →
    (innerMapping (e.mappingOf f).1 (Layout.ofKind k).scope).get? key =
      (innerMapping e.raw (Layout.ofKind k).scope).get? key
  /-- The old spelling of a key is not written. -/
  oldKeys : ∀ s ∈ (Layout.ofKind k).top, ∀ old, s.widget = .renamedText old →
    (e.mappingOf f).1.get? old = none
  unedited : ∀ s ∈ (Layout.ofKind k).top,
    f.get? s.name = (Form.ofMapping k shownWith e.raw).get? s.name →
      (∀ v, s.value? e.raw = some v → s.widget.Stores v) → s.Keeps shownWith e.raw (e.mappingOf f).1
  uneditedInner : ∀ s ∈ (Layout.ofKind k).inner,
    f.get? s.name = (Form.ofMapping k shownWith e.raw).get? s.name →
      (∀ v, s.value? (innerMapping e.raw (Layout.ofKind k).scope) = some v → s.widget.Stores v) →
        (innerMapping (e.mappingOf f).1 (Layout.ofKind k).scope).get? s.key =
          s.value? (innerMapping e.raw (Layout.ofKind k).scope)

/-- A form changes what it edits, whichever editor of its kind has shown the document. -/
theorem edits_local (he : Reachable k e) (hshown : Reachable k shownBy) (f : Form) :
    EditsLocally k e shownBy.memory f := by
  have hsound := he.sound
  have hmemory := hshown.sound.memory
  have hwritten : e.mappingOf f = f.writeOver k e.memory e.raw := by
    rw [← hsound.kind]
    rfl
  constructor
  all_goals rw [hwritten]
  · exact fun key hkey => Form.get?_writeOver hkey f e.memory e.raw
  · intro key hkey
    cases hinner : (Layout.ofKind k).inner.isEmpty with
    | true =>
      have hscope : (Layout.ofKind k).scope ∉ (Layout.ofKind k).keys := by
        simp only [Layout.keys, hinner, if_true, List.append_nil]
        exact (Layout.lawful_ofKind k).scope
      rw [innerMapping_congr (Form.get?_writeOver hscope f e.memory e.raw)]
    | false => exact Form.get?_innerMapping_writeOver hkey hinner f e.memory e.raw
  · exact fun s hs old hw => Form.get?_old_writeOver hs hw f e.memory e.raw
  · intro s hs hf hshape
    rw [Form.get?_ofMapping_top hs] at hf
    have hkept := Slot.keeps_write e.memory (fun v => hsound.raw.of_get?) (hmemory.top s hs) hf hshape
    exact hkept.congr ((Form.same_writeOver_top hs f e.memory e.raw).mapping s.key s.key_mem_keys)
  · intro s hs hf hshape
    rw [Form.get?_ofMapping_inner hs] at hf
    have hkept := Slot.keeps_write e.memory (fun v => (hsound.raw.innerMapping _).of_get?)
      (hmemory.inner s hs) hf hshape
    rw [(Form.same_writeOver_inner hs f e.memory e.raw).mapping s.key s.key_mem_keys]
    exact hkept.resolve_right fun hjson => (Layout.lawful_ofKind k).innerJson s hs hjson.1

/-- An editor in which an object was typed before the document was loaded again with another zero. -/
def zeroTyped : Editor :=
  (((new .parser 0).after (.load "id: a\noptions:\n  x: 0.0\n")).after
    (.write ((Form.blank .parser).set "id" (.text "a") |>.set "options" (.text "\x7b\"x\": 0.0\x7d")))).after
    (.load "id: a\noptions:\n  x: -0.0\n")

theorem reachable_zeroTyped : Reachable .parser zeroTyped := .call (.call (.call (.new 0) _) _) _

/-- What is shown for the document of `zeroTyped`, with a name. -/
def zeroNamed : Form := zeroTyped.form.set "name" (.text "b")

theorem edits_local_zeroTyped :
    Reachable .parser zeroTyped ∧ EditsLocally .parser zeroTyped zeroTyped.memory zeroNamed :=
  ⟨reachable_zeroTyped, edits_local reachable_zeroTyped reachable_zeroTyped zeroNamed⟩

/-- Naming the profile gives the zero of its options the sign of the text that is remembered for them. -/
theorem zeroSign_of_rememberedText :
    Reachable .parser zeroTyped ∧
      zeroNamed.get? "options" = (Form.ofMapping .parser zeroTyped.memory zeroTyped.raw).get? "options" ∧
      let zero (negative : Bool) : Json := .object [("x", .number (.float ⟨negative, 0, Binary64.minExponent⟩))]
      zeroTyped.raw.get? "options" = some (zero true) ∧ Widget.json.Stores (zero true) ∧
        (zeroTyped.mappingOf zeroNamed).1.get? "options" = some (zero false) ∧ zero false ≠ zero true := by
  refine ⟨reachable_zeroTyped, ?_⟩
  unfold Widget.Stores
  decide +kernel

end Editor
end ProfileKit

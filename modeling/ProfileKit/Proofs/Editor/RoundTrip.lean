import ProfileKit.Editor
import ProfileKit.Proofs.Editor.Binding

/-!
# Forms are read back as they were typed

A form is written over any document and read from what was written as the very same form
(`Editor.readDocument_writeDocument`): numbers and JSON text are stored in another spelling, but the memory
has the text that was typed as long as its value stands in the document. What does not come back is what an
entry does not keep (`Widget.Accepts`): a number of blanks only, blanks around items of lists, and JSON text
that is refused.
-/

namespace ProfileKit

/-- An entry of which nothing is lost when it is written. -/
def Widget.Accepts : Widget → Entry → Prop
  | .text, .text _ => True
  | .renamedText _, .text _ => True
  | .number, .text t => t = "" ∨ Text.isBlankText t = false
  | .json, .text t => t = "" ∨ ∃ fields, FieldMemory.IsObject t fields
  | .toggle, .toggle _ => True
  | .list, .items xs => ∀ x ∈ xs, Text.isBlankText x = false ∧ Text.trim x = x
  | _, _ => False

/-- Whether a text is an object can be computed. -/
instance (text : String) : Decidable (∃ fields, FieldMemory.IsObject text fields) :=
  match h : Json.read? text with
  | some (.object fields) => .isTrue ⟨fields, h⟩
  | none | some .null | some (.bool _) | some (.number _) | some (.string _) | some (.array _) =>
    .isFalse fun ⟨_, hobject⟩ => nomatch h.symm.trans hobject

instance : (w : Widget) → (e : Entry) → Decidable (w.Accepts e)
  | .text, .text _ | .renamedText _, .text _ | .toggle, .toggle _ => .isTrue trivial
  | .number, .text t => inferInstanceAs (Decidable (t = "" ∨ Text.isBlankText t = false))
  | .json, .text t => inferInstanceAs (Decidable (t = "" ∨ ∃ fields, FieldMemory.IsObject t fields))
  | .list, .items xs =>
    inferInstanceAs (Decidable (∀ x ∈ xs, Text.isBlankText x = false ∧ Text.trim x = x))
  | .text, .toggle _ | .text, .items _ | .renamedText _, .toggle _ | .renamedText _, .items _
  | .number, .toggle _ | .number, .items _ | .json, .toggle _ | .json, .items _
  | .toggle, .text _ | .toggle, .items _ | .list, .text _ | .list, .toggle _ => .isFalse id

/-! ## Slots -/

theorem filterMap_nonBlank? {xs : List String}
    (h : ∀ x ∈ xs, Text.isBlankText x = false ∧ Text.trim x = x) : xs.filterMap Text.nonBlank? = xs :=
  Text.filterMap_nonBlank?_eq_self fun x hx => by simp [Text.nonBlank?, h x hx]

theorem itemsAt_listValue {m : Mapping} {key : String} {xs : List String}
    (h : xs.filterMap Text.nonBlank? = xs) (hm : m.get? key = listValue xs) : itemsAt m key = xs := by
  unfold itemsAt
  rw [hm, listValue, h]
  cases xs with
  | nil => rfl
  | cons x rest =>
    simp only [List.map_map]
    exact List.map_id _

theorem shownAt_textValue {m : Mapping} {key t : String} (hm : m.get? key = textValue t) :
    shownAt m key = t := by
  rw [shownAt, hm, textValue]
  split
  · rename_i h
    simpa using (String.isEmpty_iff.1 h).symm
  · rfl

theorem Form.text_of_get? {f : Form} {name t : String} (h : f.get? name = some (.text t)) :
    f.text name = t := by
  rw [Form.text, h]

namespace Slot

variable {s : Slot} {f : Form} {scope : String} {m : Mapping} {memory : FieldMemory}

/-- A number is shown as it was typed. -/
theorem read_write_number (hw : s.widget = .number) {t : String} (hf : f.text s.name = t)
    (ht : t = "" ∨ Text.isBlankText t = false) :
    s.read (s.write f scope (m, memory)).2 scope (s.write f scope (m, memory)).1 = .text t := by
  simp only [read, write, hw, hf, Table.get?_put, if_true]
  rcases ht with rfl | hblank
  · have hnone : Text.nonBlank? "" = none := by decide
    rw [hnone, FieldMemory.typedText?_none_of_get? (by simp [FieldMemory.get?_typed_remember])]
    simp [shownAt, Table.get?_put]
  · have hsome : Text.nonBlank? t = some (Text.trim t) := by simp [Text.nonBlank?, hblank]
    rw [hsome, Option.map_some, FieldMemory.typedText?_of_get? (t := t)]
    · rfl
    · simp [FieldMemory.get?_typed_remember]

/-- A JSON object is shown as it was typed. -/
theorem read_write_json (hw : s.widget = .json) {t : String} (hf : f.text s.name = t)
    (ht : t = "" ∨ ∃ fields, FieldMemory.IsObject t fields) :
    s.read (s.write f scope (m, memory)).2 scope (s.write f scope (m, memory)).1 = .text t := by
  simp only [read, write, hw, hf]
  rcases ht with rfl | ⟨fields, hobject⟩
  · rw [FieldMemory.putJson_of_isBlank memory m s.key (by decide),
      FieldMemory.typedText?_none_of_get? (by simp [Table.get?_erase])]
    simp [jsonAt, Table.get?_erase]
  · rw [FieldMemory.putJson_of_isObject memory m s.key hobject]
    simp only [Table.get?_insert, if_true]
    rw [FieldMemory.typedText?_of_get? (t := t)]
    · rfl
    · simp [Table.get?_insert]

/-- What is written for a slot is read back, if the entry is one that is kept. -/
theorem read_write (hkeys : s.keys.Nodup) {entry : Entry} (hf : f.get? s.name = some entry)
    (h : s.widget.Accepts entry) (scope : String) (state : Mapping × FieldMemory) :
    s.read (s.write f scope state).2 scope (s.write f scope state).1 = entry := by
  obtain ⟨m, memory⟩ := state
  cases hw : s.widget with
  | text =>
    cases entry with
    | text t =>
      simp only [read, write, hw, Form.text_of_get? hf]
      rw [shownAt_textValue (t := t) (by simp [Table.get?_put])]
    | _ => simp [Widget.Accepts, hw] at h
  | renamedText old =>
    cases entry with
    | text t =>
      have hne : s.key ≠ old := by simpa [keys, hw] using hkeys
      simp only [read, write, hw, Form.text_of_get? hf]
      rw [shownAt_textValue (t := t) (by simp [Table.get?_put])]
      split
      · rename_i hempty
        have hold : shownAt (((Table.erase old m).put s.key (textValue t))) old = "" := by
          simp [shownAt, Table.get?_put, Table.get?_erase, hne]
        rw [hold, String.isEmpty_iff.1 hempty]
      · rfl
    | _ => simp [Widget.Accepts, hw] at h
  | number =>
    cases entry with
    | text t => exact read_write_number hw (Form.text_of_get? hf) (by simpa [Widget.Accepts, hw] using h)
    | _ => simp [Widget.Accepts, hw] at h
  | json =>
    cases entry with
    | text t => exact read_write_json hw (Form.text_of_get? hf) (by simpa [Widget.Accepts, hw] using h)
    | _ => simp [Widget.Accepts, hw] at h
  | toggle =>
    cases entry with
    | toggle on =>
      have hon : f.toggle s.name = on := by rw [Form.toggle, hf]
      simp only [read, write, hw, hon, Table.get?_put, if_true]
      cases on <;> rfl
    | _ => simp [Widget.Accepts, hw] at h
  | list =>
    cases entry with
    | items xs =>
      have hxs : f.items s.name = xs := by rw [Form.items, hf]
      have hkept : ∀ x ∈ xs, Text.isBlankText x = false ∧ Text.trim x = x := by
        simpa [Widget.Accepts, hw] using h
      simp only [read, write, hw, hxs]
      rw [itemsAt_listValue (filterMap_nonBlank? hkept) (by simp [Table.get?_put])]
    | _ => simp [Widget.Accepts, hw] at h

end Slot

/-! ## Forms -/

namespace Form

variable {f : Form} {k : Kind}

theorem lookup_of_mem {entries : List (String × Entry)} {e : String × Entry}
    (hnames : (entries.map Prod.fst).Nodup) (he : e ∈ entries) : entries.lookup e.1 = some e.2 := by
  induction entries with
  | nil => simp at he
  | cons d rest ih =>
    obtain ⟨hd, hrest⟩ := List.nodup_cons.1 hnames
    rcases List.mem_cons.1 he with rfl | he
    · rw [List.lookup_cons, beq_self_eq_true]
    · have hne : (e.1 == d.1) = false := by
        rw [beq_eq_false_iff_ne]
        exact fun h => hd (h ▸ List.mem_map.2 ⟨e, he, rfl⟩)
      rw [List.lookup_cons, hne]
      exact ih hrest he

/-- The entry that a form has for a slot. -/
def shown (f : Form) (s : Slot) : Entry := (f.get? s.name).getD s.widget.blank

/-- The form has the entries of its layout, and nothing in them is lost when they are written. -/
structure Fits (f : Form) (k : Kind) : Prop where
  names : f.entries.map Prod.fst = (Layout.ofKind k).all.map Slot.name
  accepts : ∀ s ∈ (Layout.ofKind k).all, s.widget.Accepts (f.shown s)

instance (f : Form) (k : Kind) : Decidable (f.Fits k) :=
  decidable_of_iff (_ ∧ _) ⟨fun ⟨h, h'⟩ => ⟨h, h'⟩, fun h => ⟨h.names, h.accepts⟩⟩

theorem shown_of_get? {s : Slot} {entry : Entry} (h : f.get? s.name = some entry) : f.shown s = entry := by
  rw [shown, h, Option.getD_some]

theorem get?_eq_shown {slots : List Slot} {s : Slot} (hnames : f.entries.map Prod.fst = slots.map Slot.name)
    (hnodup : (slots.map Slot.name).Nodup) (hs : s ∈ slots) : f.get? s.name = some (f.shown s) := by
  have hmem : s.name ∈ f.entries.map Prod.fst := hnames ▸ List.mem_map.2 ⟨s, hs, rfl⟩
  obtain ⟨e, he, hname⟩ := List.mem_map.1 hmem
  have hentry : f.get? s.name = some e.2 := by
    rw [get?, ← hname]
    exact lookup_of_mem (hnames ▸ hnodup) he
  rw [hentry, shown_of_get? hentry]

/-- A form is what it has for the slots that it is named after. -/
theorem entries_eq {slots : List Slot} (hnames : f.entries.map Prod.fst = slots.map Slot.name)
    (hnodup : (slots.map Slot.name).Nodup) : f.entries = slots.map fun s => (s.name, f.shown s) := by
  have hlength : f.entries.length = slots.length := by simpa using congrArg List.length hnames
  refine List.ext_getElem (by simpa using hlength) fun i hi hi' => ?_
  have hslot : i < slots.length := hlength ▸ hi
  have hname : f.entries[i].1 = slots[i].name := by
    simpa [hi, hslot] using congrArg (·[i]?) hnames
  have hentry : f.get? slots[i].name = some f.entries[i].2 := by
    rw [get?, ← hname]
    exact lookup_of_mem (hnames ▸ hnodup) (List.getElem_mem hi)
  rw [List.getElem_map, shown_of_get? hentry, ← hname]

theorem entries_ofMapping (k : Kind) (memory : FieldMemory) (m : Mapping) :
    (ofMapping k memory m).entries =
      ((Layout.ofKind k).top.map fun s => (s.name, s.read memory "" m)) ++
        (Layout.ofKind k).inner.map fun s =>
          (s.name, s.read memory (Layout.ofKind k).scope (innerMapping m (Layout.ofKind k).scope)) :=
  rfl

theorem map_fst_ofMapping (k : Kind) (memory : FieldMemory) (m : Mapping) :
    (ofMapping k memory m).entries.map Prod.fst = (Layout.ofKind k).all.map Slot.name := by
  simp [entries_ofMapping, Layout.all, Function.comp_def]

/-- A form that is written over a document is read from it again. -/
theorem ofMapping_writeOver (h : f.Fits k) (memory : FieldMemory) (raw : Mapping) :
    ofMapping k (f.writeOver k memory raw).2 (f.writeOver k memory raw).1 = f := by
  have hl := Layout.lawful_ofKind k
  have htop : ∀ s ∈ (Layout.ofKind k).top,
      s.read (f.writeOver k memory raw).2 "" (f.writeOver k memory raw).1 = f.shown s := fun s hs => by
    have hall := List.mem_append_left (Layout.ofKind k).inner hs
    have hf := get?_eq_shown h.names hl.names hall
    rw [(same_writeOver_top hs f memory raw).read, Slot.read_write (Layout.nodup_keys hall) hf (h.accepts s hall)]
  have hinner : ∀ s ∈ (Layout.ofKind k).inner,
      s.read (f.writeOver k memory raw).2 (Layout.ofKind k).scope
        (innerMapping (f.writeOver k memory raw).1 (Layout.ofKind k).scope) = f.shown s := fun s hs => by
    have hall := List.mem_append_right (Layout.ofKind k).top hs
    have hf := get?_eq_shown h.names hl.names hall
    rw [(same_writeOver_inner hs f memory raw).read, Slot.read_write (Layout.nodup_keys hall) hf (h.accepts s hall)]
  have hread : (ofMapping k (f.writeOver k memory raw).2 (f.writeOver k memory raw).1).entries =
      (Layout.ofKind k).all.map fun s => (s.name, f.shown s) := by
    rw [entries_ofMapping, Layout.all, List.map_append]
    congr 1
    · exact List.map_congr_left fun s hs => by rw [htop s hs]
    · exact List.map_congr_left fun s hs => by rw [hinner s hs]
  rw [← entries_eq h.names hl.names] at hread
  exact congrArg Form.mk hread

end Form

/-! ## Editors -/

namespace Editor

/-- The text that is written for a form reads as the mapping that was written. -/
def ReadsBack (e : Editor) (f : Form) : Prop :=
  Document.readMapping (e.writeDocument f).1 = .ok (e.mappingOf f).1

instance (e : Editor) (f : Form) : Decidable (e.ReadsBack f) := inferInstanceAs (Decidable (_ = _))

/-- A form is read from its document as it was typed, whatever was loaded and typed before. -/
theorem readDocument_writeDocument {e : Editor} {f : Form} (hf : f.Fits e.kind) (hy : e.ReadsBack f) :
    (e.writeDocument f).2.readDocument (e.writeDocument f).1 = .ok f := by
  have hform : Form.ofMapping e.kind (e.mappingOf f).2 (e.mappingOf f).1 = f :=
    Form.ofMapping_writeOver hf e.memory e.raw
  rw [readDocument, hy]
  exact congrArg Except.ok hform

/-- An editor that shows an API profile with a key of its own. -/
def loadedApi : Editor :=
  ((new .api 500).load "id: a\ntimeout: 7\nheaders:\n  B: 2\nteam: red\n").toOption.getD (new .api 500)

/-- A form with numbers and JSON text in spellings that are not stored. -/
def typedApi : Form :=
  loadedApi.form |>.set "timeout" (.text " 05") |>.set "rpm" (.text "+1.50") |>.set "concurrency" (.text "many")
    |>.set "headers" (.text "\x7b\"A\":1e2,\"A\":\t2\x7d") |>.set "members" (.items ["b", "c"])

theorem readDocument_writeDocument_typedApi :
    typedApi.Fits loadedApi.kind ∧ loadedApi.ReadsBack typedApi ∧
      (loadedApi.writeDocument typedApi).2.readDocument (loadedApi.writeDocument typedApi).1 = .ok typedApi := by
  have hf : typedApi.Fits loadedApi.kind := by decide +kernel
  have hy : loadedApi.ReadsBack typedApi := by decide +kernel
  exact ⟨hf, hy, readDocument_writeDocument hf hy⟩

end Editor
end ProfileKit

import ProfileKit.Proofs.Editor.Local
import ProfileKit.Proofs.Profile.Faults

/-!
# Documents that are opened and written unedited

A new editor that loads a document and writes its form as it is writes every slot as what was shown for it
(`Slot.unedited`), and nothing else changes (`Editor.unedited_display`). As nothing is remembered yet, what is
written is a function of the document.
-/

namespace ProfileKit

/-- The value that is written for a slot of a document when nothing was edited and nothing remembered. -/
def Slot.unedited (s : Slot) (m : Mapping) : Option Json :=
  match s.widget with
  | .text => textValue (shownAt m s.key)
  | .renamedText old =>
    textValue (if (shownAt m s.key).isEmpty then shownAt m old else shownAt m s.key)
  | .number => (Text.nonBlank? (shownAt m s.key)).map typedValue
  | .json => Field.present (m.get? s.key)
  | .toggle => ((m.get? s.key).bind Json.asBool?).map .bool
  | .list => listValue (itemsAt m s.key)

/-- The text that is shown for a value is read as it. -/
def Json.TextReadsBack (v : Json) : Prop := Json.read? v.renderIndented = some v

instance (v : Json) : Decidable v.TextReadsBack := inferInstanceAs (Decidable (_ = _))

namespace Slot

variable {s : Slot} {scope : String} {f : Form} {m : Mapping} {memory shownBy : FieldMemory}

theorem write_unedited_json (hw : s.widget = .json) (hf : f.text s.name = jsonAt m s.key)
    (hjson : ∀ v ∈ m.get? s.key, v.TextReadsBack)
    (hgood : ∀ v, memory.lastGood.get? s.key = some v → m.get? s.key = some v) :
    (s.write f scope (m, memory)).1.get? s.key = Field.present (m.get? s.key) := by
  simp only [write, hw, hf]
  by_cases hnull : m.get? s.key = none ∨ m.get? s.key = some .null
  · have hblank : jsonAt m s.key = "" := by
      rcases hnull with h | h <;> simp [jsonAt, h]
    have hpresent : Field.present (m.get? s.key) = none := by
      rcases hnull with h | h <;> simp [Field.present, h]
    rw [hblank, hpresent, FieldMemory.putJson_of_isBlank _ _ _ (by decide)]
    simp [Table.get?_erase]
  · obtain ⟨hnone, hnull⟩ := not_or.1 hnull
    obtain ⟨v, hv⟩ := Option.ne_none_iff_exists'.1 hnone
    rw [Field.present_eq_self hnull]
    have hshown : jsonAt m s.key = v.renderIndented := by
      unfold jsonAt
      split
      · simp_all
      · simp_all
      · rename_i w _ hw'
        rw [hv] at hw'
        rw [Option.some.inj hw']
    have hread : Json.read? (jsonAt m s.key) = some v := hshown ▸ hjson v hv
    rcases FieldMemory.jsonText_cases (jsonAt m s.key) with hblank | ⟨fields, hobject⟩ | ⟨hblank, hrefused⟩
    · rw [Json.read?_of_isBlankText hblank] at hread
      cases hread
    · obtain rfl : v = .object fields := Option.some.inj (hread.symm.trans hobject)
      rw [FieldMemory.putJson_of_isObject _ _ _ hobject, Table.get?_insert, if_pos rfl, hv]
    · obtain ⟨reason, hr⟩ := FieldMemory.putJson_of_refused memory m s.key hblank hrefused
      rw [hr, FieldMemory.get?_refuse, if_pos rfl]
      cases hlast : memory.lastGood.get? s.key with
      | none => rfl
      | some w => rw [Option.some_or, hgood w hlast]

theorem typedText?_of_nil (h : memory.typed = []) (path : String) (v : Option Json) :
    memory.typedText? path v = none := FieldMemory.typedText?_none_of_get? (by simp [h, Table.get?]) v

/-- What is written for a slot that still has the entry it was shown with. -/
theorem get?_write_unedited (hf : f.get? s.name = some (s.read shownBy scope m)) (htyped : shownBy.typed = [])
    (hjson : s.widget = .json → ∀ v ∈ m.get? s.key, v.TextReadsBack)
    (hgood : s.widget = .json → ∀ v, memory.lastGood.get? s.key = some v → m.get? s.key = some v) :
    (s.write f scope (m, memory)).1.get? s.key = s.unedited m := by
  cases hw : s.widget with
  | json =>
    simp only [read, hw, typedText?_of_nil htyped, Option.getD_none] at hf
    simp only [unedited, hw]
    exact write_unedited_json hw (Form.text_of_get? hf) (hjson hw) (hgood hw)
  | toggle =>
    simp only [read, hw] at hf
    simp [write, unedited, hw, Form.toggle, hf, Table.get?_put]
  | list =>
    simp only [read, hw] at hf
    simp [write, unedited, hw, Form.items, hf, Table.get?_put]
  | number =>
    simp only [read, hw, typedText?_of_nil htyped, Option.getD_none] at hf
    simp [write, unedited, hw, Form.text_of_get? hf, Table.get?_put]
  | _ =>
    simp only [read, hw] at hf
    simp [write, unedited, hw, Form.text_of_get? hf, Table.get?_put]

/-- Writing a slot keeps the order of a mapping. -/
theorem sorted_write (h : m.Sorted) : (s.write f scope (m, memory)).1.Sorted := by
  cases hw : s.widget with
  | json =>
    simp only [write, hw]
    rcases FieldMemory.jsonText_cases (f.text s.name) with hb | ⟨fields, ho⟩ | ⟨hb, ho⟩
    · rw [FieldMemory.putJson_of_isBlank _ _ _ hb]
      exact Table.sorted_erase h _
    · rw [FieldMemory.putJson_of_isObject _ _ _ ho]
      exact Table.sorted_insert h _ _
    · obtain ⟨reason, hr⟩ := FieldMemory.putJson_of_refused memory m s.key hb ho
      rw [hr, FieldMemory.refuse]
      cases memory.lastGood.get? s.key <;> cases memory.warned.contains s.key <;>
        simp [h, Table.sorted_insert]
  | renamedText old =>
    simp only [write, hw]
    exact Table.sorted_put (Table.sorted_erase h old) _ _
  | _ =>
    simp only [write, hw]
    exact Table.sorted_put h _ _

theorem sorted_writeSlots {slots : List Slot} {state : Mapping × FieldMemory} (h : state.1.Sorted) :
    (writeSlots slots f scope state).1.Sorted := by
  induction slots generalizing state with
  | nil => exact h
  | cons s rest ih => exact ih (sorted_write h)

end Slot

/-! ## Forms -/

/-- A mapping holds for every slot what is written for it when another mapping is shown and not edited. -/
structure Resaved (slots : List Slot) (before after : Mapping) : Prop where
  wellFormed : (Json.object before).WellFormed
  sorted : after.Sorted
  get? : ∀ s ∈ slots, after.get? s.key = s.unedited before

/-- A document is what writing another one unedited gives. -/
structure Unedited (k : Kind) (raw written : Mapping) : Prop where
  top : Resaved (Layout.ofKind k).top raw written
  other : ∀ key, key ∉ (Layout.ofKind k).keys → written.get? key = raw.get? key
  old : ∀ s ∈ (Layout.ofKind k).top, ∀ old, s.widget = .renamedText old → written.get? old = none
  inner : (Layout.ofKind k).inner ≠ [] →
    ∃ inner : Mapping, Resaved (Layout.ofKind k).inner (innerMapping raw (Layout.ofKind k).scope) inner ∧
      written.get? (Layout.ofKind k).scope = mappingValue inner

/-- A form that is written over the document that it was read from, with nothing remembered. -/
theorem Form.unedited_writeOver {k : Kind} {memory shownBy : FieldMemory} {raw : Mapping}
    (hraw : (Json.object raw).WellFormed) (htyped : shownBy.typed = [])
    (hjson : ∀ s ∈ (Layout.ofKind k).top, s.widget = .json → ∀ v ∈ raw.get? s.key, v.TextReadsBack)
    (hgood : ∀ key v, memory.lastGood.get? key = some v → raw.get? key = some v) :
    Unedited k raw ((Form.ofMapping k shownBy raw).writeOver k memory raw).1 := by
  generalize hf : Form.ofMapping k shownBy raw = f
  have hl := Layout.lawful_ofKind k
  refine ⟨⟨hraw, ?_, fun s hs => ?_⟩, fun key hkey => Form.get?_writeOver hkey f memory raw,
    fun s hs old hw => Form.get?_old_writeOver hs hw f memory raw, fun hne => ?_⟩
  · have htopSorted : (f.writeTop k memory raw).1.Sorted := Slot.sorted_writeSlots hraw.sorted
    cases hempty : (Layout.ofKind k).inner.isEmpty with
    | true =>
      rw [Form.writeOver_of_isEmpty hempty]
      exact htopSorted
    | false =>
      rw [Form.writeOver_of_not_isEmpty hempty]
      exact Table.sorted_put htopSorted _ _
  · rw [(Form.same_writeOver_top hs f memory raw).mapping s.key s.key_mem_keys]
    exact Slot.get?_write_unedited (hf ▸ Form.get?_ofMapping_top hs) htyped (hjson s hs) fun _ => hgood s.key
  · have hempty : (Layout.ofKind k).inner.isEmpty = false := List.isEmpty_eq_false_iff.2 hne
    have hinner := hraw.innerMapping (Layout.ofKind k).scope
    refine ⟨(f.writeInner k memory raw).1, ⟨hinner, ?_, fun s hs => ?_⟩, ?_⟩
    · exact Slot.sorted_writeSlots (Form.innerMapping_writeTop f k memory raw ▸ hinner.sorted)
    · rw [← Form.innerMapping_writeOver hempty,
        (Form.same_writeOver_inner hs f memory raw).mapping s.key s.key_mem_keys]
      have hnotJson := hl.innerJson s hs
      exact Slot.get?_write_unedited (hf ▸ Form.get?_ofMapping_inner hs) htyped (fun hw => absurd hw hnotJson)
        fun hw => absurd hw hnotJson
    · rw [Form.writeOver_of_not_isEmpty hempty, Table.get?_put, if_pos rfl]

/-! ## Editors -/

theorem mem_of_get?_foldl_insert {entries : List (String × Json)} {t : Table String Json} {key : String}
    {v : Json} (h : Table.get? key (entries.foldl (fun t e => t.insert e.1 e.2) t) = some v) :
    (key, v) ∈ entries ∨ t.get? key = some v := by
  induction entries generalizing t with
  | nil => exact .inr h
  | cons e rest ih =>
    rcases ih h with hmem | hget
    · exact .inl (List.mem_cons_of_mem e hmem)
    · rw [Table.get?_insert] at hget
      split at hget
      · rename_i hkey
        rw [← hkey, ← Option.some.inj hget]
        exact .inl List.mem_cons_self
      · exact .inr hget

/-- The last good values are values of the document. -/
theorem FieldMemory.get?_of_get?_lastGood_seed {memory : FieldMemory} {map : Mapping} {fields : List String}
    {key : String} {v : Json} (h : (memory.seed map fields).lastGood.get? key = some v) :
    map.get? key = some v := by
  rcases mem_of_get?_foldl_insert h with hmem | hnil
  · obtain ⟨field, -, hfield⟩ := List.mem_filterMap.1 hmem
    split at hfield
    · rename_i o ho
      obtain ⟨rfl, rfl⟩ := Prod.mk.inj (Option.some.inj hfield)
      exact ho
    · cases hfield
  · simp [Table.get?] at hnil

namespace Editor

theorem load_new {k : Kind} {text : String} {raw : Mapping} (hread : Document.readMapping text = .ok raw)
    (delay : Nat) :
    (Editor.new k delay).load text = .ok ((Editor.new k delay).display raw text) := by
  simp [load, hread, Except.map, park, isPending, new, Debounce.ofDelay, Debounce.isPending]

/-- A new editor that shows a document writes its form as an unedited one. -/
theorem unedited_display {k : Kind} {raw : Mapping} (hraw : (Json.object raw).WellFormed)
    (hjson : ∀ s ∈ (Layout.ofKind k).top, s.widget = .json → ∀ v ∈ raw.get? s.key, v.TextReadsBack)
    (delay : Nat) (text : String) :
    let e := (Editor.new k delay).display raw text
    Unedited k raw (e.mappingOf e.form).1 := by
  refine Form.unedited_writeOver hraw ?_ hjson fun key v => FieldMemory.get?_of_get?_lastGood_seed
  split <;> rfl

end Editor
end ProfileKit

import ProfileKit.Editor.Binding
import ProfileKit.Proofs.Editor.FieldMemory
import ProfileKit.Proofs.Table

/-!
# Slots are written one by one

A slot has its own keys in the mapping and its own name in the memory, and the slots of a layout share
neither (`Layout.lawful_ofKind`). So a form is written as if each slot were the only one: to a slot the
mapping and the memory look afterwards as if only that slot had been written (`Form.same_writeOver_top`,
`Form.same_writeOver_inner`), and keys of no slot are left alone (`Form.get?_writeOver`,
`Form.get?_innerMapping_writeOver`). What is left to say about a form is about one slot.
-/

namespace ProfileKit

namespace Slot

variable {s : Slot} {scope : String} {f : Form} {state state' : Mapping × FieldMemory}

/-- The keys of a mapping that a slot reads and writes. -/
def keys (s : Slot) : List String :=
  match s.widget with
  | .renamedText old => [s.key, old]
  | _ => [s.key]

/-- The name under which the text typed for a slot is remembered. -/
def path (s : Slot) (scope : String) : String :=
  match s.widget with
  | .json => s.key
  | _ => fieldPath scope s.key

/-- Two states look the same to a slot. -/
structure Same (s : Slot) (scope : String) (state state' : Mapping × FieldMemory) : Prop where
  mapping : ∀ key ∈ s.keys, state.1.get? key = state'.1.get? key
  typed : state.2.typed.get? (s.path scope) = state'.2.typed.get? (s.path scope)
  lastGood : s.widget = .json → state.2.lastGood.get? s.key = state'.2.lastGood.get? s.key

theorem key_mem_keys (s : Slot) : s.key ∈ s.keys := by
  unfold keys
  split <;> simp

theorem Same.refl (s : Slot) (scope : String) (state : Mapping × FieldMemory) : s.Same scope state state :=
  ⟨fun _ _ => rfl, rfl, fun _ => rfl⟩

theorem Same.trans {state'' : Mapping × FieldMemory} (h : s.Same scope state state')
    (h' : s.Same scope state' state'') : s.Same scope state state'' :=
  ⟨fun key hk => (h.mapping key hk).trans (h'.mapping key hk), h.typed.trans h'.typed,
    fun hw => (h.lastGood hw).trans (h'.lastGood hw)⟩

/-! ## Frames -/

/-- A slot is written to its own keys. -/
theorem get?_write {key : String} (h : key ∉ s.keys) (f : Form) (scope : String)
    (state : Mapping × FieldMemory) : (s.write f scope state).1.get? key = state.1.get? key := by
  obtain ⟨m, memory⟩ := state
  have hkey : s.key ≠ key := fun e => h (e ▸ s.key_mem_keys)
  cases hw : s.widget with
  | renamedText old =>
    have hold : old ≠ key := fun e => h (by simp [keys, hw, e])
    simp [write, hw, Table.get?_put, Table.get?_erase, hkey, hold]
  | json => simpa only [write, hw] using (FieldMemory.putJson_frame memory m _ hkey).1
  | _ => simp [write, hw, Table.get?_put, hkey]

/-- What was typed for a slot is remembered under its own name. -/
theorem typed_write {path : String} (h : s.path scope ≠ path) (f : Form) (state : Mapping × FieldMemory) :
    (s.write f scope state).2.typed.get? path = state.2.typed.get? path := by
  obtain ⟨m, memory⟩ := state
  cases hw : s.widget with
  | number =>
    simp only [Slot.path, hw] at h
    simp [write, hw, FieldMemory.get?_typed_remember, h]
  | json =>
    simp only [Slot.path, hw] at h
    simpa only [write, hw] using (FieldMemory.putJson_frame memory m _ h).2.1
  | _ => simp [write, hw]

/-- Only JSON text has a last good value. -/
theorem lastGood_write {key : String} (h : s.widget = .json → s.key ≠ key) (f : Form) (scope : String)
    (state : Mapping × FieldMemory) :
    (s.write f scope state).2.lastGood.get? key = state.2.lastGood.get? key := by
  obtain ⟨m, memory⟩ := state
  cases hw : s.widget with
  | json => simpa only [write, hw] using (FieldMemory.putJson_frame memory m _ (h hw)).2.2
  | _ => simp [write, hw, FieldMemory.remember]

/-- Writing another slot does not show. -/
theorem same_write_of_disjoint {t : Slot} (hkeys : ∀ key ∈ s.keys, key ∉ t.keys)
    (hpath : t.path scope ≠ s.path scope) (f : Form) (state : Mapping × FieldMemory) :
    s.Same scope (t.write f scope state) state where
  mapping key hk := get?_write (hkeys key hk) f scope state
  typed := typed_write hpath f state
  lastGood _ := by
    refine lastGood_write (fun _ e => hkeys s.key s.key_mem_keys ?_) f scope state
    exact e ▸ t.key_mem_keys

/-- What a slot is written as depends on what it looks at. -/
theorem Same.write (h : s.Same scope state state') (f : Form) :
    s.Same scope (s.write f scope state) (s.write f scope state') := by
  obtain ⟨m, memory⟩ := state
  obtain ⟨m', memory'⟩ := state'
  have hkey := h.mapping s.key s.key_mem_keys
  have htyped := h.typed
  have hother : ∀ key ∈ s.keys, key ≠ s.key → m.get? key = m'.get? key := fun key hk _ => h.mapping key hk
  cases hw : s.widget with
  | json =>
    have hpath : s.path scope = s.key := by simp [Slot.path, hw]
    rw [hpath] at htyped
    have hc := FieldMemory.putJson_congr (f.text s.name) hkey htyped (h.lastGood hw)
    refine ⟨fun key hk => ?_, ?_, fun _ => ?_⟩
    · obtain rfl : key = s.key := by simpa [keys, hw] using hk
      simpa only [Slot.write, hw] using hc.1
    · rw [hpath]
      simpa only [Slot.write, hw] using hc.2.1
    · simpa only [Slot.write, hw] using hc.2.2
  | renamedText old =>
    refine ⟨fun key hk => ?_, by simpa only [Slot.write, hw] using htyped, by simp [hw]⟩
    simp only [Slot.write, hw, Table.get?_put, Table.get?_erase]
    split
    · rfl
    · split
      · rfl
      · exact h.mapping key hk
  | number =>
    have hpath : s.path scope = fieldPath scope s.key := by simp [Slot.path, hw]
    refine ⟨fun key hk => ?_, ?_, by simp [hw]⟩
    · obtain rfl : key = s.key := by simpa [keys, hw] using hk
      simp [Slot.write, hw, Table.get?_put]
    · rw [hpath]
      simp [Slot.write, hw, FieldMemory.get?_typed_remember]
  | _ =>
    refine ⟨fun key hk => ?_, by simpa only [Slot.write, hw] using htyped, by simp [hw]⟩
    obtain rfl : key = s.key := by simpa [keys, hw] using hk
    simp [Slot.write, hw, Table.get?_put]

/-- What a slot shows depends on what it looks at. -/
theorem Same.read (h : s.Same scope state state') :
    s.read state.2 scope state.1 = s.read state'.2 scope state'.1 := by
  have hkey := h.mapping s.key s.key_mem_keys
  have hshown : shownAt state.1 s.key = shownAt state'.1 s.key := by rw [shownAt, hkey, shownAt]
  have htyped := h.typed
  cases hw : s.widget with
  | renamedText old =>
    have hold := h.mapping old (by simp [keys, hw])
    have hshown' : shownAt state.1 old = shownAt state'.1 old := by rw [shownAt, hold, shownAt]
    simp only [Slot.read, hw, hshown, hshown']
  | number =>
    simp only [Slot.path, hw] at htyped
    simp only [Slot.read, hw, hshown, hkey, FieldMemory.typedText?_congr htyped]
  | json =>
    simp only [Slot.path, hw] at htyped
    simp only [Slot.read, hw, jsonAt, hkey, FieldMemory.typedText?_congr htyped]
  | list => simp only [Slot.read, hw, itemsAt, hkey]
  | toggle => simp only [Slot.read, hw, hkey]
  | text => simp only [Slot.read, hw, hshown]

end Slot

/-! ## Lists of slots -/

section
variable {slots : List Slot} {f : Form} {scope : String} {state : Mapping × FieldMemory}

theorem get?_writeSlots {key : String} (h : key ∉ slots.flatMap Slot.keys) (f : Form) (scope : String)
    (state : Mapping × FieldMemory) : (writeSlots slots f scope state).1.get? key = state.1.get? key := by
  induction slots generalizing state with
  | nil => rfl
  | cons t rest ih =>
    simp only [List.flatMap_cons, List.mem_append, not_or] at h
    exact (ih h.2 (t.write f scope state)).trans (Slot.get?_write h.1 f scope state)

theorem typed_writeSlots {path : String} (h : path ∉ slots.map (Slot.path · scope)) (f : Form)
    (state : Mapping × FieldMemory) :
    (writeSlots slots f scope state).2.typed.get? path = state.2.typed.get? path := by
  induction slots generalizing state with
  | nil => rfl
  | cons t rest ih =>
    simp only [List.map_cons, List.mem_cons, not_or] at h
    exact (ih h.2 (t.write f scope state)).trans (Slot.typed_write (Ne.symm h.1) f state)

theorem lastGood_writeSlots (h : ∀ s ∈ slots, s.widget ≠ .json) (f : Form) (scope key : String)
    (state : Mapping × FieldMemory) :
    (writeSlots slots f scope state).2.lastGood.get? key = state.2.lastGood.get? key := by
  induction slots generalizing state with
  | nil => rfl
  | cons t rest ih =>
    exact (ih (fun s hs => h s (by simp [hs])) (t.write f scope state)).trans
      (Slot.lastGood_write (fun hw => absurd hw (h t (by simp))) f scope state)

/-- Writing other slots does not show. -/
theorem Slot.same_writeSlots_of_disjoint {s : Slot} (hkeys : ∀ key ∈ s.keys, key ∉ slots.flatMap Slot.keys)
    (hpath : s.path scope ∉ slots.map (Slot.path · scope)) (f : Form) (state : Mapping × FieldMemory) :
    s.Same scope (writeSlots slots f scope state) state := by
  induction slots generalizing state with
  | nil => exact .refl s scope state
  | cons t rest ih =>
    simp only [List.flatMap_cons, List.mem_append, not_or, List.map_cons, List.mem_cons] at hkeys hpath
    exact (ih (fun key hk => (hkeys key hk).2) hpath.2 _).trans
      (same_write_of_disjoint (fun key hk => (hkeys key hk).1) (Ne.symm hpath.1) f state)

/-- Of slots that share nothing, each is written as if it were the only one. -/
theorem Slot.same_writeSlots {s : Slot} (hs : s ∈ slots) (hkeys : (slots.flatMap Slot.keys).Nodup)
    (hpaths : (slots.map (Slot.path · scope)).Nodup) (f : Form) (state : Mapping × FieldMemory) :
    s.Same scope (writeSlots slots f scope state) (s.write f scope state) := by
  induction slots generalizing state with
  | nil => simp at hs
  | cons t rest ih =>
    rw [List.flatMap_cons, List.nodup_append] at hkeys
    obtain ⟨-, hkeys, hdisjoint⟩ := hkeys
    obtain ⟨hpath, hpaths⟩ := List.nodup_cons.1 hpaths
    rcases List.mem_cons.1 hs with rfl | hs
    · exact same_writeSlots_of_disjoint (fun key hk hk' => hdisjoint key hk key hk' rfl) hpath f _
    · have hframe : s.Same scope (t.write f scope state) state :=
        same_write_of_disjoint
          (fun key hk hk' => hdisjoint key hk' key (List.mem_flatMap.2 ⟨s, hs, hk⟩) rfl)
          (fun e => hpath (List.mem_map.2 ⟨s, hs, e.symm⟩)) f state
      exact (ih hs hkeys hpaths (t.write f scope state)).trans (hframe.write f)

end

/-! ## Layouts -/

namespace Layout

/-- The keys of a document that the form of a layout edits. -/
def keys (l : Layout) : List String :=
  l.top.flatMap Slot.keys ++ if l.inner.isEmpty then [] else [l.scope]

/-- The keys that the form edits of the mapping inside the document. -/
def innerKeys (l : Layout) : List String := l.inner.flatMap Slot.keys

/-- The slots of a layout share nothing. -/
structure Lawful (l : Layout) : Prop where
  names : (l.all.map Slot.name).Nodup
  topKeys : (l.top.flatMap Slot.keys).Nodup
  innerKeys : l.innerKeys.Nodup
  scope : l.scope ∉ l.top.flatMap Slot.keys
  paths : (l.top.map (Slot.path · "") ++ l.inner.map (Slot.path · l.scope)).Nodup
  innerJson : ∀ s ∈ l.inner, s.widget ≠ .json

theorem lawful_ofKind (k : Kind) : (ofKind k).Lawful := by
  cases k <;> constructor <;> decide +kernel

/-- No slot has its old key for a new one. -/
theorem nodup_keys {k : Kind} {s : Slot} (hs : s ∈ (ofKind k).all) : s.keys.Nodup := by
  revert s
  cases k <;> decide

end Layout

/-! ## Forms -/

theorem innerMapping_put (m inner : Mapping) (scope : String) :
    innerMapping (m.put scope (mappingValue inner)) scope = inner := by
  cases inner with
  | nil => simp [innerMapping, mappingValue, Table.get?_put]
  | cons e rest => simp [innerMapping, mappingValue, Table.get?_put]

theorem innerMapping_congr {m m' : Mapping} {scope : String} (h : m.get? scope = m'.get? scope) :
    innerMapping m scope = innerMapping m' scope := by
  rw [innerMapping, h, innerMapping]

namespace Form

variable {k : Kind} {f : Form} {memory : FieldMemory} {raw : Mapping}

/-- What the slots of the document itself leave. -/
def writeTop (f : Form) (k : Kind) (memory : FieldMemory) (raw : Mapping) : Mapping × FieldMemory :=
  writeSlots (Layout.ofKind k).top f "" (raw, memory)

/-- What the slots of the mapping inside the document leave. -/
def writeInner (f : Form) (k : Kind) (memory : FieldMemory) (raw : Mapping) : Mapping × FieldMemory :=
  writeSlots (Layout.ofKind k).inner f (Layout.ofKind k).scope
    (innerMapping (f.writeTop k memory raw).1 (Layout.ofKind k).scope, (f.writeTop k memory raw).2)

theorem writeOver_of_isEmpty (h : (Layout.ofKind k).inner.isEmpty = true) (f : Form) (memory : FieldMemory)
    (raw : Mapping) : f.writeOver k memory raw = f.writeTop k memory raw := by
  simp only [writeOver, writeTop, h, if_true]

theorem writeOver_of_not_isEmpty (h : (Layout.ofKind k).inner.isEmpty = false) (f : Form)
    (memory : FieldMemory) (raw : Mapping) :
    f.writeOver k memory raw =
      ((f.writeTop k memory raw).1.put (Layout.ofKind k).scope (mappingValue (f.writeInner k memory raw).1),
        (f.writeInner k memory raw).2) := by
  simp only [writeOver, writeInner, writeTop, h, Bool.false_eq_true, if_false]

/-- The mapping inside the document is not touched by the slots of the document itself. -/
theorem innerMapping_writeTop (f : Form) (k : Kind) (memory : FieldMemory) (raw : Mapping) :
    innerMapping (f.writeTop k memory raw).1 (Layout.ofKind k).scope =
      innerMapping raw (Layout.ofKind k).scope :=
  innerMapping_congr (get?_writeSlots (Layout.lawful_ofKind k).scope f "" (raw, memory))

/-- Keys that a form does not edit are left alone. -/
theorem get?_writeOver {key : String} (h : key ∉ (Layout.ofKind k).keys) (f : Form) (memory : FieldMemory)
    (raw : Mapping) : (f.writeOver k memory raw).1.get? key = raw.get? key := by
  simp only [Layout.keys, List.mem_append, not_or] at h
  cases hinner : (Layout.ofKind k).inner.isEmpty with
  | true =>
    rw [writeOver_of_isEmpty hinner]
    exact get?_writeSlots h.1 f "" (raw, memory)
  | false =>
    have hscope : (Layout.ofKind k).scope ≠ key := fun e => h.2 (by simp [hinner, e])
    rw [writeOver_of_not_isEmpty hinner, Table.get?_put, if_neg hscope]
    exact get?_writeSlots h.1 f "" (raw, memory)

theorem innerMapping_writeOver (h : (Layout.ofKind k).inner.isEmpty = false) (f : Form)
    (memory : FieldMemory) (raw : Mapping) :
    innerMapping (f.writeOver k memory raw).1 (Layout.ofKind k).scope = (f.writeInner k memory raw).1 := by
  rw [writeOver_of_not_isEmpty h, innerMapping_put]

/-- Keys of the mapping inside a document that a form does not edit are left alone. -/
theorem get?_innerMapping_writeOver {key : String} (h : key ∉ (Layout.ofKind k).innerKeys)
    (hinner : (Layout.ofKind k).inner.isEmpty = false) (f : Form) (memory : FieldMemory) (raw : Mapping) :
    (innerMapping (f.writeOver k memory raw).1 (Layout.ofKind k).scope).get? key =
      (innerMapping raw (Layout.ofKind k).scope).get? key := by
  rw [innerMapping_writeOver hinner, writeInner, get?_writeSlots h, innerMapping_writeTop]

/-- To a slot of the document itself a form is written as if there were no other slot. -/
theorem same_writeOver_top {s : Slot} (hs : s ∈ (Layout.ofKind k).top) (f : Form) (memory : FieldMemory)
    (raw : Mapping) : s.Same "" (f.writeOver k memory raw) (s.write f "" (raw, memory)) := by
  have hl := Layout.lawful_ofKind k
  have hpaths := List.nodup_append.1 hl.paths
  have htop : s.Same "" (f.writeTop k memory raw) (s.write f "" (raw, memory)) :=
    Slot.same_writeSlots hs hl.topKeys hpaths.1 f (raw, memory)
  cases hinner : (Layout.ofKind k).inner.isEmpty with
  | true => rwa [writeOver_of_isEmpty hinner]
  | false =>
    refine Slot.Same.trans ?_ htop
    rw [writeOver_of_not_isEmpty hinner]
    refine ⟨fun key hk => ?_, ?_, fun _ => ?_⟩
    · have hscope : (Layout.ofKind k).scope ≠ key := fun e =>
        hl.scope (List.mem_flatMap.2 ⟨s, hs, e ▸ hk⟩)
      rw [Table.get?_put, if_neg hscope]
    · exact typed_writeSlots
        (fun hmem => hpaths.2.2 _ (List.mem_map.2 ⟨s, hs, rfl⟩) _ hmem rfl) f _
    · exact lastGood_writeSlots hl.innerJson f _ _ _

/-- To a slot of the mapping inside a document a form is written as if there were no other slot. -/
theorem same_writeOver_inner {s : Slot} (hs : s ∈ (Layout.ofKind k).inner) (f : Form) (memory : FieldMemory)
    (raw : Mapping) :
    s.Same (Layout.ofKind k).scope
      (innerMapping (f.writeOver k memory raw).1 (Layout.ofKind k).scope, (f.writeOver k memory raw).2)
      (s.write f (Layout.ofKind k).scope (innerMapping raw (Layout.ofKind k).scope, memory)) := by
  have hl := Layout.lawful_ofKind k
  have hpaths := List.nodup_append.1 hl.paths
  have hinner : (Layout.ofKind k).inner.isEmpty = false := by
    rw [List.isEmpty_eq_false_iff]
    exact List.ne_nil_of_mem hs
  have hstart : s.Same (Layout.ofKind k).scope
      (innerMapping (f.writeTop k memory raw).1 (Layout.ofKind k).scope, (f.writeTop k memory raw).2)
      (innerMapping raw (Layout.ofKind k).scope, memory) := by
    refine ⟨fun key _ => by rw [innerMapping_writeTop], ?_, fun hw => absurd hw (hl.innerJson s hs)⟩
    exact typed_writeSlots (fun hmem => hpaths.2.2 _ hmem _ (List.mem_map.2 ⟨s, hs, rfl⟩) rfl) f _
  have hwrite := Slot.same_writeSlots hs hl.innerKeys hpaths.2.1 f
    (innerMapping (f.writeTop k memory raw).1 (Layout.ofKind k).scope, (f.writeTop k memory raw).2)
  rw [innerMapping_writeOver hinner, writeOver_of_not_isEmpty hinner]
  exact hwrite.trans (hstart.write f)

end Form
end ProfileKit

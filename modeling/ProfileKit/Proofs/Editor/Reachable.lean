import ProfileKit.Editor
import ProfileKit.Proofs.Document
import ProfileKit.Proofs.Editor.Binding

/-!
# Editors that calls lead to

Whatever is called on a new editor, the mapping it shows is one that was read from a text, and a text that
it remembers for a field is one that gives the value it is remembered with (`Reachable.sound`). A call
changes the memory by writing forms and by forgetting, and neither leaves a text with another value.
-/

namespace ProfileKit

/-- The value that a text typed for a field of this kind is stored as. -/
def Widget.Gives : Widget → String → Json → Prop
  | .number, typed, v => (Text.nonBlank? typed).map typedValue = some v
  | .json, typed, v => ∃ fields, v = .object fields ∧ FieldMemory.IsObject typed fields
  | _, _, _ => True

/-- A text that is remembered for a slot gives the value that it is remembered with. -/
def Slot.Remembers (s : Slot) (scope : String) (memory : FieldMemory) : Prop :=
  ∀ text v, memory.typed.get? (s.path scope) = some (text, v) → s.widget.Gives text v

/-- Texts are remembered with the values that they give. -/
structure FieldMemory.Sound (k : Kind) (memory : FieldMemory) : Prop where
  top : ∀ s ∈ (Layout.ofKind k).top, s.Remembers "" memory
  inner : ∀ s ∈ (Layout.ofKind k).inner, s.Remembers (Layout.ofKind k).scope memory

/-! ## Memories -/

section

variable {s : Slot} {scope : String} {k : Kind} {memory memory' : FieldMemory} {f : Form}

theorem Slot.Remembers.congr (h : s.Remembers scope memory)
    (htyped : memory'.typed.get? (s.path scope) = memory.typed.get? (s.path scope)) :
    s.Remembers scope memory' := fun text v hv => h text v (htyped ▸ hv)

/-- A text that is shown for a value gives one that agrees with it. -/
theorem Slot.Remembers.of_typedText? (h : s.Remembers scope memory) {v : Json} {text : String}
    (ht : memory.typedText? (s.path scope) (some v) = some text) :
    ∃ w, memory.typed.get? (s.path scope) = some (text, w) ∧ v.agrees w = true ∧ s.widget.Gives text w := by
  obtain ⟨w, v', htyped, he, hagrees⟩ := FieldMemory.typedText?_eq_some_iff.1 ht
  obtain rfl := Option.some.inj he
  exact ⟨w, htyped, hagrees, h text w htyped⟩

theorem Slot.Remembers.write (h : s.Remembers scope memory) (f : Form) (m : Mapping) :
    s.Remembers scope (s.write f scope (m, memory)).2 := by
  intro text v hv
  cases hw : s.widget with
  | number =>
    simp only [Slot.path, Slot.write, hw, FieldMemory.get?_typed_remember, if_true] at hv
    obtain ⟨w, hvalue, he⟩ := Option.map_eq_some_iff.1 hv
    obtain ⟨rfl, rfl⟩ := Prod.mk.inj he
    exact hvalue
  | json =>
    have hpath : s.path scope = s.key := by simp [Slot.path, hw]
    simp only [hpath, Slot.write, hw] at hv
    rcases FieldMemory.jsonText_cases (f.text s.name) with hb | ⟨fields, ho⟩ | ⟨hb, ho⟩
    · simp [FieldMemory.putJson_of_isBlank _ _ _ hb, Table.get?_erase] at hv
    · simp only [FieldMemory.putJson_of_isObject _ _ _ ho, Table.get?_insert, if_true] at hv
      obtain ⟨rfl, rfl⟩ := Prod.mk.inj (Option.some.inj hv)
      exact ⟨fields, rfl, ho⟩
    · obtain ⟨reason, hr⟩ := FieldMemory.putJson_of_refused memory m s.key hb ho
      rw [hr, FieldMemory.typed_refuse, ← hpath] at hv
      exact hw ▸ h text v hv
  | _ => trivial

namespace FieldMemory.Sound

theorem congr (h : memory.Sound k) (htyped : memory'.typed = memory.typed) : memory'.Sound k where
  top s hs := (h.top s hs).congr (by rw [htyped])
  inner s hs := (h.inner s hs).congr (by rw [htyped])

theorem of_nil (htyped : memory.typed = []) : memory.Sound k where
  top s _ text v hv := by simp [htyped, Table.get?] at hv
  inner s _ text v hv := by simp [htyped, Table.get?] at hv

theorem writeOver (h : memory.Sound k) (f : Form) (raw : Mapping) : (f.writeOver k memory raw).2.Sound k where
  top s hs := ((h.top s hs).write f raw).congr (Form.same_writeOver_top hs f memory raw).typed
  inner s hs := ((h.inner s hs).write f _).congr (Form.same_writeOver_inner hs f memory raw).typed

end FieldMemory.Sound

end

/-! ## Calls -/

namespace Editor

/-- A call that may change an editor. -/
inductive Call where
  | write (f : Form)
  | edit (f : Form) (now : Nat)
  | poll (now : Nat)
  | flush
  | load (text : String)
  | beginLoad
  | finishLoad (token : Nat) (text : String)
  | takeDiscarded
  | takeNotices

/-- The editor after a call. A load that fails leaves it as it is. -/
def after (e : Editor) : Call → Editor
  | .write f => (e.writeDocument f).2
  | .edit f now => e.edit f now
  | .poll now => (e.poll now).2
  | .flush => e.flush.2
  | .load text => (e.load text).toOption.getD e
  | .beginLoad => e.beginLoad.2
  | .finishLoad token text => ((e.finishLoad token text).toOption.map Prod.snd).getD e
  | .takeDiscarded => e.takeDiscarded.2
  | .takeNotices => e.takeNotices.2

/-- The editors of a kind that calls lead to. -/
inductive Reachable (k : Kind) : Editor → Prop
  | new (delay : Nat) : Reachable k (Editor.new k delay)
  | call {e : Editor} (h : Reachable k e) (c : Call) : Reachable k (e.after c)

/-- What holds of an editor at all times. -/
structure Sound (k : Kind) (e : Editor) : Prop where
  kind : e.kind = k
  raw : (Json.object e.raw).WellFormed
  memory : e.memory.Sound k

namespace Sound

variable {k : Kind} {e : Editor}

theorem new (k : Kind) (delay : Nat) : (Editor.new k delay).Sound k :=
  ⟨rfl, Json.wellFormed_object_nil, .of_nil rfl⟩

theorem writeDocument (h : e.Sound k) (f : Form) : (e.writeDocument f).2.Sound k :=
  ⟨h.kind, h.raw, by
    have hmemory := h.memory.writeOver f e.raw
    rw [← h.kind] at hmemory ⊢
    exact hmemory⟩

theorem serialize (h : e.Sound k) : e.serialize.2.Sound k :=
  have hwrite := h.writeDocument e.form
  ⟨hwrite.kind, hwrite.raw, hwrite.memory⟩

theorem poll (h : e.Sound k) (now : Nat) : (e.poll now).2.Sound k := by
  have hwait : ({ e with debounce := (e.debounce.poll now).2 } : Editor).Sound k := ⟨h.kind, h.raw, h.memory⟩
  unfold Editor.poll
  dsimp only
  split
  · exact hwait.serialize
  · exact hwait

theorem flush (h : e.Sound k) : e.flush.2.Sound k := by
  have hcancel : ({ e with debounce := e.debounce.flush.2 } : Editor).Sound k := ⟨h.kind, h.raw, h.memory⟩
  unfold Editor.flush
  dsimp only
  split
  · exact hcancel.serialize
  · exact hcancel

theorem park (h : e.Sound k) : e.park.Sound k := by
  unfold Editor.park
  split
  · have hwrite := h.writeDocument e.form
    exact ⟨hwrite.kind, hwrite.raw, hwrite.memory⟩
  · exact h

theorem display (h : e.Sound k) {raw : Mapping} (hraw : (Json.object raw).WellFormed) (text : String) :
    (e.display raw text).Sound k := by
  refine ⟨h.kind, hraw, ?_⟩
  show FieldMemory.Sound k (FieldMemory.seed _ _ _)
  split
  · exact h.memory.congr rfl
  · exact .of_nil rfl

theorem load (h : e.Sound k) {text : String} {e' : Editor} (hload : e.load text = .ok e') : e'.Sound k := by
  unfold Editor.load at hload
  cases hread : Document.readMapping text with
  | error err => simp [hread, Except.map] at hload
  | ok raw =>
    obtain rfl : e.park.display raw text = e' := by simpa [hread, Except.map] using hload
    exact h.park.display (Document.wellFormed_of_readMapping hread) text

theorem after (h : e.Sound k) (c : Call) : (e.after c).Sound k := by
  cases c with
  | write f => exact h.writeDocument f
  | edit f now => exact ⟨h.kind, h.raw, h.memory⟩
  | poll now => exact h.poll now
  | flush => exact h.flush
  | load text =>
    unfold Editor.after
    dsimp only
    cases hload : e.load text with
    | error err => exact h
    | ok e' => exact h.load hload
  | beginLoad => exact ⟨h.kind, h.raw, h.memory⟩
  | finishLoad token text =>
    unfold Editor.after Editor.finishLoad
    dsimp only
    split
    · cases hload : e.load text with
      | error err => exact h
      | ok e' => exact h.load hload
    · exact h
  | takeDiscarded => exact ⟨h.kind, h.raw, h.memory⟩
  | takeNotices => exact ⟨h.kind, h.raw, h.memory.congr rfl⟩

end Sound

theorem Reachable.sound {k : Kind} {e : Editor} (h : Reachable k e) : e.Sound k := by
  induction h with
  | new delay => exact .new k delay
  | call _ c ih => exact ih.after c

end Editor
end ProfileKit

import ProfileKit.Proofs.Editor.PendingEdit
import ProfileKit.Proofs.Editor.Unedited

/-!
# Profiles are kept apart

What an editor was told of one profile does not show in the next one. Three parts of an editor are not used by
its work on a document: the notices that were not handed out yet, the document that was put aside, and the number
of loads. An editor that carries other ones answers alike and keeps carrying them
(`Editor.answer_next_carrying`), also through any run of such requests (`Editor.foldl_respond_sameWork`). A load
of a profile with another id leaves nothing but these three of what was there before (`Editor.display_forgets`),
so from then on the editor does what a new one does that loaded the same text (`Editor.load_separates`).
-/

namespace ProfileKit

variable {older : List Notice}

/-! ## Notices -/

namespace FieldMemory

/-- The memory with notices from before that were not handed out. -/
def withOlder (older : List Notice) (m : FieldMemory) : FieldMemory := { m with notices := older ++ m.notices }

theorem refuse_withOlder (m : FieldMemory) (map : Mapping) (field : String) (reason : NoticeReason) :
    (m.withOlder older).refuse map field reason =
      ((m.refuse map field reason).1, (m.refuse map field reason).2.withOlder older) := by
  unfold refuse withOlder
  by_cases hwarned : m.warned.contains field = true
  · simp only [hwarned, if_true]
  · simp [hwarned]

theorem putJson_withOlder (m : FieldMemory) (map : Mapping) (field text : String) :
    (m.withOlder older).putJson map field text =
      ((m.putJson map field text).1, (m.putJson map field text).2.withOlder older) := by
  unfold putJson
  split
  · rfl
  · split
    · rfl
    · exact refuse_withOlder m map field _
    · exact refuse_withOlder m map field _

end FieldMemory

/-- A mapping and a memory, with notices from before. -/
def withOlder (older : List Notice) (state : Mapping × FieldMemory) : Mapping × FieldMemory :=
  (state.1, state.2.withOlder older)

theorem Slot.write_withOlder (s : Slot) (f : Form) (scope : String) (state : Mapping × FieldMemory) :
    s.write f scope (withOlder older state) = withOlder older (s.write f scope state) := by
  obtain ⟨m, memory⟩ := state
  cases hw : s.widget with
  | json =>
    simp only [write, hw, withOlder]
    exact FieldMemory.putJson_withOlder memory m s.key _
  | _ => simp [write, hw, withOlder, FieldMemory.withOlder, FieldMemory.remember]

theorem writeSlots_withOlder (slots : List Slot) (f : Form) (scope : String) (state : Mapping × FieldMemory) :
    writeSlots slots f scope (withOlder older state) = withOlder older (writeSlots slots f scope state) := by
  induction slots generalizing state with
  | nil => rfl
  | cons s rest ih =>
    simp only [writeSlots, List.foldl_cons, s.write_withOlder] at ih ⊢
    exact ih _

theorem Form.writeOver_withOlder (f : Form) (k : Kind) (memory : FieldMemory) (raw : Mapping) :
    f.writeOver k (memory.withOlder older) raw = withOlder older (f.writeOver k memory raw) := by
  have htop : f.writeTop k (memory.withOlder older) raw = withOlder older (f.writeTop k memory raw) :=
    writeSlots_withOlder (Layout.ofKind k).top f "" (raw, memory)
  cases hempty : (Layout.ofKind k).inner.isEmpty with
  | true => rw [writeOver_of_isEmpty hempty, writeOver_of_isEmpty hempty, htop]
  | false =>
    have hinner : f.writeInner k (memory.withOlder older) raw = withOlder older (f.writeInner k memory raw) := by
      rw [writeInner, htop]
      exact writeSlots_withOlder (Layout.ofKind k).inner f (Layout.ofKind k).scope
        (innerMapping (f.writeTop k memory raw).1 (Layout.ofKind k).scope, (f.writeTop k memory raw).2)
    rw [writeOver_of_not_isEmpty hempty, writeOver_of_not_isEmpty hempty, htop, hinner]
    rfl

/-! ## What an editor carries along -/

namespace Editor

variable {e : Editor} {discarded : Option String} {loads : Generation} {text : String} {raw : Mapping}

/-- The editor with notices from before, another document put aside and another number of loads. -/
def carrying (older : List Notice) (discarded : Option String) (loads : Generation) (e : Editor) : Editor :=
  { e with memory := e.memory.withOlder older, discarded, loads }

/-- An editor has done the same work as another one: only the three parts may differ. -/
def SameWork (e e' : Editor) : Prop := ∃ older discarded loads, e = e'.carrying older discarded loads

theorem writeDocument_carrying (e : Editor) (f : Form) :
    (e.carrying older discarded loads).writeDocument f =
      ((e.writeDocument f).1, (e.writeDocument f).2.carrying older discarded loads) := by
  simp only [writeDocument, mappingOf, carrying, Form.writeOver_withOlder]
  rfl

variable (older discarded loads) in
theorem serialize_carrying (e : Editor) :
    (e.carrying older discarded loads).serialize =
      (e.serialize.1, e.serialize.2.carrying older discarded loads) := by
  have hform : (e.carrying older discarded loads).form = e.form := rfl
  simp only [serialize, hform, writeDocument_carrying]
  rfl

theorem poll_carrying (e : Editor) (now : Nat) :
    (e.carrying older discarded loads).poll now =
      ((e.poll now).1, (e.poll now).2.carrying older discarded loads) := by
  have hserialize := serialize_carrying older discarded loads { e with debounce := (e.debounce.poll now).2 }
  have hdebounce : (e.carrying older discarded loads).debounce = e.debounce := rfl
  unfold poll
  simp only [hdebounce]
  cases (e.debounce.poll now).1 with
  | true => exact congrArg (fun x => (some x.1, x.2)) hserialize
  | false => rfl

theorem flush_carrying (e : Editor) :
    (e.carrying older discarded loads).flush =
      (e.flush.1, e.flush.2.carrying older discarded loads) := by
  have hserialize := serialize_carrying older discarded loads { e with debounce := e.debounce.flush.2 }
  have hdebounce : (e.carrying older discarded loads).debounce = e.debounce := rfl
  unfold flush
  simp only [hdebounce]
  cases e.debounce.flush.1 with
  | true => exact congrArg (fun x => (some x.1, x.2)) hserialize
  | false => rfl

variable (older discarded loads) in
/-- A pending edit is put aside as the same document; without one there is still what was there. -/
theorem park_carrying (e : Editor) :
    ∃ discarded', (e.carrying older discarded loads).park = e.park.carrying older discarded' loads := by
  have hpending : (e.carrying older discarded loads).isPending = e.isPending := rfl
  have hform : (e.carrying older discarded loads).form = e.form := rfl
  unfold park
  rw [hpending, hform, writeDocument_carrying]
  split
  · exact ⟨_, rfl⟩
  · exact ⟨_, rfl⟩

theorem display_carrying (e : Editor) (raw : Mapping) (text : String) :
    (e.carrying older discarded loads).display raw text = (e.display raw text).carrying older discarded loads := by
  have hraw : (e.carrying older discarded loads).raw = e.raw := rfl
  unfold display
  rw [hraw]
  split <;> rfl

variable (older discarded loads) in
theorem load_carrying (e : Editor) (text : String) :
    ∃ discarded', (e.carrying older discarded loads).load text =
      (e.load text).map (carrying older discarded' loads) := by
  obtain ⟨discarded', hpark⟩ := park_carrying older discarded loads e
  refine ⟨discarded', ?_⟩
  simp only [load, hpark, display_carrying]
  cases Document.readMapping text <;> rfl

/-! ## Runs -/

/-- Requests that work on a document. The others hand out what is carried along, or number the loads. -/
def Request.isWork : Request → Bool
  | .call .beginLoad => false
  | .call (.finishLoad _ _) => false
  | .call .takeDiscarded => false
  | .call .takeNotices => false
  | _ => true

variable (older discarded loads) in
/-- What is carried along does not show in the answer, and it goes on being carried. -/
theorem answer_next_carrying {r : Request} (hr : r.isWork = true) (e : Editor) :
    (e.carrying older discarded loads).answer r = e.answer r ∧
      ∃ discarded', (e.carrying older discarded loads).next r = (e.next r).carrying older discarded' loads := by
  cases r with
  | read text => exact ⟨rfl, discarded, rfl⟩
  | call c =>
    cases c with
    | write f =>
      simp only [answer, next, after, writeDocument_carrying]
      exact ⟨trivial, discarded, rfl⟩
    | edit f now => exact ⟨rfl, discarded, rfl⟩
    | poll now =>
      simp only [answer, next, after, poll_carrying]
      exact ⟨trivial, discarded, rfl⟩
    | flush =>
      simp only [answer, next, after, flush_carrying]
      exact ⟨trivial, discarded, rfl⟩
    | load text =>
      obtain ⟨discarded', hload⟩ := load_carrying older discarded loads e text
      simp only [answer, next, after, hload]
      cases e.load text with
      | error err => exact ⟨rfl, discarded, rfl⟩
      | ok loaded => exact ⟨rfl, discarded', rfl⟩
    | _ => cases hr

/-- The history of requests to an editor, and the editor after them. -/
def run (e : Editor) (requests : List Request) : History × Editor := requests.foldl respond ([], e)

theorem foldl_respond_sameWork {e' : Editor} (h : SameWork e e') {requests : List Request}
    (hwork : ∀ r ∈ requests, r.isWork = true) (before : History) :
    (requests.foldl respond (before, e)).1 = (requests.foldl respond (before, e')).1 ∧
      SameWork (requests.foldl respond (before, e)).2 (requests.foldl respond (before, e')).2 := by
  induction requests generalizing e e' before with
  | nil => exact ⟨rfl, h⟩
  | cons r rest ih =>
    obtain ⟨older, discarded, loads, rfl⟩ := h
    obtain ⟨hr, hrest⟩ := List.forall_mem_cons.1 hwork
    obtain ⟨hanswer, discarded', hnext⟩ := answer_next_carrying older discarded loads hr e'
    simp only [List.foldl_cons, respond, hanswer]
    exact ih ⟨older, discarded', loads, hnext⟩ hrest _

/-! ## Loads -/

/-- A document with another id than the one before is shown as in a new editor. -/
theorem display_forgets (hid : sameValue (raw.get? "id") (e.raw.get? "id") = false) (text : String) :
    SameWork (e.display raw text) ((new e.kind e.debounce.delay).display raw text) := by
  -- a new editor remembers nothing, so it does not matter what it takes for the id
  have hempty : (if sameValue (raw.get? "id") ((new e.kind e.debounce.delay).raw.get? "id") then
      (new e.kind e.debounce.delay).memory else (new e.kind e.debounce.delay).memory.forgetTyped) =
        FieldMemory.empty := by
    split <;> rfl
  refine ⟨e.memory.notices, e.discarded, e.loads, ?_⟩
  unfold display
  rw [hempty, hid, if_neg Bool.false_ne_true]
  simp only [carrying, FieldMemory.withOlder, FieldMemory.seed, FieldMemory.forgetTyped, FieldMemory.empty,
    List.append_nil]
  rfl

theorem kind_raw_park (e : Editor) : e.park.kind = e.kind ∧ e.park.raw = e.raw := by
  unfold park
  split <;> exact ⟨rfl, rfl⟩

/-- An editor that loads a profile with another id than the one before is from then on like a new editor that
loaded it: it shows the same form, and to the same requests it gives the same answers. Ids are compared as values,
for which the two zeros are one number. -/
theorem load_separates (hread : Document.readMapping text = .ok raw)
    (hid : sameValue (raw.get? "id") (e.raw.get? "id") = false) :
    ∃ loaded fresh, e.load text = .ok loaded ∧ (new e.kind e.debounce.delay).load text = .ok fresh ∧
      ∀ requests : List Request, (∀ r ∈ requests, r.isWork = true) →
        (loaded.run requests).1 = (fresh.run requests).1 ∧
          SameWork (loaded.run requests).2 (fresh.run requests).2 := by
  obtain ⟨hkind, hraw⟩ := kind_raw_park e
  have hforgets := display_forgets (e := e.park) (hraw ▸ hid) text
  rw [hkind, debounce_park] at hforgets
  refine ⟨e.park.display raw text, _, ?_, load_new hread e.debounce.delay, fun requests hwork =>
    foldl_respond_sameWork hforgets hwork []⟩
  rw [load, hread]
  rfl

/-- The form of a parser profile. -/
def parserForm (id options : String) : Form :=
  (Form.blank .parser).set "id" (.text id) |>.set "options" (.text options)

/-- An editor in which options were typed and then broken, with an edit that waits. -/
def busyParser : Editor :=
  (session .parser 300 [.call (.load "id: a\noptions:\n  group: 1\n"),
    .call (.write (parserForm "a" "\x7b\"group\":2\x7d")), .call (.write (parserForm "a" "\x7b\"group\":")),
    .call (.edit (parserForm "a" "\x7b\"group\":3\x7d") 10)]).2

/-- The profile that is loaded next, and its fields. -/
def nextParser : String := "id: b\noptions:\n  group: 2\n"

def nextParserFields : Mapping :=
  [("id", .string "b"), ("options", .object [("group", .number (.natural 2))])]

/-- Options that are broken in the next profile are those of that profile, not of the one before. -/
theorem load_separates_busyParser :
    ∃ loaded fresh, busyParser.load nextParser = .ok loaded ∧ (new .parser 300).load nextParser = .ok fresh ∧
      (loaded.run [.call (.write (parserForm "b" "\x7b\"group\":")), .call .flush]).1 =
        (fresh.run [.call (.write (parserForm "b" "\x7b\"group\":")), .call .flush]).1 := by
  have hread : Document.readMapping nextParser = .ok nextParserFields := by decide +kernel
  have hid : sameValue (Table.get? "id" nextParserFields) (busyParser.raw.get? "id") = false := by decide +kernel
  have hnew : new busyParser.kind busyParser.debounce.delay = new .parser 300 := by decide +kernel
  obtain ⟨loaded, fresh, hloaded, hfresh, h⟩ := load_separates hread hid
  exact ⟨loaded, fresh, hloaded, hnew ▸ hfresh, (h _ (by decide)).1⟩

end Editor
end ProfileKit

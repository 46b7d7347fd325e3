import ProfileKit.Proofs.Editor.LastGood
import ProfileKit.Proofs.Editor.Session

/-!
# Notices are told once

A notice is raised by a text that is refused, unless one was raised for the field since it was last cleared, set or
reset: the fields that are marked as warned are the ones of which a history says so (`FieldMemory.warned_iff_told`).
What was raised is what was handed out and what is still to be handed out, one after the other
(`FieldMemory.handedOut_append_notices`). Writing a form a second time repeats the texts of the first time, and then a
refused text finds the field warned and its last good value unchanged (`FieldMemory.Settled`), so nothing new is told
and the document is the same. `notices_once` puts this together.
-/

namespace ProfileKit

namespace FieldMemory

variable {m m' : FieldMemory} {map : Mapping} {field text : String}

/-! ## Texts that are refused -/

/-- Why a text is refused that is neither blank nor an object. -/
def reasonOf (text : String) : NoticeReason :=
  match Json.read? text with
  | some _ => .notAnObject
  | none => .notJson

theorem putJson_of_accepted?_eq_none (m : FieldMemory) (map : Mapping) (field : String) (h : accepted? text = none) :
    m.putJson map field text = m.refuse map field (reasonOf text) := by
  unfold accepted? at h
  unfold putJson reasonOf
  split at h
  · cases h
  · rename_i hblank
    rw [if_neg hblank]
    split
    · rename_i fields hread
      simp [hread] at h
    · rename_i v hno hread
      rw [hread]
    · rename_i hread
      rw [hread]

/-- A text that is not refused takes the mark from its field, and raises nothing. -/
theorem putJson_of_accepted?_ne_none (m : FieldMemory) (map : Mapping) (field : String) (h : accepted? text ≠ none) :
    (m.putJson map field text).2.warned = m.warned.erase field ∧ (m.putJson map field text).2.notices = m.notices := by
  rcases jsonText_cases text with hb | ⟨fields, ho⟩ | ⟨hb, ho⟩
  · rw [putJson_of_isBlank m map field hb]
    exact ⟨rfl, rfl⟩
  · rw [putJson_of_isObject m map field ho]
    exact ⟨rfl, rfl⟩
  · exact absurd (accepted?_of_refused hb ho) h

theorem contains_warned_refuse (m : FieldMemory) (map : Mapping) (field : String) (reason : NoticeReason)
    (other : String) :
    (m.refuse map field reason).2.warned.contains other = (decide (field = other) || m.warned.contains other) := by
  unfold refuse
  by_cases hw : m.warned.contains field = true
  · by_cases ho : field = other
    · subst ho
      simp [hw]
    · simp [hw, ho]
  · rw [if_neg hw]
    exact Table.contains_insert field other () m.warned

theorem notices_refuse (m : FieldMemory) (map : Mapping) (field : String) (reason : NoticeReason) :
    (m.refuse map field reason).2.notices =
      m.notices ++ if m.warned.contains field then [] else [⟨field, reason⟩] := by
  unfold refuse
  cases m.warned.contains field <;> simp

theorem contains_warned_putJson (m : FieldMemory) (map : Mapping) (field text other : String) :
    (m.putJson map field text).2.warned.contains other =
      if field = other then (accepted? text).isNone else m.warned.contains other := by
  cases h : accepted? text with
  | none =>
    rw [putJson_of_accepted?_eq_none m map field h, contains_warned_refuse]
    by_cases ho : field = other <;> simp [ho]
  | some v =>
    rw [(putJson_of_accepted?_ne_none m map field (by simp [h])).1, Table.contains_erase]
    by_cases ho : field = other <;> simp [ho]

/-! ## Histories -/

/-- A call of a field memory. -/
inductive Call where
  | put (map : Mapping) (field text : String)
  | remember (path text : String) (value : Option Json)
  | seed (map : Mapping) (fields : List String)
  | forgetTyped
  | take

namespace Call

/-- The memory after a call. -/
def after (m : FieldMemory) : Call → FieldMemory
  | put map field text => (m.putJson map field text).2
  | remember path text value => m.remember path text value
  | seed map fields => m.seed map fields
  | forgetTyped => m.forgetTyped
  | take => m.takeNotices.2

/-- The notices that a call hands out. -/
def handsOut? (m : FieldMemory) : Call → Option (List Notice)
  | take => some m.takeNotices.1
  | _ => none

/-- The notices that a call adds to those that were there. -/
def raised (m : FieldMemory) (c : Call) : List Notice := (c.after m).notices.drop m.notices.length

/-- What there is to tell about a call: it puts a text that is refused. -/
def refusal? : Call → Option Notice
  | put _ field text => if accepted? text = none then some ⟨field, reasonOf text⟩ else none
  | _ => none

/-- The call puts a text for the field that is neither blank nor an object. -/
def Refuses (field : String) (c : Call) : Prop := ∃ n, c.refusal? = some n ∧ n.field = field

/-- The call clears the field or sets it, or resets all fields. -/
def Settles (field : String) : Call → Prop
  | put _ other text => other = field ∧ accepted? text ≠ none
  | seed _ _ => True
  | _ => False

end Call

/-- The memory after calls. -/
def afterCalls (m : FieldMemory) (calls : List Call) : FieldMemory := calls.foldl Call.after m

/-- All notices that are raised in the course of calls. -/
def raisedIn (m : FieldMemory) : List Call → List Notice
  | [] => []
  | c :: rest => c.raised m ++ (c.after m).raisedIn rest

/-- What is handed out in the course of calls, a list for each time. -/
def handedOut (m : FieldMemory) : List Call → List (List Notice)
  | [] => []
  | c :: rest => (c.handsOut? m).toList ++ (c.after m).handedOut rest

/-- A text for the field was refused, and the field was neither cleared nor set nor reset after that. -/
def Told (calls : List Call) (field : String) : Prop :=
  Since (fun c => ¬ c.Settles field) (Call.Refuses field) calls

/-! ### One call -/

theorem Call.refuses_put : (Call.put map field text).Refuses other ↔ field = other ∧ accepted? text = none := by
  unfold Refuses refusal?
  by_cases h : accepted? text = none <;> simp [h]

/-- A field is marked by a text that is refused, until something settles it. -/
theorem contains_warned_after (m : FieldMemory) (c : Call) (field : String) :
    (c.after m).warned.contains field = true ↔
      c.Refuses field ∨ (m.warned.contains field = true ∧ ¬ c.Settles field) := by
  cases c with
  | put map other text =>
    rw [Call.refuses_put, Call.after, contains_warned_putJson]
    by_cases ho : other = field <;> simp [ho, Call.Settles]
  | seed map fields => simp [Call.Refuses, Call.refusal?, Call.after, Call.Settles, seed, Table.contains, Table.get?]
  | _ => simp [Call.Refuses, Call.refusal?, Call.after, Call.Settles, remember, forgetTyped, takeNotices]

/-- Without handing out, a call adds what there is to tell about it, unless the field is marked. -/
theorem notices_after {c : Call} (h : c.handsOut? m = none) :
    (c.after m).notices = m.notices ++ c.refusal?.toList.filter fun n => !m.warned.contains n.field := by
  cases c with
  | put map field text =>
    cases hrefused : accepted? text with
    | none =>
      rw [Call.after, putJson_of_accepted?_eq_none m map field hrefused, notices_refuse]
      cases hw : m.warned.contains field <;> simp [Call.refusal?, hrefused, hw]
    | some v =>
      rw [Call.after, (putJson_of_accepted?_ne_none m map field (by simp [hrefused])).2]
      simp [Call.refusal?, hrefused]
  | take => cases h
  | _ => exact (List.append_nil _).symm

theorem raised_eq (m : FieldMemory) (c : Call) :
    c.raised m = c.refusal?.toList.filter fun n => !m.warned.contains n.field := by
  cases h : c.handsOut? m with
  | none => rw [Call.raised, notices_after h, List.drop_left]
  | some ns =>
    cases c with
    | take => exact List.drop_nil
    | _ => cases h

/-- What was to be handed out before a call, and what it raises, is handed out by it or is still to be. -/
theorem notices_append_raised (m : FieldMemory) (c : Call) :
    m.notices ++ c.raised m = (c.handsOut? m).toList.flatten ++ (c.after m).notices := by
  cases h : c.handsOut? m with
  | none =>
    rw [notices_after h, raised_eq]
    rfl
  | some ns =>
    cases c with
    | take =>
      obtain rfl := Option.some.inj h
      rw [raised_eq]
      simp [Call.refusal?, Call.after, takeNotices]
    | _ => cases h

/-! ### All calls -/

theorem afterCalls_concat (m : FieldMemory) (calls : List Call) (c : Call) :
    m.afterCalls (calls ++ [c]) = c.after (m.afterCalls calls) := List.foldl_append

/-- The marks of a memory are the fields that are told of. -/
theorem warned_iff_told (calls : List Call) (field : String) :
    (empty.afterCalls calls).warned.contains field = true ↔ Told calls field := by
  induction calls using List.reverseRecOn with
  | nil => exact ⟨nofun, fun h => absurd h not_since_nil⟩
  | append_singleton calls c ih =>
    have hconcat : Told (calls ++ [c]) field ↔ c.Refuses field ∨ (Told calls field ∧ ¬ c.Settles field) := since_concat
    rw [afterCalls_concat, contains_warned_after, ih, hconcat]

/-- Every notice is handed out once, in the order in which they were raised, or is still there. -/
theorem handedOut_append_notices (m : FieldMemory) (calls : List Call) :
    m.notices ++ m.raisedIn calls = (m.handedOut calls).flatten ++ (m.afterCalls calls).notices := by
  induction calls generalizing m with
  | nil => exact List.append_nil _
  | cons c rest ih =>
    calc m.notices ++ (c.raised m ++ (c.after m).raisedIn rest)
        = (c.handsOut? m).toList.flatten ++ ((c.after m).notices ++ (c.after m).raisedIn rest) := by
          rw [← List.append_assoc, notices_append_raised, List.append_assoc]
      _ = (m.handedOut (c :: rest)).flatten ++ (m.afterCalls (c :: rest)).notices := by
          rw [ih, handedOut, List.flatten_append, List.append_assoc]
          rfl

theorem handedOut_concat (m : FieldMemory) (calls : List Call) (c : Call) :
    m.handedOut (calls ++ [c]) = m.handedOut calls ++ (c.handsOut? (m.afterCalls calls)).toList := by
  induction calls generalizing m with
  | nil => exact List.append_nil _
  | cons d rest ih =>
    rw [List.cons_append, handedOut, ih, handedOut, List.append_assoc]
    rfl

/-! ## Writing again -/

/-- Where a text is refused for a field, `m'` has its last good value from `m`, and has the field marked. -/
structure Settled (m m' : FieldMemory) (field text : String) : Prop where
  lastGood (h : accepted? text = none) : m'.lastGood.get? field = m.lastGood.get? field
  warned (h : accepted? text = none) : m'.warned.contains field = true

theorem settled_putJson (m : FieldMemory) (map : Mapping) (field text : String) :
    Settled m (m.putJson map field text).2 field text where
  lastGood h := by rw [lastGood_putJson, h, Option.getD_none]
  warned h := by rw [contains_warned_putJson, if_pos rfl, h, Option.isNone_none]

/-- The memories have the same last good value and the same mark for a field. -/
structure Alike (m m' : FieldMemory) (field : String) : Prop where
  lastGood : m.lastGood.get? field = m'.lastGood.get? field
  warned : m.warned.contains field = m'.warned.contains field

theorem Alike.symm (h : Alike m m' field) : Alike m' m field := ⟨h.lastGood.symm, h.warned.symm⟩

theorem alike_putJson (m : FieldMemory) (map : Mapping) (text : String) {other : String} (h : field ≠ other) :
    Alike (m.putJson map field text).2 m other where
  lastGood := (putJson_frame m map text h).2.2
  warned := by rw [contains_warned_putJson, if_neg h]

theorem Settled.congr {n n' : FieldMemory} (h : Settled m m' field text) (hm : Alike n m field)
    (hm' : Alike n' m' field) : Settled n n' field text where
  lastGood hr := by rw [hm'.lastGood, h.lastGood hr, hm.lastGood]
  warned hr := by rw [hm'.warned, h.warned hr]

/-- A text that was settled gives the same mapping again, and raises nothing. -/
theorem Settled.putJson (h : Settled m m' field text) (map : Mapping) :
    (m'.putJson map field text).1 = (m.putJson map field text).1 ∧
      (m'.putJson map field text).2.notices = m'.notices := by
  rcases jsonText_cases text with hb | ⟨fields, ho⟩ | ⟨hb, ho⟩
  · rw [putJson_of_isBlank m map field hb, putJson_of_isBlank m' map field hb]
    exact ⟨rfl, rfl⟩
  · rw [putJson_of_isObject m map field ho, putJson_of_isObject m' map field ho]
    exact ⟨rfl, rfl⟩
  · have hrefused := accepted?_of_refused hb ho
    rw [putJson_of_accepted?_eq_none m map field hrefused, putJson_of_accepted?_eq_none m' map field hrefused]
    have hw := h.warned hrefused
    refine ⟨?_, by rw [notices_refuse, if_pos hw, List.append_nil]⟩
    unfold refuse
    rw [h.lastGood hrefused]
    cases m'.warned.contains field <;> cases m.warned.contains field <;> rfl

end FieldMemory

/-! ### Slots -/

open FieldMemory (Settled Alike)

variable {s : Slot} {slots : List Slot} {f : Form} {scope : String} {map : Mapping} {m m' : FieldMemory}

theorem Slot.alike_write {field : String} (h : s.widget = .json → s.key ≠ field) (f : Form) (scope : String)
    (state : Mapping × FieldMemory) : Alike (s.write f scope state).2 state.2 field := by
  obtain ⟨map, m⟩ := state
  cases hw : s.widget with
  | json => simpa only [Slot.write, hw] using FieldMemory.alike_putJson m map (f.text s.name) (h hw)
  | _ => simpa only [Slot.write, hw] using ⟨rfl, rfl⟩

theorem alike_writeSlots {field : String} (h : ∀ s ∈ slots, s.widget = .json → s.key ≠ field) (f : Form)
    (scope : String) (state : Mapping × FieldMemory) : Alike (writeSlots slots f scope state).2 state.2 field := by
  induction slots generalizing state with
  | nil => exact ⟨rfl, rfl⟩
  | cons t rest ih =>
    have hrest := ih (fun s hs => h s (List.mem_cons_of_mem _ hs)) (t.write f scope state)
    have hfirst := Slot.alike_write (h t List.mem_cons_self) f scope state
    exact ⟨hrest.lastGood.trans hfirst.lastGood, hrest.warned.trans hfirst.warned⟩

/-- All texts that a form has for slots that are edited as JSON text are settled. -/
def SlotsSettled (slots : List Slot) (f : Form) (m m' : FieldMemory) : Prop :=
  ∀ s ∈ slots, s.widget = .json → Settled m m' s.key (f.text s.name)

/-- The first slot does not share its key with any of the others. -/
theorem key_ne_of_nodup {t : Slot} (hkeys : ((t :: slots).flatMap Slot.keys).Nodup) (hs : s ∈ slots) :
    t.key ≠ s.key := by
  rw [List.flatMap_cons, List.nodup_append] at hkeys
  exact hkeys.2.2 _ t.key_mem_keys _ (List.mem_flatMap.2 ⟨s, hs, s.key_mem_keys⟩)

theorem nodup_of_nodup_cons {t : Slot} (hkeys : ((t :: slots).flatMap Slot.keys).Nodup) :
    (slots.flatMap Slot.keys).Nodup := by
  rw [List.flatMap_cons, List.nodup_append] at hkeys
  exact hkeys.2.1

theorem slotsSettled_writeSlots (hkeys : (slots.flatMap Slot.keys).Nodup) (f : Form) (scope : String)
    (state : Mapping × FieldMemory) : SlotsSettled slots f state.2 (writeSlots slots f scope state).2 := by
  induction slots generalizing state with
  | nil => exact nofun
  | cons t rest ih =>
    intro s hs hw
    rcases List.mem_cons.1 hs with rfl | hs
    · have hfirst : Settled state.2 (s.write f scope state).2 s.key (f.text s.name) := by
        simpa only [Slot.write, hw] using FieldMemory.settled_putJson state.2 state.1 s.key (f.text s.name)
      have hrest : Alike (writeSlots rest f scope (s.write f scope state)).2 (s.write f scope state).2 s.key :=
        alike_writeSlots (fun u hu _ => (key_ne_of_nodup hkeys hu).symm) f scope _
      exact hfirst.congr ⟨rfl, rfl⟩ hrest
    · have hfirst := Slot.alike_write (fun _ => key_ne_of_nodup hkeys hs) f scope state
      exact (ih (nodup_of_nodup_cons hkeys) (t.write f scope state) s hs hw).congr hfirst.symm ⟨rfl, rfl⟩

theorem Slot.write_again (scope : String) {state state' : Mapping × FieldMemory} (hmap : state'.1 = state.1)
    (h : s.widget = .json → Settled state.2 state'.2 s.key (f.text s.name)) :
    (s.write f scope state').1 = (s.write f scope state).1 ∧
      (s.write f scope state').2.notices = state'.2.notices := by
  obtain ⟨map, m⟩ := state
  obtain ⟨map', m'⟩ := state'
  obtain rfl : map' = map := hmap
  cases hw : s.widget with
  | json => simpa only [Slot.write, hw] using (h hw).putJson map'
  | _ => simp [Slot.write, hw, FieldMemory.remember]

/-- Slots that are settled are written as before, and raise nothing. -/
theorem writeSlots_again (hkeys : (slots.flatMap Slot.keys).Nodup) (state state' : Mapping × FieldMemory)
    (hmap : state'.1 = state.1) (h : SlotsSettled slots f state.2 state'.2) :
    (writeSlots slots f scope state').1 = (writeSlots slots f scope state).1 ∧
      (writeSlots slots f scope state').2.notices = state'.2.notices := by
  induction slots generalizing state state' with
  | nil => exact ⟨hmap, rfl⟩
  | cons t rest ih =>
    obtain ⟨hfirst, hnotices⟩ := Slot.write_again scope hmap (h t List.mem_cons_self)
    have hrest : SlotsSettled rest f (t.write f scope state).2 (t.write f scope state').2 := fun s hs hw =>
      (h s (List.mem_cons_of_mem _ hs) hw).congr
        (Slot.alike_write (fun _ => key_ne_of_nodup hkeys hs) f scope state)
        (Slot.alike_write (fun _ => key_ne_of_nodup hkeys hs) f scope state')
    obtain ⟨hwritten, hraised⟩ := ih (nodup_of_nodup_cons hkeys) _ _ hfirst hrest
    exact ⟨hwritten, hraised.trans hnotices⟩

/-- A form that was written gives the same mapping again, and raises nothing. -/
theorem Form.writeOver_again (f : Form) (k : Kind) (memory : FieldMemory) (raw : Mapping) :
    (f.writeOver k (f.writeOver k memory raw).2 raw).1 = (f.writeOver k memory raw).1 ∧
      (f.writeOver k (f.writeOver k memory raw).2 raw).2.notices = (f.writeOver k memory raw).2.notices := by
  have hl := Layout.lawful_ofKind k
  have hsettled : SlotsSettled (Layout.ofKind k).top f memory (f.writeTop k memory raw).2 :=
    slotsSettled_writeSlots hl.topKeys f "" (raw, memory)
  cases hinner : (Layout.ofKind k).inner.isEmpty with
  | true =>
    simp only [writeOver_of_isEmpty hinner]
    exact writeSlots_again hl.topKeys (raw, memory) (raw, _) rfl hsettled
  | false =>
    simp only [writeOver_of_not_isEmpty hinner]
    generalize hm : (f.writeInner k memory raw).2 = m
    -- The slots inside are no JSON text, so to the others it does not matter that they were written in between.
    have htop : SlotsSettled (Layout.ofKind k).top f memory m := fun s hs hw =>
      hm ▸ (hsettled s hs hw).congr ⟨rfl, rfl⟩
        (alike_writeSlots (fun t ht hwt => absurd hwt (hl.innerJson t ht)) f _ _)
    have hagain : (f.writeTop k m raw).1 = (f.writeTop k memory raw).1 ∧ (f.writeTop k m raw).2.notices = m.notices :=
      writeSlots_again hl.topKeys (raw, memory) (raw, m) rfl htop
    have hinside : (f.writeInner k m raw).1 = (f.writeInner k memory raw).1 ∧
        (f.writeInner k m raw).2.notices = (f.writeTop k m raw).2.notices :=
      writeSlots_again hl.innerKeys _ _ (by rw [hagain.1]) fun s hs hw => absurd hw (hl.innerJson s hs)
    exact ⟨by rw [hagain.1, hinside.1], hinside.2.trans hagain.2⟩

namespace FieldMemory

/-- **Notices are told once.** For all calls on a new field memory: a call raises one notice at most, and it raises
one exactly if it puts a text that is refused and the field is not told of since it was last cleared, set or reset;
the notices that were raised are those that were handed out, in their order, and those that are still there, and
handing out leaves none. Writing a form to a document a second time gives the same document, and raises none. -/
theorem notices_once :
    (∀ (calls : List Call) (c : Call),
      (c.raised (empty.afterCalls calls)).length ≤ 1 ∧
        ∀ n, n ∈ c.raised (empty.afterCalls calls) ↔ c.refusal? = some n ∧ ¬ Told calls n.field) ∧
      (∀ calls : List Call,
        empty.raisedIn calls = (empty.handedOut calls).flatten ++ (empty.afterCalls calls).notices ∧
          empty.handedOut (calls ++ [.take]) = empty.handedOut calls ++ [(empty.afterCalls calls).notices] ∧
          (empty.afterCalls (calls ++ [.take])).notices = []) ∧
      ∀ (e : Editor) (f : Form),
        ((e.writeDocument f).2.writeDocument f).1 = (e.writeDocument f).1 ∧
          ((e.writeDocument f).2.writeDocument f).2.memory.notices = (e.writeDocument f).2.memory.notices := by
  refine ⟨fun calls c => ⟨?_, fun n => ?_⟩, fun calls => ⟨?_, ?_, ?_⟩, fun e f => ?_⟩
  · rw [raised_eq]
    refine (List.length_filter_le _ _).trans ?_
    cases c.refusal? <;> simp
  · rw [raised_eq, List.mem_filter, Option.mem_toList, Bool.not_eq_true', ← Bool.not_eq_true,
      warned_iff_told]
  · exact handedOut_append_notices .empty calls
  · exact handedOut_concat .empty calls .take
  · rw [afterCalls_concat]
    rfl
  · obtain ⟨hmap, hnotices⟩ := f.writeOver_again e.kind e.memory e.raw
    exact ⟨congrArg (fun m => Yaml.render (.object m)) hmap, hnotices⟩

end FieldMemory
end ProfileKit

import ProfileKit.Proofs.Editor.Session

/-!
# No edit is lost

An edit waits until it is written, by a poll or a flush, or until a load replaces it, which puts its document
aside. What a request does to the waiting edit shows in its answer: it is an edit itself, it settles the
matter, or it does not touch it (`Editor.debounce_next`). So after any session the last edit that nothing
settled since is the one that waits, under its own deadline (`Editor.Waits`), and whatever an editor hands out
or puts aside is the document of that edit (`Editor.keepsEdits_session`).
-/

namespace ProfileKit.Editor

namespace Request

def isEdit : Request → Bool
  | .call (.edit _ _) => true
  | _ => false

def isLoad : Request → Bool
  | .call (.load _) => true
  | .call (.finishLoad _ _) => true
  | _ => false

end Request

namespace Answer

/-- The form was written, or a load was applied. -/
def settles : Answer → Bool
  | .written text => text.isSome
  | .loaded (.ok applied) => applied
  | _ => false

end Answer

/-- There was an edit, and nothing settled it since. -/
def Unsettled (h : History) : Prop := Since (fun x => x.2.settles = false) (fun x => x.1.isEdit = true) h

/-- The last edit was to the form `f` at the time `t`, and nothing settled it since. -/
def LastEdit (h : History) (f : Form) (t : Nat) : Prop :=
  Since (fun x => x.1.isEdit = false ∧ x.2.settles = false) (fun x => x.1 = .call (.edit f t)) h

theorem isEdit_iff {r : Request} : r.isEdit = true ↔ ∃ f t, r = .call (.edit f t) := by
  unfold Request.isEdit
  split <;> simp_all

/-- Where an edit is not settled there is a last one. -/
theorem unsettled_iff {h : History} : Unsettled h ↔ ∃ f t, LastEdit h f t := by
  induction h using List.reverseRecOn with
  | nil => exact iff_of_false not_since_nil fun ⟨_, _, hlast⟩ => not_since_nil hlast
  | append_singleton h x ih =>
    simp only [Unsettled, LastEdit, since_concat] at ih ⊢
    by_cases hx : x.1.isEdit = true
    · obtain ⟨f, t, hr⟩ := isEdit_iff.1 hx
      exact iff_of_true (.inl hx) ⟨f, t, .inl hr⟩
    · have hno : ∀ f t, x.1 ≠ .call (.edit f t) := fun f t hr => hx (isEdit_iff.2 ⟨f, t, hr⟩)
      simp only [hx, hno, false_or, ih]
      simp [exists_and_right]

/-! ## One request -/

variable {k : Kind} {delay : Nat} {h : History} {e : Editor} {r : Request} {token : Nat}

/-- A poll writes the form when the deadline has passed, and otherwise does nothing. -/
theorem poll_cases (e : Editor) (now : Nat) :
    (∃ d, e.debounce.deadline = some d ∧ d ≤ now ∧ (e.poll now).1 = some (e.writeDocument e.form).1 ∧
      (e.poll now).2.debounce = e.debounce.cancel) ∨
    ((∀ d, e.debounce.deadline = some d → ¬ d ≤ now) ∧ e.poll now = (none, e)) := by
  unfold poll Debounce.poll
  cases hd : e.debounce.deadline with
  | none => exact .inr ⟨by simp, rfl⟩
  | some d =>
    by_cases hle : d ≤ now
    · simp only [if_pos hle]
      exact .inl ⟨d, rfl, hle, rfl, rfl⟩
    · simp only [if_neg hle]
      exact .inr ⟨fun d' hd' => Option.some.inj hd' ▸ hle, rfl⟩

/-- A flush writes the form of a pending edit, and otherwise does nothing. -/
theorem flush_cases (e : Editor) :
    (e.isPending = true ∧ e.flush.1 = some (e.writeDocument e.form).1 ∧
      e.flush.2.debounce = e.debounce.cancel) ∨
    (e.isPending = false ∧ e.flush = (none, e)) := by
  unfold flush Debounce.flush
  by_cases hp : e.debounce.isPending = true
  · simp only [hp, if_true]
    exact .inl ⟨hp, rfl, rfl⟩
  · have hcancel : e.debounce.cancel = e.debounce := by
      rcases hd : e.debounce with ⟨delay, deadline⟩
      simp_all [Debounce.isPending, Debounce.cancel]
    simp only [hp, hcancel]
    exact .inr ⟨by simpa [isPending] using hp, rfl⟩

theorem debounce_park (e : Editor) : e.park.debounce = e.debounce := by
  unfold park
  split <;> rfl

/-- The document of a pending edit is put aside. -/
theorem discarded_park (e : Editor) :
    e.park.discarded = if e.isPending then some (e.writeDocument e.form).1 else e.discarded := by
  unfold park
  split <;> rfl

/-- A load shows what it read, or leaves the editor as it is. -/
theorem load_cases (e : Editor) (text : String) :
    (∃ raw, Document.readMapping text = .ok raw ∧ e.load text = .ok (e.park.display raw text)) ∨
    ∃ err, Document.readMapping text = .error err ∧ e.load text = .error err := by
  unfold load
  cases Document.readMapping text with
  | error err => exact .inr ⟨err, rfl, rfl⟩
  | ok raw => exact .inl ⟨raw, rfl, rfl⟩

/-- A load is applied if the text reads, and otherwise leaves the editor as it is. -/
theorem next_load_cases (e : Editor) (text : String) :
    (∃ raw, e.answer (.call (.load text)) = .loaded (.ok true) ∧
      e.next (.call (.load text)) = e.park.display raw text) ∨
    ((e.answer (.call (.load text))).settles = false ∧ e.next (.call (.load text)) = e) := by
  rcases load_cases e text with ⟨raw, -, hload⟩ | ⟨err, -, hload⟩
  · exact .inl ⟨raw, by simp [answer, hload, Except.map], by simp [next, after, hload, Except.toOption]⟩
  · exact .inr ⟨by simp [answer, hload, Except.map, Answer.settles],
      by simp [next, after, hload, Except.toOption]⟩

theorem load_applied_iff (e : Editor) (text : String) :
    e.answer (.call (.load text)) = .loaded (.ok true) ↔ ∃ raw, Document.readMapping text = .ok raw := by
  rcases load_cases e text with ⟨raw, hread, hload⟩ | ⟨err, hread, hload⟩
  · simp [answer, hload, hread, Except.map]
  · simp [answer, hload, hread, Except.map]

theorem finishLoad_current (hc : e.loads.isCurrent token = true) (text : String) :
    e.answer (.call (.finishLoad token text)) = e.answer (.call (.load text)) ∧
      e.next (.call (.finishLoad token text)) = e.next (.call (.load text)) := by
  simp only [answer, next, after, finishLoad, hc, if_true]
  cases e.load text with
  | error err => exact ⟨rfl, rfl⟩
  | ok loaded => exact ⟨rfl, rfl⟩

theorem finishLoad_stale (hc : e.loads.isCurrent token = false) (text : String) :
    e.answer (.call (.finishLoad token text)) = .loaded (.ok false) ∧
      e.next (.call (.finishLoad token text)) = e := by
  simp only [answer, next, after, finishLoad, hc]
  exact ⟨rfl, rfl⟩

/-- A load, once it is finished, is applied or leaves the editor as it is. -/
theorem isLoad_cases (e : Editor) (hr : r.isLoad = true) :
    (∃ raw text, e.answer r = .loaded (.ok true) ∧ e.next r = e.park.display raw text) ∨
    ((e.answer r).settles = false ∧ e.next r = e) := by
  unfold Request.isLoad at hr
  split at hr
  · rename_i text
    exact (next_load_cases e text).imp_left fun ⟨raw, h⟩ => ⟨raw, text, h⟩
  · rename_i token text
    cases hc : e.loads.isCurrent token with
    | true =>
      obtain ⟨hanswer, hnext⟩ := finishLoad_current hc text
      rw [hanswer, hnext]
      exact (next_load_cases e text).imp_left fun ⟨raw, h⟩ => ⟨raw, text, h⟩
    | false =>
      obtain ⟨hanswer, hnext⟩ := finishLoad_stale hc text
      exact .inr ⟨by rw [hanswer]; rfl, hnext⟩
  · cases hr

/-- Only loads are answered in this way. -/
theorem isLoad_of_loaded {applied : Except ProfileError Bool} (ha : e.answer r = .loaded applied) :
    r.isLoad = true := by
  cases r with
  | read text => cases ha
  | call c => cases c <;> first | rfl | cases ha

/-- What is handed out as written is the document of the form, and it was pending. -/
theorem pending_of_written {text : String} (ha : e.answer r = .written (some text)) :
    e.isPending = true ∧ (e.writeDocument e.form).1 = text := by
  cases r with
  | read text => cases ha
  | call c =>
    cases c with
    | poll now =>
      rcases poll_cases e now with ⟨d, hd, -, hp, -⟩ | ⟨-, hp⟩
      · simp only [answer, hp, Answer.written.injEq, Option.some.injEq] at ha
        exact ⟨by simp [Editor.isPending, Debounce.isPending, hd], ha⟩
      · simp [answer, hp] at ha
    | flush =>
      rcases flush_cases e with ⟨hpending, hp, -⟩ | ⟨-, hp⟩
      · simp only [answer, hp, Answer.written.injEq, Option.some.injEq] at ha
        exact ⟨hpending, ha⟩
      · simp [answer, hp] at ha
    | _ => cases ha

/-- What a request does to a waiting edit shows in its answer: it is an edit itself, it settles the edit, or it
leaves it waiting. -/
theorem debounce_next (e : Editor) (r : Request) :
    (∃ f t, r = .call (.edit f t) ∧ (e.next r).debounce = e.debounce.touch t ∧ (e.next r).form = f) ∨
    (r.isEdit = false ∧ (e.answer r).settles = true ∧ (e.next r).debounce = e.debounce.cancel) ∨
    (r.isEdit = false ∧ (e.answer r).settles = false ∧ (e.next r).debounce = e.debounce ∧
      (e.next r).form = e.form) := by
  by_cases hr : r.isLoad = true
  · have hedit : r.isEdit = false := by
      unfold Request.isLoad at hr
      split at hr <;> simp_all [Request.isEdit]
    rcases isLoad_cases e hr with ⟨raw, text, ha, hn⟩ | ⟨ha, hn⟩
    · refine .inr (.inl ⟨hedit, by rw [ha]; rfl, ?_⟩)
      rw [hn, display, debounce_park]
    · exact .inr (.inr ⟨hedit, ha, by rw [hn], by rw [hn]⟩)
  · cases r with
    | read text => exact .inr (.inr ⟨rfl, rfl, rfl, rfl⟩)
    | call c =>
      cases c with
      | edit f t => exact .inl ⟨f, t, rfl, rfl, rfl⟩
      | poll now =>
        rcases poll_cases e now with ⟨d, -, -, ha, hn⟩ | ⟨-, hp⟩
        · exact .inr (.inl ⟨rfl, by simp [answer, Answer.settles, ha], hn⟩)
        · exact .inr (.inr ⟨rfl, by simp [answer, Answer.settles, hp], by simp [next, after, hp],
            by simp [next, after, hp]⟩)
      | flush =>
        rcases flush_cases e with ⟨-, ha, hn⟩ | ⟨-, hp⟩
        · exact .inr (.inl ⟨rfl, by simp [answer, Answer.settles, ha], hn⟩)
        · exact .inr (.inr ⟨rfl, by simp [answer, Answer.settles, hp], by simp [next, after, hp],
            by simp [next, after, hp]⟩)
      | load text => exact absurd rfl hr
      | finishLoad token text => exact absurd rfl hr
      | _ => exact .inr (.inr ⟨rfl, rfl, rfl, rfl⟩)

/-! ## Sessions -/

/-- The edit that waits is the last one, if nothing settled it since. -/
structure Waits (delay : Nat) (h : History) (e : Editor) : Prop where
  delay_eq : e.debounce.delay = delay
  deadline : ∀ d, e.debounce.deadline = some d ↔ ∃ f t, LastEdit h f t ∧ d = t + delay
  form : ∀ f t, LastEdit h f t → e.form = f

theorem waits_new (k : Kind) (delay : Nat) : Waits delay [] (Editor.new k delay) where
  delay_eq := rfl
  deadline d := iff_of_false (by simp [new, Debounce.ofDelay]) fun ⟨_, _, hlast, _⟩ => not_since_nil hlast
  form f t hlast := absurd hlast not_since_nil

theorem Waits.next (hw : Waits delay h e) (r : Request) :
    Waits delay (h ++ [(r, e.answer r)]) (e.next r) := by
  rcases debounce_next e r with ⟨f, t, rfl, hd, hf⟩ | ⟨hedit, hsettles, hd⟩ | ⟨hedit, hsettles, hd, hf⟩
  · have hlast : ∀ f' t', LastEdit (h ++ [(.call (.edit f t), e.answer (.call (.edit f t)))]) f' t' ↔
        f = f' ∧ t = t' := by
      intro f' t'
      simp [LastEdit, since_concat, Request.isEdit]
    refine ⟨hd ▸ hw.delay_eq, fun d => ?_, fun f' t' h' => hf.trans ((hlast f' t').1 h').1⟩
    rw [hd]
    simp [hlast, Debounce.touch, hw.delay_eq, eq_comm]
  · have hlast : ∀ f' t', ¬ LastEdit (h ++ [(r, e.answer r)]) f' t' := by
      intro f' t'
      have hno : r ≠ .call (.edit f' t') := fun heq => by simp [heq, Request.isEdit] at hedit
      simp [LastEdit, since_concat, hno, hsettles]
    refine ⟨hd ▸ hw.delay_eq, fun d => ?_, fun f' t' h' => absurd h' (hlast f' t')⟩
    rw [hd]
    simp [hlast, Debounce.cancel]
  · have hlast : ∀ f' t', LastEdit (h ++ [(r, e.answer r)]) f' t' ↔ LastEdit h f' t' := by
      intro f' t'
      have hno : r ≠ .call (.edit f' t') := fun heq => by simp [heq, Request.isEdit] at hedit
      simp [LastEdit, since_concat, hno, hsettles, hedit]
    refine ⟨hd ▸ hw.delay_eq, fun d => ?_, fun f' t' h' => hf.trans (hw.form f' t' ((hlast f' t').1 h'))⟩
    rw [hd, hw.deadline]
    simp only [hlast]

theorem Waits.isPending_iff (hw : Waits delay h e) : e.isPending = true ↔ ∃ f t, LastEdit h f t := by
  rw [isPending, Debounce.isPending, Option.isSome_iff_exists]
  constructor
  · rintro ⟨d, hd⟩
    obtain ⟨f, t, hlast, -⟩ := (hw.deadline d).1 hd
    exact ⟨f, t, hlast⟩
  · rintro ⟨f, t, hlast⟩
    exact ⟨_, (hw.deadline _).2 ⟨f, t, hlast, rfl⟩⟩

/-- The last edit is the one that the form of a pending editor shows. -/
theorem Waits.lastEdit (hw : Waits delay h e) (hp : e.isPending = true) : ∃ t, LastEdit h e.form t := by
  obtain ⟨f, t, hlast⟩ := hw.isPending_iff.1 hp
  exact ⟨t, hw.form f t hlast ▸ hlast⟩

/-- The document that writing the last edit would give is `text`. -/
def IsLastDocument (h : History) (e : Editor) (text : String) : Prop :=
  ∃ f t, LastEdit h f t ∧ e.answer (.call (.write f)) = .document text

/-- What an editor does with edits, as seen from its history. -/
structure KeepsEdits (delay : Nat) (h : History) (e : Editor) : Prop where
  /-- An edit is pending until it is settled. -/
  isPending : e.isPending = true ↔ Unsettled h
  flush : (e.answer (.call .flush)).settles = true ↔ e.isPending = true
  poll : ∀ now, (e.answer (.call (.poll now))).settles = true ↔ ∃ f t, LastEdit h f t ∧ t + delay ≤ now
  written : ∀ r text, e.answer r = .written (some text) → IsLastDocument h e text
  /-- A load puts a pending edit aside, as it would be written over the document from before the load. -/
  loaded : ∀ r, e.answer r = .loaded (.ok true) → (e.next r).isPending = false ∧
    if e.isPending then ∃ text, IsLastDocument h e text ∧ (e.next r).discarded = some text
    else (e.next r).discarded = e.discarded
  /-- A load that is not applied has no effect, and it is applied when the text reads and no other load was
  begun since. -/
  notLoaded : ∀ r, r.isLoad = true → e.answer r ≠ .loaded (.ok true) → e.next r = e
  load : ∀ text, e.answer (.call (.load text)) = .loaded (.ok true) ↔
    ∃ raw, Document.readMapping text = .ok raw
  finishLoad : ∀ token text, e.answer (.call (.finishLoad token text)) = .loaded (.ok true) ↔
    e.loads.isCurrent token = true ∧ ∃ raw, Document.readMapping text = .ok raw

theorem Waits.keepsEdits (hw : Waits delay h e) : KeepsEdits delay h e where
  isPending := hw.isPending_iff.trans unsettled_iff.symm
  flush := by
    rcases flush_cases e with ⟨hp, ha, -⟩ | ⟨hp, ha⟩
    · simp [answer, Answer.settles, ha, hp]
    · simp [answer, Answer.settles, ha, hp]
  poll now := by
    rcases poll_cases e now with ⟨d, hd, hle, ha, -⟩ | ⟨hno, ha⟩
    · obtain ⟨f, t, hlast, rfl⟩ := (hw.deadline d).1 hd
      exact iff_of_true (by simp [answer, Answer.settles, ha]) ⟨f, t, hlast, hle⟩
    · refine iff_of_false (by simp [answer, Answer.settles, ha]) ?_
      rintro ⟨f, t, hlast, hle⟩
      exact hno _ ((hw.deadline _).2 ⟨f, t, hlast, rfl⟩) hle
  written r text ha := by
    obtain ⟨hp, hdocument⟩ := pending_of_written ha
    obtain ⟨t, hlast⟩ := hw.lastEdit hp
    exact ⟨e.form, t, hlast, congrArg _ hdocument⟩
  loaded r ha := by
    rcases isLoad_cases e (isLoad_of_loaded ha) with ⟨raw, text, -, hn⟩ | ⟨hno, -⟩
    · have hdiscarded : (e.next r).discarded = e.park.discarded := by rw [hn]; rfl
      refine ⟨by rw [hn]; rfl, ?_⟩
      rw [hdiscarded, discarded_park]
      split
      · rename_i hp
        obtain ⟨t, hlast⟩ := hw.lastEdit hp
        exact ⟨_, ⟨e.form, t, hlast, rfl⟩, rfl⟩
      · rfl
    · rw [ha] at hno
      cases hno
  notLoaded r hr hno := by
    rcases isLoad_cases e hr with ⟨raw, text, ha, -⟩ | ⟨-, hn⟩
    · exact absurd ha hno
    · exact hn
  load := load_applied_iff e
  finishLoad token text := by
    cases hc : e.loads.isCurrent token with
    | true =>
      rw [(finishLoad_current hc text).1, load_applied_iff]
      simp
    | false =>
      rw [(finishLoad_stale hc text).1]
      simp

/-- Whatever an editor was asked, no edit is lost unseen: the last one stays pending until it is written or a
load is applied, what is written is its document, and a load puts that document aside. -/
theorem keepsEdits_session (k : Kind) (delay : Nat) (requests : List Request) :
    KeepsEdits delay (session k delay requests).1 (session k delay requests).2 := by
  have hwaits : Waits delay (session k delay requests).1 (session k delay requests).2 :=
    session_induction (waits_new k delay) (fun _ _ r hw => hw.next r) requests
  exact hwaits.keepsEdits

end ProfileKit.Editor

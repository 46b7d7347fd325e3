import ProfileKit.Proofs.Editor.Reachable

/-!
# Sessions with an editor

A session is a list of requests to a new editor; its history pairs every request with the answer. What a
history says about the editor at its end is mostly of one form: something happened, and since then nothing
else did (`Since`). One request more either starts that over or has to keep it (`since_concat`), so such a
statement is carried through a session one request at a time.
-/

namespace ProfileKit

/-! ## Since -/

section

variable {α : Type} {P Q P' Q' : α → Prop} {h : List α}

/-- Something with `P` is in a list, and everything after it has `Q`. -/
def Since (Q P : α → Prop) (h : List α) : Prop :=
  ∃ before x after, h = before ++ x :: after ∧ P x ∧ ∀ y ∈ after, Q y

theorem not_since_nil : ¬ Since Q P [] := by
  rintro ⟨before, x, after, h, -⟩
  simp at h

theorem since_concat {x : α} : Since Q P (h ++ [x]) ↔ P x ∨ (Since Q P h ∧ Q x) := by
  constructor
  · rintro ⟨before, y, after, heq, hy, hafter⟩
    rcases List.eq_nil_or_concat after with rfl | ⟨after, z, rfl⟩
    · obtain ⟨-, rfl⟩ := List.append_singleton_inj.1 heq
      exact .inl hy
    · rw [List.concat_eq_append] at heq hafter
      rw [← List.cons_append, ← List.append_assoc] at heq
      obtain ⟨rfl, rfl⟩ := List.append_singleton_inj.1 heq
      exact .inr ⟨⟨before, y, after, rfl, hy, fun w hw => hafter w (by simp [hw])⟩, hafter x (by simp)⟩
  · rintro (hx | ⟨⟨before, y, after, rfl, hy, hafter⟩, hx⟩)
    · exact ⟨h, x, [], rfl, hx, by simp⟩
    · refine ⟨before, y, after ++ [x], by simp, hy, fun w hw => ?_⟩
      rcases List.mem_append.1 hw with hw | hw
      · exact hafter w hw
      · rwa [List.mem_singleton.1 hw]

end

/-! ## Requests and answers -/

namespace Editor

/-- What an editor is asked: a call that may change it, or to read a document. -/
inductive Request where
  | call (c : Call)
  | read (text : String)

/-- What an editor answers. -/
inductive Answer where
  | done
  | document (text : String)
  /-- The document of the form, where it was time to write it. -/
  | written (text : Option String)
  /-- Whether a load was applied, or else overtaken. -/
  | loaded (applied : Except ProfileError Bool)
  | token (n : Nat)
  | discarded (text : Option String)
  | notices (ns : List Notice)
  | form (f : Except ProfileError Form)

def answer (e : Editor) : Request → Answer
  | .call (.write f) => .document (e.writeDocument f).1
  | .call (.edit _ _) => .done
  | .call (.poll now) => .written (e.poll now).1
  | .call .flush => .written e.flush.1
  | .call (.load text) => .loaded ((e.load text).map fun _ => true)
  | .call .beginLoad => .token e.beginLoad.1
  | .call (.finishLoad token text) => .loaded ((e.finishLoad token text).map Prod.fst)
  | .call .takeDiscarded => .discarded e.takeDiscarded.1
  | .call .takeNotices => .notices e.takeNotices.1
  | .read text => .form (e.readDocument text)

/-- The editor after a request. Reading leaves it as it is. -/
def next (e : Editor) : Request → Editor
  | .call c => e.after c
  | .read _ => e

/-- Requests and their answers, the latest one at the end. -/
abbrev History := List (Request × Answer)

/-- One request more. -/
def respond (state : History × Editor) (r : Request) : History × Editor :=
  (state.1 ++ [(r, state.2.answer r)], state.2.next r)

/-- The history of requests to a new editor, and the editor after them. -/
def session (k : Kind) (delay : Nat) (requests : List Request) : History × Editor :=
  requests.foldl respond ([], .new k delay)

/-- What holds of a new editor and survives every request holds of every session. -/
theorem session_induction {k : Kind} {delay : Nat} {P : History → Editor → Prop} (hnew : P [] (.new k delay))
    (hstep : ∀ h e r, P h e → P (h ++ [(r, e.answer r)]) (e.next r)) (requests : List Request) :
    P (session k delay requests).1 (session k delay requests).2 := by
  induction requests using List.reverseRecOn with
  | nil => exact hnew
  | append_singleton requests r ih =>
    rw [session, List.foldl_append]
    exact hstep _ _ r ih

end Editor
end ProfileKit

import ProfileKit.Proofs.Editor.PendingEdit

/-!
# Overtaken loads

The loads of an editor are numbered upwards in the order in which they are begun (`Editor.tokens_next`), so the
current one is the one that was begun last. A load that is ended is applied if no other one was begun after it
and its text reads, and then it does what loading the text at once does; one that was overtaken has no effect.
So a session is the same without the ends of overtaken loads (`Editor.dropsStale_session`).
-/

namespace ProfileKit.Editor

variable {k : Kind} {delay : Nat} {h : History} {e : Editor} {token : Nat}

/-! ## Histories -/

def Answer.token? : Answer → Option Nat
  | .token n => some n
  | _ => none

/-- The numbers of the loads that were begun, in their order. -/
def tokens (h : History) : List Nat := h.filterMap fun x => x.2.token?

/-- After the load with a number another one was begun. -/
def Overtaken (h : History) (token : Nat) : Prop := token ∈ (tokens h).dropLast

instance (h : History) (token : Nat) : Decidable (Overtaken h token) :=
  inferInstanceAs (Decidable (token ∈ (tokens h).dropLast))

/-- The request ends a load that was overtaken. -/
def endsStale (h : History) : Request → Bool
  | .call (.finishLoad token _) => decide (Overtaken h token)
  | _ => false

/-- A history, which follows another one, without the ends of overtaken loads. -/
def dropStale (before : History) : History → History
  | [] => []
  | x :: after =>
    if endsStale before x.1 then dropStale (before ++ [x]) after
    else x :: dropStale (before ++ [x]) after

theorem tokens_concat (h : History) (x : Request × Answer) :
    tokens (h ++ [x]) = tokens h ++ x.2.token?.toList := by
  simp only [tokens, List.filterMap_append, List.filterMap_cons, List.filterMap_nil]
  cases x.2.token? <;> rfl

theorem dropStale_concat (before h : History) (x : Request × Answer) :
    dropStale before (h ++ [x]) =
      dropStale before h ++ if endsStale (before ++ h) x.1 then [] else [x] := by
  induction h generalizing before with
  | nil =>
    simp only [List.nil_append, dropStale, List.append_nil]
  | cons y after ih =>
    have hih := ih (before ++ [y])
    rw [List.append_assoc, List.singleton_append] at hih
    simp only [List.cons_append, dropStale, hih]
    split <;> rfl

/-! ## One request -/

theorem loads_park (e : Editor) : e.park.loads = e.loads := by
  unfold park
  split <;> rfl

/-- Beginning a load counts it; no other request has a number as its answer, or counts loads. -/
theorem loads_next (e : Editor) (r : Request) :
    ((e.answer r).token? = some (e.loads.current + 1) ∧
      (e.next r).loads.current = e.loads.current + 1) ∨
    ((e.answer r).token? = none ∧ (e.next r).loads = e.loads) := by
  by_cases hr : r.isLoad = true
  · refine .inr ?_
    have hanswer : (e.answer r).token? = none := by
      unfold Request.isLoad at hr
      split at hr <;> first | rfl | cases hr
    rcases isLoad_cases e hr with ⟨raw, text, -, hn⟩ | ⟨-, hn⟩
    · exact ⟨hanswer, by rw [hn, display, loads_park]⟩
    · exact ⟨hanswer, by rw [hn]⟩
  · cases r with
    | read text => exact .inr ⟨rfl, rfl⟩
    | call c =>
      cases c with
      | beginLoad => exact .inl ⟨rfl, rfl⟩
      | poll now =>
        refine .inr ⟨rfl, ?_⟩
        simp only [next, after, poll]
        split <;> rfl
      | flush =>
        refine .inr ⟨rfl, ?_⟩
        simp only [next, after, flush]
        split <;> rfl
      | load text => exact absurd rfl hr
      | finishLoad token text => exact absurd rfl hr
      | _ => exact .inr ⟨rfl, rfl⟩

theorem tokens_next (htokens : tokens h = List.range' 1 e.loads.current) (r : Request) :
    tokens (h ++ [(r, e.answer r)]) = List.range' 1 (e.next r).loads.current := by
  rw [tokens_concat, htokens]
  rcases loads_next e r with ⟨hanswer, hloads⟩ | ⟨hanswer, hloads⟩
  · rw [hanswer, hloads, List.range'_1_concat, Nat.add_comm 1]
    rfl
  · rw [hanswer, hloads]
    exact List.append_nil _

/-! ## Sessions -/

/-- What becomes of the loads that are ended, as seen from the history of an editor. -/
structure DropsStale (k : Kind) (delay : Nat) (h : History) (e : Editor) : Prop where
  /-- A load is applied if no other one was begun after it and its text reads. -/
  applied : ∀ token ∈ tokens h, ∀ text, e.answer (.call (.finishLoad token text)) = .loaded (.ok true) ↔
    ¬ Overtaken h token ∧ ∃ raw, Document.readMapping text = .ok raw
  /-- It is applied like the load of a text at once. -/
  current : ∀ token ∈ tokens h, ¬ Overtaken h token → ∀ text,
    e.answer (.call (.finishLoad token text)) = e.answer (.call (.load text)) ∧
      e.next (.call (.finishLoad token text)) = e.next (.call (.load text))
  /-- An overtaken load is known as such and has no effect. -/
  overtaken : ∀ token, Overtaken h token → ∀ text,
    e.answer (.call (.finishLoad token text)) = .loaded (.ok false) ∧
      e.next (.call (.finishLoad token text)) = e
  /-- The other requests alone have the same answers, and lead to the same editor. -/
  dropped : session k delay ((dropStale [] h).map Prod.fst) = (dropStale [] h, e)

theorem session_concat (k : Kind) (delay : Nat) (requests : List Request) (r : Request) :
    session k delay (requests ++ [r]) = respond (session k delay requests) r := by
  simp [session]

/-- The loads of a history were numbered upwards, and the requests that ended no overtaken one lead to the same
editor. -/
structure Numbered (k : Kind) (delay : Nat) (h : History) (e : Editor) : Prop where
  tokens_eq : tokens h = List.range' 1 e.loads.current
  dropped : session k delay ((dropStale [] h).map Prod.fst) = (dropStale [] h, e)

theorem numbered_new (k : Kind) (delay : Nat) : Numbered k delay [] (Editor.new k delay) := ⟨rfl, rfl⟩

theorem Numbered.overtaken_iff (hn : Numbered k delay h e) :
    Overtaken h token ↔ 1 ≤ token ∧ token < e.loads.current := by
  rw [Overtaken, hn.tokens_eq]
  cases e.loads.current with
  | zero => simp
  | succ n =>
    rw [List.range'_1_concat, List.dropLast_concat, List.mem_range'_1]
    omega

/-- Of the loads that were begun, the current one is the one that was not overtaken. -/
theorem Numbered.isCurrent_iff (hn : Numbered k delay h e) (hissued : token ∈ tokens h) :
    e.loads.isCurrent token = true ↔ ¬ Overtaken h token := by
  rw [hn.tokens_eq, List.mem_range'_1] at hissued
  rw [hn.overtaken_iff, Generation.isCurrent, beq_iff_eq]
  omega

theorem Numbered.isCurrent_of_overtaken (hn : Numbered k delay h e) (hstale : Overtaken h token) :
    e.loads.isCurrent token = false := by
  have hissued : token ∈ tokens h := List.mem_of_mem_dropLast hstale
  rw [← Bool.not_eq_true, hn.isCurrent_iff hissued]
  exact not_not_intro hstale

theorem Numbered.next_of_endsStale (hn : Numbered k delay h e) {r : Request} (hr : endsStale h r = true) :
    e.next r = e := by
  unfold endsStale at hr
  split at hr
  · rename_i token text
    exact (finishLoad_stale (hn.isCurrent_of_overtaken (of_decide_eq_true hr)) text).2
  · cases hr

theorem Numbered.next (hn : Numbered k delay h e) (r : Request) :
    Numbered k delay (h ++ [(r, e.answer r)]) (e.next r) where
  tokens_eq := tokens_next hn.tokens_eq r
  dropped := by
    rw [dropStale_concat, List.nil_append]
    cases hr : endsStale h r with
    | true =>
      -- it is not among the requests that are kept, and it has no effect on the editor
      simp only [if_true, List.append_nil, hn.next_of_endsStale hr, hn.dropped]
    | false =>
      simp only [Bool.false_eq_true, if_false, List.map_append, List.map_cons, List.map_nil, session_concat,
        hn.dropped, respond]

theorem Numbered.dropsStale (hn : Numbered k delay h e) : DropsStale k delay h e where
  applied token hissued text := by
    rw [← hn.isCurrent_iff hissued]
    by_cases hc : e.loads.isCurrent token = true
    · rw [(finishLoad_current hc text).1, load_applied_iff]
      exact (and_iff_right hc).symm
    · rw [(finishLoad_stale (Bool.not_eq_true _ ▸ hc) text).1]
      simp [hc]
  current token hissued hlatest := finishLoad_current ((hn.isCurrent_iff hissued).2 hlatest)
  overtaken token hstale := finishLoad_stale (hn.isCurrent_of_overtaken hstale)
  dropped := hn.dropped

/-- However loads are begun and ended in a session, with other requests between, one that was overtaken does not
show in it. -/
theorem dropsStale_session (k : Kind) (delay : Nat) (requests : List Request) :
    DropsStale k delay (session k delay requests).1 (session k delay requests).2 := by
  have hnumbered : Numbered k delay (session k delay requests).1 (session k delay requests).2 :=
    session_induction (numbered_new k delay) (fun _ _ r hn => hn.next r) requests
  exact hnumbered.dropsStale

/-- The older of two loads is ended last. -/
example : (session .prompt 300 [.call .beginLoad, .call .beginLoad, .call (.finishLoad 2 "id: newer\n"),
    .call (.finishLoad 1 "id: older\n")]).2.text = "id: newer\n" := by
  decide +kernel

end ProfileKit.Editor

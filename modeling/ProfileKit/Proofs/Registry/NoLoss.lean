import ProfileKit.Proofs.Registry.Reachable
import ProfileKit.Proofs.Store.Unreliable

/-!
# No profile is lost

Renaming and deleting over a store any of whose calls may fail. A rename saves the profile under its new id
before it deletes the old one, so where it fails both may be there, but never neither; a repair rewrites
texts in place and comes to an end whatever fails (`Repair.run_preserves`). What is left in each case is said
by `AfterRename` and `AfterDelete`, and `no_profile_lost` puts the two together.
-/

namespace ProfileKit

open MemoryStore

variable {σ : Type} {st : Store σ} {content : σ → MemoryStore} {k : Kind} {id old new text : String}
  {sub : Option String} {s s₁ s' : MemoryStore} {ids : List String}

/-- The text is the one that the profile is written as. It reads as the profile if YAML is read back. -/
def Profile.WrittenAs (p : Profile) (text : String) : Prop :=
  text = p.toYaml ∧ (p.ReadsBack → Profile.parse p.kind text = .ok p)

theorem Profile.Keeps.writtenAs {p : Profile} (h : p.Keeps) : p.WrittenAs p.toYaml := ⟨rfl, Profile.parse_toYaml h⟩

/-! ## Repairs -/

namespace Repair

/-- A pipeline that refers to `old`, before and after it was given another reference. -/
def Rewritten (k : Kind) (old : String) (sub before after : Option String) : Prop :=
  ∃ text p q text', before = some text ∧ Refers k old text p ∧ Repointed k sub p q ∧
    after = some text' ∧ (Profile.pipeline q).WrittenAs text'

/-- Every entry is kept as it is, but that some of these pipelines may have been rewritten. -/
def Preserves (k : Kind) (old : String) (sub : Option String) (ids : List String)
    (s s' : MemoryStore) : Prop :=
  ∀ key, s'.get? key = s.get? key ∨
    ((key.kind = .pipeline ∧ key.id ∈ ids) ∧ Rewritten k old sub (s.get? key) (s'.get? key))

theorem preserves_refl : Preserves k old sub ids s s := fun _ => .inl rfl

/-- A pipeline that comes up once is rewritten once. -/
theorem Preserves.cons (hid : id ∉ ids) (h : Preserves k old sub [id] s s₁)
    (h' : Preserves k old sub ids s₁ s') : Preserves k old sub (id :: ids) s s' := fun key => by
  rcases h key with hsame | ⟨⟨hkind, hkey⟩, hrewritten⟩
  · rcases h' key with hsame' | ⟨⟨hkind, hkey⟩, hrewritten⟩
    · exact .inl (hsame'.trans hsame)
    · exact .inr ⟨⟨hkind, List.mem_cons_of_mem _ hkey⟩, hsame ▸ hrewritten⟩
  · have hsame' : s'.get? key = s₁.get? key := by
      refine (h' key).resolve_right fun hrest => hid ?_
      exact List.mem_singleton.1 hkey ▸ hrest.1.2
    exact .inr ⟨⟨hkind, List.mem_cons.2 (.inl (List.mem_singleton.1 hkey))⟩, hsame' ▸ hrewritten⟩

theorem preserves_insert {p : PipelineProfile} (hg : s.get? ⟨.pipeline, id⟩ = some text)
    (hp : Refers k old text p) :
    Preserves k old sub [id] s (s.insert ⟨.pipeline, id⟩ (Profile.pipeline (repoint k sub p)).toYaml) :=
  fun key => by
  rw [Table.get?_insert]
  split
  · rename_i heq
    subst heq
    have hq : Repointed k sub p _ := repointed_repoint (ne_pipeline_of_reference hp.2) p
    have hkeeps := hq.keeps (Profile.keeps_of_parse hp.1).2
    exact .inr ⟨⟨rfl, List.mem_singleton.2 rfl⟩, text, p, _, _, hg, hp, hq, rfl, hkeeps.writtenAs⟩
  · exact .inl rfl

variable (k old sub) in
/-- One round of the loop ends without an error, whatever fails. -/
theorem repairPipeline_preserves (hu : Unreliable st content) (report : RepairReport) (id : String) (x : σ) :
    ∃ report' x', (repairPipeline st k old sub report id).eval x = (.ok report', x') ∧
      Preserves k old sub [id] (content x) (content x') := by
  unfold repairPipeline
  simp only [Action.eval_bind, Action.eval_attempt]
  rcases hload : (st.load .pipeline id).eval x with ⟨e | ⟨q, text⟩, x₁⟩
  · exact ⟨report, x₁, rfl, hu.load_error hload ▸ preserves_refl⟩
  obtain ⟨hx₁, hloaded⟩ := hu.load_ok hload
  obtain ⟨hg, hp⟩ := load_eq_ok_iff.1 hloaded
  rw [← hx₁] at hg ⊢
  cases q with
  | pipeline p =>
    by_cases href : p.reference k = some old
    · simp only [href, if_true, Action.eval_bind, Action.eval_attempt]
      rcases hsave : (st.save .pipeline id (Profile.pipeline (repoint k sub p)).toYaml true).eval x₁ with
        ⟨e | ws, x₂⟩
      · exact ⟨_, x₂, rfl, hu.save_error hsave ▸ preserves_refl⟩
      · obtain ⟨-, -, -, hx₂⟩ := save_eq_ok (hu.save_ok hsave)
        exact ⟨_, x₂, rfl, hx₂ ▸ preserves_insert hg ⟨hp, href⟩⟩
    · simp only [if_neg href]
      exact ⟨report, x₁, rfl, preserves_refl⟩
  | _ => exact ⟨report, x₁, rfl, preserves_refl⟩

variable (k old sub) in
theorem foldlM_repairPipeline_preserves (hu : Unreliable st content) (hids : ids.Nodup)
    (report : RepairReport) (x : σ) :
    ∃ report' x', (ids.foldlM (repairPipeline st k old sub) report).eval x = (.ok report', x') ∧
      Preserves k old sub ids (content x) (content x') := by
  induction ids generalizing report x with
  | nil => exact ⟨report, x, rfl, preserves_refl⟩
  | cons id rest ih =>
    obtain ⟨hid, hrest⟩ := List.nodup_cons.1 hids
    obtain ⟨report₁, x₁, heval₁, h₁⟩ := repairPipeline_preserves k old sub hu report id x
    obtain ⟨report', x', heval, h⟩ := ih hrest report₁ x₁
    refine ⟨report', x', ?_, h₁.cons hid h⟩
    simp only [List.foldlM_cons, Action.eval_bind, heval₁]
    exact heval

/-- What takes the place of `old`, unless the store cannot be listed. -/
theorem replacement_cases (hu : Unreliable st content) (k : Kind) (old : String) (new : Option String)
    (x : σ) :
    ∃ sub x', (replacement st k old new).eval x = (.ok sub, x') ∧ content x' = content x ∧
      (sub = new ∨ (new = none ∧ sub = firstOther? k old (content x))) := by
  cases new with
  | some n => exact ⟨some n, x, rfl, rfl, .inl rfl⟩
  | none =>
    simp only [replacement, Action.eval_bind, Action.eval_attempt]
    rcases hlist : (st.list k).eval x with ⟨e | listed, x'⟩
    · exact ⟨none, x', rfl, hu.list_error hlist, .inl rfl⟩
    · obtain ⟨hx', rfl⟩ := hu.list_ok hlist
      exact ⟨firstOther? k old (content x), x', rfl, hx', .inr ⟨trivial, rfl⟩⟩

/-- A repair ends without an error, whatever fails, and rewrites by the replacement that it found. -/
theorem run_preserves_of_replacement (hu : Unreliable st content) {x x₁ : σ} (hs : Table.Sorted (content x))
    {new : Option String} (hreplacement : (replacement st k old new).eval x = (.ok sub, x₁))
    (hx₁ : content x₁ = content x) :
    ∃ report x', (run st k old new).eval x = (.ok report, x') ∧
      Preserves k old sub (MemoryStore.ids .pipeline (content x)) (content x) (content x') := by
  unfold run
  split
  · exact ⟨.none, x, rfl, preserves_refl⟩
  simp only [Action.eval_bind, Action.eval_attempt, hreplacement]
  rw [← hx₁] at hs ⊢
  rcases hlist : (st.list .pipeline).eval x₁ with ⟨e | listed, x₂⟩
  · exact ⟨.none, x₂, rfl, hu.list_error hlist ▸ preserves_refl⟩
  · obtain ⟨hx₂, rfl⟩ := hu.list_ok hlist
    have hids : (MemoryStore.ids .pipeline (content x₁)).Nodup := (sorted_ids hs .pipeline).imp ne_of_lt
    obtain ⟨report, x', heval, h⟩ := foldlM_repairPipeline_preserves k old sub hu hids .none x₂
    exact ⟨report, x', heval, hx₂ ▸ h⟩

/-- A repair ends without an error, whatever fails. Every entry is kept, or rewritten if it is a pipeline
that referred to `old`. -/
theorem run_preserves (hu : Unreliable st content) {x : σ} (hs : Table.Sorted (content x)) (k : Kind)
    (old : String) (new : Option String) :
    ∃ report sub x', (run st k old new).eval x = (.ok report, x') ∧
      (sub = new ∨ (new = none ∧ sub = firstOther? k old (content x))) ∧
      Preserves k old sub (MemoryStore.ids .pipeline (content x)) (content x) (content x') := by
  obtain ⟨sub, x₁, hreplacement, hx₁, hsub⟩ := replacement_cases hu k old new x
  obtain ⟨report, x', heval, h⟩ := run_preserves_of_replacement hu hs hreplacement hx₁
  exact ⟨report, sub, x', heval, hsub, h⟩

end Repair

/-! ## Renaming -/

namespace Registry

open Repair

/-- An entry is as it was, or it is a pipeline that referred to `old` and got another reference. -/
def Preserved (k : Kind) (old : String) (sub : Option String) (s s' : MemoryStore) (key : Key) : Prop :=
  s'.get? key = s.get? key ∨ (key.kind = .pipeline ∧ Rewritten k old sub (s.get? key) (s'.get? key))

theorem preserved_of_preserves (h : Preserves k old sub ids s s') (key : Key) :
    Preserved k old sub s s' key :=
  (h key).imp_right fun hr => ⟨hr.1.1, hr.2⟩

/-- Pipelines do not refer to pipelines. -/
theorem Preserved.eq_of_kind {key : Key} (h : Preserved k old sub s s' key) (hkey : key.kind = k) :
    s'.get? key = s.get? key := by
  refine h.resolve_right ?_
  rintro ⟨hkind, text, p, q, text', -, hp, -⟩
  exact ne_pipeline_of_reference hp.2 (hkey.symm.trans hkind)

/-- The text is the profile under `old`, with the id `new`. -/
def IsMoved (k : Kind) (old new : String) (s : MemoryStore) (text : String) : Prop :=
  ∃ before p, s.get? ⟨k, old⟩ = some before ∧ Profile.parse k before = .ok p ∧ (p.setId new).WrittenAs text

theorem isMoved_toYaml {p : Profile} (hg : s.get? ⟨k, old⟩ = some text) (hp : Profile.parse k text = .ok p) :
    IsMoved k old new s (p.setId new).toYaml :=
  ⟨text, p, hg, hp, ((Profile.keeps_of_parse hp).2.setId new).writtenAs⟩

/-- A rename that failed: every entry is kept, and at most the profile under its new id came up. -/
structure RenameFailed (k : Kind) (old new : String) (s s' : MemoryStore) : Prop where
  kept : ∀ key text, s.get? key = some text → s'.get? key = some text
  added : ∀ key text, s.get? key = none → s'.get? key = some text →
    key = ⟨k, new⟩ ∧ IsMoved k old new s text

/-- A rename that succeeded: the profile is under its new id, where none was, and every other entry is
preserved. -/
structure RenameDone (k : Kind) (old new : String) (s s' : MemoryStore) : Prop where
  free : s.get? ⟨k, new⟩ = none
  gone : s'.get? ⟨k, old⟩ = none
  isMoved : ∃ text, s'.get? ⟨k, new⟩ = some text ∧ IsMoved k old new s text
  others : ∀ key, key ≠ ⟨k, old⟩ → key ≠ ⟨k, new⟩ → Preserved k old (some new) s s' key

/-- What a rename leaves. -/
def AfterRename (k : Kind) (old new : String) (s : MemoryStore) :
    Except ProfileError RepairReport → MemoryStore → Prop
  | .error _, s' => RenameFailed k old new s s'
  | .ok _, s' => RenameDone k old new s s'

theorem renameFailed_refl : RenameFailed k old new s s where
  kept _ _ h := h
  added key text hnone hsome := by rw [hnone] at hsome; cases hsome

/-- Saved under the new id, and still under the old one. -/
theorem renameFailed_insert (hfree : s.get? ⟨k, new⟩ = none) (hmoved : IsMoved k old new s text) :
    RenameFailed k old new s (s.insert ⟨k, new⟩ text) where
  kept key t hg := by
    have hne : (⟨k, new⟩ : Key) ≠ key := by
      rintro rfl
      rw [hfree] at hg
      cases hg
    rw [Table.get?_insert, if_neg hne, hg]
  added key t hnone hsome := by
    rw [Table.get?_insert] at hsome
    split at hsome
    · rename_i heq
      obtain rfl := Option.some.inj hsome
      exact ⟨heq.symm, hmoved⟩
    · rw [hnone] at hsome
      cases hsome

theorem renameDone_of_preserved (hne : old ≠ new) (hfree : s.get? ⟨k, new⟩ = none)
    (hmoved : IsMoved k old new s text)
    (h : ∀ key, Preserved k old (some new) (moved k old new text s) s' key) :
    RenameDone k old new s s' where
  free := hfree
  gone := by rw [(h _).eq_of_kind rfl, get?_moved, if_pos rfl]
  isMoved := by
    refine ⟨text, ?_, hmoved⟩
    rw [(h _).eq_of_kind rfl, get?_moved, if_neg fun e => hne (congrArg Key.id e).symm, if_pos rfl]
  others key hold hnew := by
    have hsame : (moved k old new text s).get? key = s.get? key := by
      rw [get?_moved, if_neg hold, if_neg hnew]
    simpa only [Preserved, hsame] using h key

/-- The profile is saved under its new id before the old one is deleted. -/
theorem afterRename_eval (hu : Unreliable st content) {x : σ} (hs : Table.Sorted (content x))
    (strict : Bool) (hne : old ≠ new) {r : Except ProfileError RepairReport} {x' : σ}
    (h : (rename ⟨st, strict⟩ k old new).eval x = (r, x')) :
    AfterRename k old new (content x) r (content x') := by
  unfold rename at h
  rcases Action.eval_bind_cases h with ⟨e, hcheck, rfl⟩ | ⟨u, x₀, hcheck, h⟩
  · obtain ⟨-, rfl⟩ := Prod.mk.inj hcheck
    exact renameFailed_refl
  obtain ⟨-, rfl⟩ := Prod.mk.inj hcheck
  rw [if_neg hne] at h
  rcases Action.eval_bind_cases h with ⟨e, hlist, rfl⟩ | ⟨listed, x₁, hlist, h⟩
  · rw [hu.list_error hlist]
    exact renameFailed_refl
  obtain ⟨hx₁, rfl⟩ := hu.list_ok hlist
  rw [← hx₁] at hs h ⊢
  split at h
  · obtain ⟨rfl, rfl⟩ := Prod.mk.inj h
    exact renameFailed_refl
  rename_i hnew
  have hfree : (content x₁).get? ⟨k, new⟩ = none := by
    rw [List.contains_iff_mem] at hnew
    exact Option.not_isSome_iff_eq_none.1 fun hc => hnew (mem_ids.2 hc)
  rcases Action.eval_bind_cases h with ⟨e, hload, rfl⟩ | ⟨loaded, x₂, hload, h⟩
  · rw [hu.load_error hload]
    exact renameFailed_refl
  obtain ⟨hx₂, hloaded⟩ := hu.load_ok hload
  obtain ⟨hg, hp⟩ := load_eq_ok_iff.1 hloaded
  have hmoved : IsMoved k old new (content x₁) (loaded.profile.setId new).toYaml := isMoved_toYaml hg hp
  rw [← hx₂] at hs hfree hmoved ⊢
  rcases Action.eval_bind_cases h with ⟨e, hsave, rfl⟩ | ⟨ws, x₃, hsave, h⟩
  · rw [hu.save_error hsave]
    exact renameFailed_refl
  obtain ⟨-, -, -, hx₃⟩ := save_eq_ok (hu.save_ok hsave)
  rcases Action.eval_bind_cases h with ⟨e, hdelete, rfl⟩ | ⟨u, x₄, hdelete, h⟩
  · -- both ids are there
    rw [hu.delete_error hdelete, hx₃]
    exact renameFailed_insert hfree hmoved
  obtain ⟨-, hx₄⟩ := delete_eq_ok (hu.delete_ok hdelete)
  have hs₄ : Table.Sorted (content x₄) := by
    rw [hx₄, hx₃]
    exact Table.sorted_erase (Table.sorted_insert hs _ _) _
  obtain ⟨report, sub, y, hrun, hsub, hpreserves⟩ := run_preserves hu hs₄ k old (some new)
  obtain ⟨rfl, rfl⟩ := Prod.mk.inj (hrun.symm.trans h)
  obtain rfl : sub = some new := hsub.resolve_right fun e => nomatch e.1
  rw [hx₄, hx₃] at hpreserves
  exact renameDone_of_preserved hne hfree hmoved (preserved_of_preserves hpreserves)

/-! ## Deleting -/

/-- What is preserved where the profile was deleted before. -/
theorem preserved_of_preserves_erase (h : Preserves k id sub ids (Table.erase ⟨k, id⟩ s) s') :
    s'.get? ⟨k, id⟩ = none ∧ ∀ key, key ≠ ⟨k, id⟩ → Preserved k id sub s s' key := by
  have hkept := preserved_of_preserves h
  refine ⟨?_, fun key hkey => ?_⟩
  · rw [(hkept ⟨k, id⟩).eq_of_kind rfl, Table.get?_erase, if_pos rfl]
  · have hsame : (Table.erase ⟨k, id⟩ s).get? key = s.get? key := by
      rw [Table.get?_erase, if_neg (Ne.symm hkey)]
    simpa only [Preserved, hsame] using hkept key

/-- A delete that succeeded: the profile was there and is gone, and every other entry is preserved. What
takes the place of a reference is the first other profile, or nothing. -/
structure DeleteDone (k : Kind) (id : String) (s s' : MemoryStore) : Prop where
  stored : ∃ text, s.get? ⟨k, id⟩ = some text
  gone : s'.get? ⟨k, id⟩ = none
  others : ∃ sub, (sub = none ∨ sub = firstOther? k id s) ∧
    ∀ key, key ≠ ⟨k, id⟩ → Preserved k id sub s s' key

/-- What a delete leaves. -/
def AfterDelete (k : Kind) (id : String) (s : MemoryStore) :
    Except ProfileError RepairReport → MemoryStore → Prop
  | .error _, s' => s' = s
  | .ok _, s' => DeleteDone k id s s'

theorem afterDelete_eval (hu : Unreliable st content) {x : σ} (hs : Table.Sorted (content x))
    (strict : Bool) {r : Except ProfileError RepairReport} {x' : σ}
    (h : (delete ⟨st, strict⟩ k id).eval x = (r, x')) : AfterDelete k id (content x) r (content x') := by
  unfold delete at h
  rcases Action.eval_bind_cases h with ⟨e, hdelete, rfl⟩ | ⟨u, x₁, hdelete, h⟩
  · exact hu.delete_error hdelete
  obtain ⟨hstored, hx₁⟩ := delete_eq_ok (hu.delete_ok hdelete)
  have hs₁ : Table.Sorted (content x₁) := hx₁ ▸ Table.sorted_erase hs _
  obtain ⟨report, sub, y, hrun, hsub, hpreserves⟩ := run_preserves hu hs₁ k id none
  obtain ⟨rfl, rfl⟩ := Prod.mk.inj (hrun.symm.trans h)
  rw [hx₁] at hpreserves hsub
  rw [firstOther?_erase] at hsub
  obtain ⟨hgone, hothers⟩ := preserved_of_preserves_erase hpreserves
  exact ⟨Table.contains_iff.1 hstored, hgone, sub, hsub.imp_right And.right, hothers⟩

/-- Whatever calls of the store fail, a rename that fails has lost nothing, one that succeeds has moved the
profile, and a delete has removed nothing else. -/
theorem no_profile_lost (hu : Unreliable st content) {x : σ} (hs : Table.Sorted (content x))
    (strict : Bool) :
    (∀ k old new r x', old ≠ new → (rename ⟨st, strict⟩ k old new).eval x = (r, x') →
        AfterRename k old new (content x) r (content x')) ∧
      ∀ k id r x', (delete ⟨st, strict⟩ k id).eval x = (r, x') →
        AfterDelete k id (content x) r (content x') :=
  ⟨fun _ _ _ _ _ hne h => afterRename_eval hu hs strict hne h,
    fun _ _ _ _ h => afterDelete_eval hu hs strict h⟩

/-- The fourth call fails: of a rename that is the deletion of the old profile, and of a delete the loading
of the first pipeline. -/
def fourthFails : FaultPlan := fun n => if n = 3 then some (.storage "offline") else none

def offlineStore : Store (Nat × MemoryStore) := MemoryStore.store.failing fourthFails

theorem no_profile_lost_oneChunk :
    (∃ x', (rename ⟨offlineStore, false⟩ .chunk "c" "d").eval (0, oneChunk) =
        (.error (.storage "offline"), x') ∧ RenameFailed .chunk "c" "d" oneChunk x'.2 ∧
          x'.2 ≠ oneChunk) ∧
      ∃ x', (delete ⟨offlineStore, false⟩ .chunk "c").eval (0, oneChunk) = (.ok .none, x') ∧
        DeleteDone .chunk "c" oneChunk x'.2 := by
  have hu : Unreliable offlineStore Prod.snd := unreliable_store.failing fourthFails
  have hs : Table.Sorted oneChunk := by unfold Table.Sorted; decide
  have hrename : (rename ⟨offlineStore, false⟩ .chunk "c" "d").eval (0, oneChunk) =
      (.error (.storage "offline"), _) := Prod.ext (by decide +kernel) rfl
  have hdelete : (delete ⟨offlineStore, false⟩ .chunk "c").eval (0, oneChunk) = (.ok .none, _) :=
    Prod.ext (by decide +kernel) rfl
  exact ⟨⟨_, hrename, (no_profile_lost hu hs false).1 _ _ _ _ _ (by decide) hrename, by decide +kernel⟩,
    _, hdelete, (no_profile_lost hu hs false).2 _ _ _ _ hdelete⟩

end Registry
end ProfileKit

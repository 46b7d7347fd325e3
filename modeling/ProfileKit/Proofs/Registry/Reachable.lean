import ProfileKit.Proofs.Registry.Calls

/-!
# Stores that calls lead to

From the empty store, calls of a registry only lead to well-formed stores (`Reachable.wellFormed`). A save
keeps a text under the id that stands in it; a rename and a repair write texts anew, and where those are
read back every text in the store reads and has the id of its key (`Reachable.consistent`).
-/

namespace ProfileKit.Registry

open Check MemoryStore Repair

variable {s : MemoryStore} {strict : Bool} {k : Kind} {id old new text : String} {sub : Option String}

/-- A call that may change a store. -/
inductive Call where
  | save (k : Kind) (text : String) (overwrite : Bool)
  | rename (k : Kind) (old new : String)
  | delete (k : Kind) (id : String)

namespace Call

/-- The store after a call, whether that succeeds or not. -/
def after (strict : Bool) (s : MemoryStore) : Call → MemoryStore
  | save k text overwrite => (((registry strict).save k text overwrite).eval s).2
  | rename k old new => (((registry strict).rename k old new).eval s).2
  | delete k id => (((registry strict).delete k id).eval s).2

/-- The YAML texts that a call writes are read back. A save keeps the text that it was given. -/
def ReadsBack (s : MemoryStore) : Call → Prop
  | save _ _ _ => True
  | rename k old new =>
    (∀ text p, s.get? ⟨k, old⟩ = some text → Profile.parse k text = .ok p → (p.setId new).ReadsBack) ∧
      ReadsRepaired k old (some new) s
  | delete k id => ReadsRepaired k id (firstOther? k id s) s

theorem readsBack_rename
    (htext : ∀ text ∈ s.get? ⟨k, old⟩, ∀ p ∈ (Profile.parse k text).toOption, (p.setId new).ReadsBack)
    (hrepaired : ∀ e ∈ s, ∀ p ∈ referring? k old e.2,
      (Profile.pipeline (repoint k (some new) p)).ReadsBack) : (rename k old new).ReadsBack s :=
  ⟨fun text p hg hp => htext text hg p (by simp [hp, Except.toOption]),
    readsRepaired_of_forall_mem hrepaired⟩

theorem readsBack_delete
    (hrepaired : ∀ e ∈ s, ∀ p ∈ referring? k id e.2,
      (Profile.pipeline (repoint k (firstOther? k id s) p)).ReadsBack) : (delete k id).ReadsBack s :=
  readsRepaired_of_forall_mem hrepaired

end Call

/-- The stores that calls lead to from the empty one, with an assumption on each call. -/
inductive Reachable (strict : Bool) (assumed : MemoryStore → Call → Prop) : MemoryStore → Prop
  | empty : Reachable strict assumed []
  | step {s : MemoryStore} (h : Reachable strict assumed s) (call : Call) (hcall : assumed s call) :
    Reachable strict assumed (call.after strict s)

/-- The store after texts were saved in it one after the other. -/
def saveAll (strict : Bool) (s : MemoryStore) (texts : List (Kind × String)) : MemoryStore :=
  texts.foldl (fun s e => Call.after strict s (.save e.1 e.2 false)) s

/-- A save keeps the text that it was given, so nothing has to be read back. -/
theorem Reachable.saveAll (h : Reachable strict Call.ReadsBack s) (texts : List (Kind × String)) :
    Reachable strict Call.ReadsBack (saveAll strict s texts) := by
  induction texts generalizing s with
  | nil => exact h
  | cons e rest ih => exact ih (.step h _ trivial)

/-! ## Calls that fail -/

/-- A call that fails leaves the store as it is. -/
theorem save_error (h : s.WellFormed) {overwrite : Bool} {e : ProfileError} {s' : MemoryStore}
    (hsave : ((registry strict).save k text overwrite).eval s = (.error e, s')) : s' = s := by
  cases hp : Profile.parse k text with
  | error e =>
    rw [eval_save_error hp] at hsave
    exact (Prod.mk.inj hsave).2.symm
  | ok p =>
    rw [Registry.eval_save h hp] at hsave
    split at hsave
    · rcases hput : MemoryStore.save k (Text.trim (p.id.getD "")) text overwrite s with ⟨e' | ws, t⟩
      · rw [hput] at hsave
        exact (Prod.mk.inj hsave).2.symm.trans (save_eq_error hput)
      · simp [hput] at hsave
    · exact (Prod.mk.inj hsave).2.symm

theorem rename_error (h : s.WellFormed) {e : ProfileError} {s' : MemoryStore}
    (hr : ((registry strict).rename k old new).eval s = (.error e, s')) : s' = s := by
  rw [eval_rename h] at hr
  cases hid : Id.check new with
  | error e' =>
    rw [hid] at hr
    exact (Prod.mk.inj hr).2.symm
  | ok u =>
    simp only [hid] at hr
    split at hr
    · simp at hr
    · split at hr
      · exact (Prod.mk.inj hr).2.symm
      · cases hload : MemoryStore.load k old s with
        | error e' =>
          rw [hload] at hr
          exact (Prod.mk.inj hr).2.symm
        | ok loaded => simp [hload] at hr

theorem delete_error (h : s.WellFormed) {e : ProfileError} {s' : MemoryStore}
    (hr : ((registry strict).delete k id).eval s = (.error e, s')) : s' = s := by
  rw [eval_delete h] at hr
  split at hr
  · simp at hr
  · exact (Prod.mk.inj hr).2.symm

/-! ## Calls -/

/-- What a call can do to a store. -/
theorem after_cases (h : s.WellFormed) (call : Call) :
    call.after strict s = s ∨
      (∃ k text overwrite p id, call = .save k text overwrite ∧ Profile.parse k text = .ok p ∧
        p.trimmedId? = some id ∧ Id.isValid id = true ∧ call.after strict s = s.insert ⟨k, id⟩ text) ∨
      (∃ k old new p, call = .rename k old new ∧ Renamed k old new s p (call.after strict s)) ∨
      (∃ k id, call = .delete k id ∧ s.contains ⟨k, id⟩ = true ∧
        call.after strict s = repaired k id (firstOther? k id s) (Table.erase ⟨k, id⟩ s)) := by
  cases call with
  | save k text overwrite =>
    rcases hr : ((registry strict).save k text overwrite).eval s with ⟨_ | ws, s'⟩
    · exact .inl ((congrArg Prod.snd hr).trans (save_error h hr))
    · obtain ⟨p, id, hp, hid, -, hvalid, -, hs'⟩ := save_ok h hr
      exact .inr (.inl ⟨k, text, overwrite, p, id, rfl, hp, hid, hvalid, (congrArg Prod.snd hr).trans hs'⟩)
  | rename k old new =>
    rcases hr : ((registry strict).rename k old new).eval s with ⟨_ | report, s'⟩
    · exact .inl ((congrArg Prod.snd hr).trans (rename_error h hr))
    · have hs' : Call.after strict s (.rename k old new) = s' := congrArg Prod.snd hr
      rw [hs']
      rcases rename_ok h hr with ⟨-, hsame⟩ | ⟨p, hp⟩
      · exact .inl hsame
      · exact .inr (.inr (.inl ⟨k, old, new, p, rfl, hp⟩))
  | delete k id =>
    rcases hr : ((registry strict).delete k id).eval s with ⟨_ | report, s'⟩
    · exact .inl ((congrArg Prod.snd hr).trans (delete_error h hr))
    · obtain ⟨hc, hs'⟩ := delete_ok h hr
      rw [firstOther?_erase] at hs'
      exact .inr (.inr (.inr ⟨k, id, rfl, hc, (congrArg Prod.snd hr).trans hs'⟩))

/-! ## Well-formed stores -/

theorem wellFormed_moved (h : s.WellFormed) (hnew : Id.isValid new = true) :
    (moved k old new text s).WellFormed :=
  (h.insert ⟨k, new⟩ hnew text).erase ⟨k, old⟩

theorem wellFormed_after (h : s.WellFormed) (call : Call) : (call.after strict s).WellFormed := by
  rcases after_cases h call with hs | ⟨k, text, _, p, id, rfl, -, -, hid, hs⟩ | ⟨k, old, new, p, rfl, hp⟩ |
    ⟨k, id, rfl, -, hs⟩
  · exact hs.symm ▸ h
  · exact hs.symm ▸ h.insert ⟨k, id⟩ hid text
  · exact hp.eq.symm ▸ wellFormed_repaired (wellFormed_moved h hp.isValid)
  · exact hs.symm ▸ wellFormed_repaired (h.erase ⟨k, id⟩)

theorem Reachable.wellFormed {assumed : MemoryStore → Call → Prop} (h : Reachable strict assumed s) :
    s.WellFormed := by
  induction h with
  | empty => exact wellFormed_nil
  | step _ call _ ih => exact wellFormed_after ih call

/-! ## Consistent stores -/

/-- A repaired store is as consistent as before, since the ids in the texts stay. -/
theorem consistent_repaired (h : s.Consistent) (hy : k ≠ .pipeline → ReadsRepaired k old sub s) :
    (repaired k old sub s).Consistent where
  toWellFormed := wellFormed_repaired h.toWellFormed
  reads {key text} hg := by
    rw [get?_repaired] at hg
    split at hg
    · rename_i hj
      obtain ⟨j, id⟩ := key
      obtain rfl : j = .pipeline := hj
      obtain ⟨before, hb, rfl⟩ := Option.map_eq_some_iff.1 hg
      by_cases href : ∃ p, Refers k old before p
      · obtain ⟨p, hp⟩ := href
        have hk : k ≠ .pipeline := ne_pipeline_of_reference hp.2
        obtain ⟨q, hq, hqid⟩ := h.reads hb
        obtain rfl : q = .pipeline p := Except.ok.inj (hq.symm.trans hp.1)
        refine ⟨_, parse_repairedText hk hp (hy hk id before p hb hp), ?_⟩
        rw [← hqid, Profile.trimmedId?, Profile.trimmedId?]
        exact congrArg (Option.bind · Text.nonBlank?) (repointed_repoint hk p).id
      · rw [repairedText_of_not_refers fun p hp => href ⟨p, hp⟩]
        exact h.reads hb
    · exact h.reads hg

/-- The pipelines of a store are not touched when a profile of another kind is moved. -/
theorem get?_moved_pipeline (hk : k ≠ .pipeline) (id : String) :
    (moved k old new text s).get? ⟨.pipeline, id⟩ = s.get? ⟨.pipeline, id⟩ := by
  rw [get?_moved, if_neg fun e => hk (congrArg Key.kind e).symm,
    if_neg fun e => hk (congrArg Key.kind e).symm]

theorem consistent_moved (h : s.Consistent) {p : Profile} (hnew : Id.isValid new = true)
    (hread : ∃ text, s.get? ⟨k, old⟩ = some text ∧ Profile.parse k text = .ok p)
    (hy : (p.setId new).ReadsBack) : (moved k old new (p.setId new).toYaml s).Consistent := by
  obtain ⟨text, -, hp⟩ := hread
  obtain ⟨hkind, hkeeps⟩ := Profile.keeps_of_parse hp
  have hparse : Profile.parse k (p.setId new).toYaml = .ok (p.setId new) := by
    have := Profile.parse_toYaml (hkeeps.setId new) hy
    rwa [Profile.kind_setId, hkind] at this
  have hid : (p.setId new).trimmedId? = some new := by
    rw [Profile.trimmedId?, Profile.id_setId, Option.bind_some, Id.nonBlank?_of_isValid hnew]
  exact (h.insert ⟨k, new⟩ hnew hparse hid).erase ⟨k, old⟩

theorem Renamed.consistent {p : Profile} {s' : MemoryStore} (hp : Renamed k old new s p s')
    (h : s.Consistent) (hy : (Call.rename k old new).ReadsBack s) : s'.Consistent := by
  obtain ⟨htext, hrepaired⟩ := hy
  obtain ⟨text, hg, hparse⟩ := hp.read
  rw [hp.eq]
  refine consistent_repaired (consistent_moved h hp.isValid hp.read (htext text p hg hparse)) ?_
  exact fun hk id text q hq => hrepaired id text q (get?_moved_pipeline hk id ▸ hq)

theorem consistent_deleted (h : s.Consistent) (hy : (Call.delete k id).ReadsBack s) :
    (repaired k id (firstOther? k id s) (Table.erase ⟨k, id⟩ s)).Consistent := by
  refine consistent_repaired (h.erase ⟨k, id⟩) fun hk i text q hq => hy i text q ?_
  rwa [Table.get?_erase, if_neg fun e => hk (congrArg Key.kind e)] at hq

theorem consistent_after (h : s.Consistent) (call : Call) (hy : call.ReadsBack s) :
    (call.after strict s).Consistent := by
  rcases after_cases h.toWellFormed call with hs | ⟨k, text, _, p, id, rfl, hp, hpid, hid, hs⟩ |
    ⟨k, old, new, p, rfl, hp⟩ | ⟨k, id, rfl, -, hs⟩
  · exact hs.symm ▸ h
  · exact hs.symm ▸ h.insert ⟨k, id⟩ hid hp hpid
  · exact hp.consistent h hy
  · exact hs.symm ▸ consistent_deleted h hy

/-- Every store that calls lead to is consistent, if the texts they write are read back. -/
theorem Reachable.consistent (h : Reachable strict Call.ReadsBack s) : s.Consistent := by
  induction h with
  | empty => exact consistent_nil
  | step _ call hcall ih => exact consistent_after ih call hcall

/-- At every point of a run, each text is kept under a valid id, and reads as a profile with that id. -/
theorem Reachable.stored_under_own_id (h : Reachable strict Call.ReadsBack s) {key : Key}
    (hg : s.get? key = some text) :
    Id.isValid key.id = true ∧ ∃ p, Profile.parse key.kind text = .ok p ∧ p.kind = key.kind ∧
      p.trimmedId? = some key.id := by
  obtain ⟨p, hp, hid⟩ := h.consistent.reads hg
  exact ⟨h.wellFormed.isValid (Table.contains_iff.2 ⟨text, hg⟩), p, hp, (Profile.keeps_of_parse hp).1, hid⟩

/-- A pipeline, and the only chunk profile, which it refers to. -/
def wiredPipeline : String := "id: p\nprovider: a\nprompt: b\nparser: d\nchunk_policy: c\n"

def lineChunk : String := "id: c\ntype: line\n"

def oneChunk : MemoryStore := [(⟨.pipeline, "p"⟩, wiredPipeline), (⟨.chunk, "c"⟩, lineChunk)]

theorem reachable_oneChunk : Reachable false Call.ReadsBack oneChunk := by
  have hsaved : saveAll false [] [(.chunk, lineChunk), (.pipeline, wiredPipeline)] = oneChunk := by
    decide +kernel
  exact hsaved ▸ Reachable.empty.saveAll _

/-- The chunk profile after a rename. -/
def renamedChunk : String := "chunk_type: line\nid: d\n"

theorem stored_under_own_id_renamedChunk :
    (Call.after false oneChunk (.rename .chunk "c" "d")).get? ⟨.chunk, "d"⟩ = some renamedChunk ∧
      Id.isValid "d" = true ∧ ∃ p, Profile.parse .chunk renamedChunk = .ok p ∧ p.kind = .chunk ∧
        p.trimmedId? = some "d" := by
  have hy : (Call.rename .chunk "c" "d").ReadsBack oneChunk :=
    Call.readsBack_rename (by decide +kernel) (by decide +kernel)
  have hg : (Call.after false oneChunk (.rename .chunk "c" "d")).get? ⟨.chunk, "d"⟩ = some renamedChunk := by
    decide +kernel
  exact ⟨hg, (Reachable.step reachable_oneChunk _ hy).stored_under_own_id hg⟩

end ProfileKit.Registry

import ProfileKit.Proofs.Registry.Rename

/-!
# Renaming there and back

If no pipeline referred to the new id before a rename, then renaming back succeeds and finds exactly the
pipelines again that were repointed (`followed_followed`). In the end the store has its old keys, and every
profile is the one that it was, but for blanks around the id of the one that moved and around the references
to it (`rename_thereAndBack`).
-/

namespace ProfileKit

/-- The profile without blanks around its id. -/
def Profile.trimId (p : Profile) : Profile := (p.id.map Text.trim).elim p p.setId

/-- The pipeline without blanks around its reference to a kind. -/
def PipelineProfile.trimSlot (k : Kind) (p : PipelineProfile) : PipelineProfile :=
  p.setSlot k ((p.slot k).map Text.trim)

theorem Profile.setId_setId (p : Profile) (i j : String) : (p.setId i).setId j = p.setId j := by
  cases p <;> rfl

theorem Profile.trimId_eq {p : Profile} {i : String} (h : p.trimmedId? = some i) : p.trimId = p.setId i := by
  obtain ⟨j, hj, hi⟩ := Option.bind_eq_some_iff.1 h
  rw [Profile.trimId, hj, ← (Text.nonBlank?_eq_some_iff.1 hi).1]
  rfl

namespace PipelineProfile

variable {p : PipelineProfile} {k : Kind} {i : String}

theorem setSlot_setSlot (p : PipelineProfile) (k : Kind) (i j : Option String) :
    (p.setSlot k i).setSlot k j = p.setSlot k j := by
  cases k <;> rfl

theorem trimSlot_eq (h : p.reference k = some i) : p.trimSlot k = p.setSlot k (some i) := by
  obtain ⟨j, hj, hi⟩ := Option.bind_eq_some_iff.1 h
  rw [trimSlot, hj, ← (Text.nonBlank?_eq_some_iff.1 hi).1]
  rfl

end PipelineProfile

namespace Registry

open Check MemoryStore Repair

variable {s s' : MemoryStore} {strict : Bool} {k j : Kind} {old new id text : String} {p q : Profile}

/-! ## The second rename -/

variable (strict) in
/-- A rename to an id that is valid and not taken succeeds if the profile reads. -/
theorem rename_succeeds (h : s.WellFormed) (hvalid : Id.isValid new = true) (hne : old ≠ new)
    (hfree : s.contains ⟨k, new⟩ = false) (hg : s.get? ⟨k, old⟩ = some text)
    (hp : Profile.parse k text = .ok p) :
    ∃ report s', ((registry strict).rename k old new).eval s = (.ok report, s') ∧
      Renamed k old new s p s' := by
  have hload : MemoryStore.load k old s = .ok ⟨p, text⟩ := load_eq_ok_iff.2 ⟨hg, hp⟩
  rw [eval_rename h]
  simp only [Id.check, hvalid, if_true, if_neg hne, hfree, Bool.false_eq_true, if_false, hload]
  exact ⟨_, _, rfl, hvalid, hne, hfree, ⟨text, hg, hp⟩, rfl⟩

theorem renamedId_ne_old (hne : old ≠ new) : ¬ (j = k ∧ renamedId k old new j id = old) := by
  rintro ⟨rfl, h⟩
  by_cases hold : id = old
  · rw [hold, renamedId_old] at h
    exact hne h.symm
  · rw [renamedId_of_ne fun e => hold e.2] at h
    exact hold h

theorem renamedId_renamedId (hid : ¬ (j = k ∧ id = new)) :
    renamedId k new old j (renamedId k old new j id) = id := by
  by_cases hold : j = k ∧ id = old
  · obtain ⟨rfl, rfl⟩ := hold
    rw [renamedId_old, renamedId_old]
  · rw [renamedId_of_ne hold, renamedId_of_ne hid]

/-! ## Profiles -/

/-- A pipeline without blanks around its reference, if that is to the profile of a rename. -/
def tidiedPipeline (k : Kind) (old : String) (p : PipelineProfile) : PipelineProfile :=
  if p.reference k = some old then p.trimSlot k else p

/-- The profile under a key, without blanks around its id if that is the one of a rename, and without blanks
around its reference if it is a pipeline that refers to that. -/
def tidied (k : Kind) (old : String) (key : Key) (p : Profile) : Profile :=
  if key = ⟨k, old⟩ then p.trimId else p.mapPipeline (tidiedPipeline k old)

theorem followedPipeline_followedPipeline {p : PipelineProfile} (hnew : Id.isValid new = true)
    (hno : p.reference k ≠ some new) :
    followedPipeline k new old (followedPipeline k old new p) = tidiedPipeline k old p := by
  unfold tidiedPipeline
  by_cases href : p.reference k = some old
  · have hslot : (p.setSlot k (some new)).reference k = some new := by
      have hk := ne_pipeline_of_reference href
      rw [PipelineProfile.reference, PipelineProfile.slot_setSlot _ _ _ hk, Option.bind_some,
        Id.nonBlank?_of_isValid hnew]
    have hthere : followedPipeline k old new p = p.setSlot k (some new) := if_pos href
    rw [hthere, followedPipeline, if_pos hslot, if_pos href, PipelineProfile.setSlot_setSlot,
      PipelineProfile.trimSlot_eq href]
  · have hthere : followedPipeline k old new p = p := if_neg href
    rw [hthere, followedPipeline, if_neg hno, if_neg href]

/-- Following a rename and the one back changes nothing but blanks, unless it is a pipeline that referred to
the new id before. -/
theorem followed_followed (hnew : Id.isValid new = true) (hid : ¬ (j = k ∧ id = new))
    (htrim : p.trimmedId? = some id) (hno : ∀ q, p = .pipeline q → q.reference k ≠ some new) :
    followed k new old ⟨j, renamedId k old new j id⟩ (followed k old new ⟨j, id⟩ p) =
      tidied k old ⟨j, id⟩ p := by
  unfold followed tidied
  by_cases hold : j = k ∧ id = old
  · obtain ⟨rfl, rfl⟩ := hold
    rw [renamedId_old, if_pos rfl, if_pos rfl, if_pos rfl, Profile.setId_setId, Profile.trimId_eq htrim]
  · rw [renamedId_of_ne hold, if_neg (Key.mk_ne hid), if_neg (Key.mk_ne hold),
      if_neg (Key.mk_ne hold), Profile.mapPipeline_mapPipeline]
    exact Profile.mapPipeline_congr fun q hq => followedPipeline_followedPipeline hnew (hno q hq)

/-! ## Stores -/

/-- After a rename and the one back a store has the same keys and the same profiles, but for blanks around the
id and the references that were written, if no pipeline referred to the new id before. -/
theorem rename_thereAndBack (h : Reachable strict Call.ReadsBack s) (hne : old ≠ new)
    (hy : (Call.rename k old new).ReadsBack s) {report : RepairReport}
    (hrename : ((registry strict).rename k old new).eval s = (.ok report, s'))
    (hno : ∀ id text p, s.get? ⟨.pipeline, id⟩ = some text → ¬ Refers k new text p)
    (hback : (Call.rename k new old).ReadsBack s') :
    ∃ report' s'', ((registry strict).rename k new old).eval s' = (.ok report', s'') ∧
      (∀ key, s''.contains key = s.contains key) ∧
      ∀ key text, s.get? key = some text →
        ∃ p text'', Profile.parse key.kind text = .ok p ∧ s''.get? key = some text'' ∧
          Profile.parse key.kind text'' = .ok (tidied k old key p) := by
  have hs := h.consistent
  obtain ⟨q, hr⟩ : ∃ q, Renamed k old new s q s' :=
    (rename_ok hs.toWellFormed hrename).resolve_left fun e => hne e.1
  have hs' := hr.consistent hs hy
  have hvalid : Id.isValid old = true := hs.isValid hr.contains_old
  obtain ⟨text₀, hg₀, hq⟩ := hr.read
  obtain ⟨text₁, hg₁, hp₁⟩ := hr.reads hy (fun e => hne e.2) hg₀ hq
  rw [renamedId_old] at hg₁
  obtain ⟨report', s'', hrename', hr'⟩ :=
    rename_succeeds strict hs'.toWellFormed hvalid hne.symm hr.contains_old_after hg₁ hp₁
  refine ⟨report', s'', hrename', fun ⟨j, id⟩ => ?_, fun ⟨j, id⟩ text hg => ?_⟩
  · by_cases hid : j = k ∧ id = new
    · -- the new id was free at first, and it is again
      obtain ⟨rfl, rfl⟩ := hid
      rw [hr'.contains_old_after, hr.free]
    · rw [← hr.contains_renamedId hid, ← hr'.contains_renamedId (renamedId_ne_old hne),
        renamedId_renamedId hid]
  · have hid : ¬ (j = k ∧ id = new) := by
      rintro ⟨rfl, rfl⟩
      exact hr.ne_new (Table.contains_iff.2 ⟨text, hg⟩) rfl
    obtain ⟨p, hp, htrim⟩ := hs.reads hg
    have hkept : ∀ q, p = .pipeline q → q.reference k ≠ some new := by
      rintro q rfl href
      obtain rfl : Kind.pipeline = j := (Profile.keeps_of_parse hp).1
      exact hno id text q hg ⟨hp, href⟩
    obtain ⟨text', hg', hp'⟩ := hr.reads hy hid hg hp
    obtain ⟨text'', hg'', hp''⟩ := hr'.reads hback (renamedId_ne_old hne) hg' hp'
    rw [renamedId_renamedId hid] at hg''
    rw [followed_followed hr.isValid hid htrim hkept] at hp''
    exact ⟨p, text'', hp, hg'', hp''⟩

/-- The store with the chunk profile renamed. -/
def oneChunkRenamed : MemoryStore :=
  [(⟨.pipeline, "p"⟩, "chunk_policy: d\nid: p\nparser: d\nprompt: b\nprovider: a\n"),
    (⟨.chunk, "d"⟩, renamedChunk)]

theorem rename_thereAndBack_oneChunk :
    ((registry false).rename .chunk "c" "d").eval oneChunk = (.ok ⟨1, false⟩, oneChunkRenamed) ∧
      ∃ report' s'', ((registry false).rename .chunk "d" "c").eval oneChunkRenamed = (.ok report', s'') ∧
        (∀ key, s''.contains key = oneChunk.contains key) ∧
        ∀ key text, oneChunk.get? key = some text →
          ∃ p text'', Profile.parse key.kind text = .ok p ∧ s''.get? key = some text'' ∧
            Profile.parse key.kind text'' = .ok (tidied .chunk "c" key p) := by
  have hrename : ((registry false).rename .chunk "c" "d").eval oneChunk =
      (.ok ⟨1, false⟩, oneChunkRenamed) := by
    decide +kernel
  have hy : (Call.rename .chunk "c" "d").ReadsBack oneChunk :=
    Call.readsBack_rename (by decide +kernel) (by decide +kernel)
  have hback : (Call.rename .chunk "d" "c").ReadsBack oneChunkRenamed :=
    Call.readsBack_rename (by decide +kernel) (by decide +kernel)
  have hnone : ∀ e ∈ oneChunk, referring? .chunk "d" e.2 = none := by decide +kernel
  refine ⟨hrename,
    rename_thereAndBack reachable_oneChunk (by decide) hy hrename (fun id text p hg href => ?_) hback⟩
  have hsome := referring?_eq_some_iff.2 href
  rw [hnone _ (Table.mem_of_get? hg)] at hsome
  cases hsome

end Registry
end ProfileKit

import ProfileKit.Proofs.Registry.Reachable

/-!
# Renaming and checks

A rename moves a profile and repoints the pipelines that refer to it: the profile that moves gets the new id,
and the pipelines get it in place of the old one (`Renamed.reads`). So a pipeline is checked with the same
outcome before and after (`rename_check`). Its references are the old ones under their new ids, which are
known as before, and no two profiles come to have one id: a pipeline that refers to the new id although there
is no such profile is the only one that may change.
-/

namespace ProfileKit

/-- Changes a profile if it is a pipeline. -/
def Profile.mapPipeline (f : PipelineProfile → PipelineProfile) : Profile → Profile
  | .pipeline p => .pipeline (f p)
  | p => p

theorem Profile.mapPipeline_of_kind_ne {f : PipelineProfile → PipelineProfile} {p : Profile}
    (h : p.kind ≠ .pipeline) : p.mapPipeline f = p := by
  cases p with
  | pipeline p => exact absurd rfl h
  | _ => rfl

theorem Profile.mapPipeline_mapPipeline (f g : PipelineProfile → PipelineProfile) (p : Profile) :
    (p.mapPipeline f).mapPipeline g = p.mapPipeline (g ∘ f) := by
  cases p <;> rfl

theorem Profile.mapPipeline_congr {f g : PipelineProfile → PipelineProfile} {p : Profile}
    (h : ∀ q, p = .pipeline q → f q = g q) : p.mapPipeline f = p.mapPipeline g := by
  cases p with
  | pipeline p => exact congrArg Profile.pipeline (h p rfl)
  | _ => rfl

namespace Registry

open Check MemoryStore Repair

variable {s s' : MemoryStore} {strict : Bool} {k j : Kind} {old new id text : String} {p q : Profile}

/-- The id of a profile after a rename. -/
def renamedId (k : Kind) (old new : String) (j : Kind) (id : String) : String :=
  if j = k ∧ id = old then new else id

theorem renamedId_old : renamedId k old new k old = new := if_pos ⟨rfl, rfl⟩

theorem renamedId_of_ne (h : ¬ (j = k ∧ id = old)) : renamedId k old new j id = id := if_neg h

theorem map_renamedId_of_ne {reference : Option String} (h : ¬ (j = k ∧ reference = some old)) :
    reference.map (renamedId k old new j) = reference := by
  cases reference with
  | none => rfl
  | some id => rw [Option.map_some, renamedId_of_ne fun e => h ⟨e.1, congrArg some e.2⟩]

namespace Renamed

/-! ## What is stored -/

/-- Where a profile is found after a rename. -/
theorem get?_renamedId (hr : Renamed k old new s q s') (hid : ¬ (j = k ∧ id = new)) :
    s'.get? ⟨j, renamedId k old new j id⟩ =
      (s.get? ⟨j, id⟩).map fun text =>
        if j = k ∧ id = old then (q.setId new).toYaml
        else if j = .pipeline then repairedText k old (some new) text else text := by
  rw [hr.eq]
  by_cases hold : j = k ∧ id = old
  · obtain ⟨rfl, rfl⟩ := hold
    obtain ⟨text, hg, -⟩ := hr.read
    have hmoved : (moved j id new (q.setId new).toYaml s).get? ⟨j, new⟩ = some (q.setId new).toYaml := by
      rw [get?_moved, if_neg fun e => hr.ne (congrArg Key.id e).symm, if_pos rfl]
    rw [renamedId_old, get?_repaired, hmoved, hg]
    simp only [and_self, if_true, Option.map_some]
    split
    · rename_i hj
      rw [show j = .pipeline from hj, repairedText_pipeline]
    · rfl
  · rw [renamedId_of_ne hold, get?_repaired, get?_moved, if_neg (Key.mk_ne hold), if_neg (Key.mk_ne hid)]
    simp only [if_neg hold]
    split <;> simp

theorem contains_renamedId (hr : Renamed k old new s q s') (hid : ¬ (j = k ∧ id = new)) :
    s'.contains ⟨j, renamedId k old new j id⟩ = s.contains ⟨j, id⟩ := by
  rw [Table.contains, hr.get?_renamedId hid, Option.isSome_map, Table.contains]

theorem contains_old (hr : Renamed k old new s q s') : s.contains ⟨k, old⟩ = true := by
  obtain ⟨text, hg, -⟩ := hr.read
  exact Table.contains_iff.2 ⟨text, hg⟩

theorem contains_new (hr : Renamed k old new s q s') : s'.contains ⟨k, new⟩ = true := by
  have hmoved := hr.contains_renamedId (j := k) fun e => hr.ne e.2
  rwa [renamedId_old, hr.contains_old] at hmoved

theorem contains_old_after (hr : Renamed k old new s q s') : s'.contains ⟨k, old⟩ = false := by
  rw [hr.eq, contains_repaired, Table.contains, get?_moved, if_pos rfl]
  rfl

theorem ne_new (hr : Renamed k old new s q s') (hc : s.contains ⟨k, id⟩ = true) : id ≠ new := by
  rintro rfl
  rw [hr.free] at hc
  cases hc

end Renamed

/-! ## What becomes of a profile -/

/-- A pipeline after a rename. -/
def followedPipeline (k : Kind) (old new : String) (p : PipelineProfile) : PipelineProfile :=
  if p.reference k = some old then p.setSlot k (some new) else p

/-- The profile under a key after a rename. -/
def followed (k : Kind) (old new : String) (key : Key) (p : Profile) : Profile :=
  if key = ⟨k, old⟩ then p.setId new else p.mapPipeline (followedPipeline k old new)

theorem repoint_some (k : Kind) (i : String) (p : PipelineProfile) :
    repoint k (some i) p = p.setSlot k (some i) := by
  simp [repoint]

theorem parse_repairedText_eq (hy : ∀ p, Refers k old text p →
      (Profile.pipeline (repoint k (some new) p)).ReadsBack) {p : PipelineProfile}
    (hp : Profile.parse .pipeline text = .ok (.pipeline p)) :
    Profile.parse .pipeline (repairedText k old (some new) text) =
      .ok (.pipeline (followedPipeline k old new p)) := by
  unfold followedPipeline
  by_cases href : p.reference k = some old
  · rw [parse_repairedText (ne_pipeline_of_reference href) ⟨hp, href⟩ (hy p ⟨hp, href⟩), if_pos href,
      repoint_some]
  · rw [repairedText_of_not_refers (not_refers_of_reference_ne hp href), if_neg href, hp]

/-- After a rename every profile is found under its new id, and reads as what has become of it. -/
theorem Renamed.reads (hr : Renamed k old new s q s') (hy : (Call.rename k old new).ReadsBack s)
    (hid : ¬ (j = k ∧ id = new)) (hg : s.get? ⟨j, id⟩ = some text) (hp : Profile.parse j text = .ok p) :
    ∃ text', s'.get? ⟨j, renamedId k old new j id⟩ = some text' ∧
      Profile.parse j text' = .ok (followed k old new ⟨j, id⟩ p) := by
  have hget := hr.get?_renamedId hid
  rw [hg, Option.map_some] at hget
  refine ⟨_, hget, ?_⟩
  obtain ⟨hkind, hkeeps⟩ := Profile.keeps_of_parse hp
  by_cases hold : j = k ∧ id = old
  · obtain ⟨rfl, rfl⟩ := hold
    obtain ⟨text₁, hg₁, hq⟩ := hr.read
    obtain rfl : text = text₁ := Option.some.inj (hg.symm.trans hg₁)
    obtain rfl : q = p := Except.ok.inj (hq.symm.trans hp)
    have hparse := Profile.parse_toYaml (hkeeps.setId new) (hy.1 text q hg hp)
    rw [Profile.kind_setId, hkind] at hparse
    rw [if_pos ⟨rfl, rfl⟩, hparse, followed, if_pos rfl]
  · rw [if_neg hold, followed, if_neg (Key.mk_ne hold)]
    by_cases hj : j = .pipeline
    · subst hj
      cases p with
      | pipeline p => rw [if_pos rfl, parse_repairedText_eq (fun p => hy.2 id text p hg) hp, Profile.mapPipeline]
      | _ => cases hkind
    · rw [if_neg hj, hp, Profile.mapPipeline_of_kind_ne (hkind ▸ hj)]

namespace Renamed

/-! ## What is known -/

theorem contains_index (hr : Renamed k old new s q s') (h : s.Consistent) (h' : s'.Consistent)
    (hid : ¬ (j = k ∧ id = new)) :
    s'.index.contains j (renamedId k old new j id) = s.index.contains j id := by
  rw [h.contains_index, h'.contains_index, hr.contains_renamedId hid]

/-- There are profiles of the same kinds. -/
theorem isEmptyFor_index (hr : Renamed k old new s q s') (h : s.Consistent) (h' : s'.Consistent) (j : Kind) :
    s'.index.isEmptyFor j = s.index.isEmptyFor j := by
  by_cases hj : j = k
  · subst hj
    have hold : s.index.contains j old = true := by rw [h.contains_index, hr.contains_old]
    have hnew : s'.index.contains j (renamedId j old new j old) = true := by
      rw [hr.contains_index h h' fun e => hr.ne e.2, hold]
    rw [ReferenceIndex.isEmptyFor_of_contains hold, ReferenceIndex.isEmptyFor_of_contains hnew]
  · refine ReferenceIndex.isEmptyFor_congr fun id => ?_
    have hno : ¬ (j = k ∧ id = old) := fun e => hj e.1
    rw [← hr.contains_index h h' (fun e => hj e.1), renamedId_of_ne hno]

theorem reference (hr : Renamed k old new s q s') (h : s.Consistent) (h' : s'.Consistent)
    (hid : ¬ (j = k ∧ id = new)) :
    (s'.context strict).reference j (renamedId k old new j id) = (s.context strict).reference j id := by
  simp only [Context.reference, MemoryStore.context, hr.isEmptyFor_index h h', hr.contains_index h h' hid]
  by_cases hold : j = k ∧ id = old
  · obtain ⟨rfl, rfl⟩ := hold
    rw [h.contains_index, hr.contains_old]
    rfl
  · rw [renamedId_of_ne hold]
    rfl

/-- The type of a chunk profile is not changed by its id. -/
theorem chunkType?_index (hr : Renamed k old new s q s') (h : s.Consistent) (h' : s'.Consistent)
    (hy : (Call.rename k old new).ReadsBack s) (hid : ¬ (.chunk = k ∧ id = new)) :
    s'.index.chunkType? (renamedId k old new .chunk id) = s.index.chunkType? id := by
  rw [h.chunkType?_index, h'.chunkType?_index]
  cases hg : s.get? ⟨.chunk, id⟩ with
  | none => rw [hr.get?_renamedId hid, hg, Option.map_none]
  | some text =>
    obtain ⟨p, hp, -⟩ := h.reads hg
    obtain ⟨text', hg', hp'⟩ := hr.reads hy hid hg hp
    rw [hg', Option.bind_some, Option.bind_some, chunkTypeOf?, chunkTypeOf?, hp, hp', followed]
    cases p with
    | chunk c =>
      by_cases hold : (⟨.chunk, id⟩ : Key) = ⟨k, old⟩
      · rw [if_pos hold]
        rfl
      · rw [if_neg hold]
        rfl
    | _ => cases (Profile.keeps_of_parse hp).1

end Renamed

/-! ## Pipelines -/

theorem identity_of_isValid {i i' name : Option String} {a b : String} (hi : filled i = some a)
    (ha : Id.isValid a = true) (hi' : filled i' = some b) (hb : Id.isValid b = true) :
    identity i name = identity i' name := by
  simp only [identity, hi, ha, hi', hb, Bool.not_true, Finding.errorIf]

/-- A pipeline that refers to profiles under their new ids, and is the same otherwise. -/
structure Follows (k : Kind) (old new : String) (p p' : PipelineProfile) : Prop where
  reference : ∀ j, p'.reference j = (p.reference j).map (renamedId k old new j)
  applyLinePolicy : p'.applyLinePolicy = p.applyLinePolicy
  settings : p'.settings = p.settings
  identity : identity p'.id p'.name = identity p.id p.name

theorem follows_followedPipeline {p : PipelineProfile} (hnew : Id.isValid new = true) :
    Follows k old new p (followedPipeline k old new p) := by
  unfold followedPipeline
  split
  case isTrue href =>
    have hk := ne_pipeline_of_reference href
    have hq : Repointed k (some new) p (p.setSlot k (some new)) := repoint_some k new p ▸ repointed_repoint hk p
    refine ⟨fun j => ?_, hq.applyLinePolicy.trans (by simp), hq.settings, by rw [hq.id, hq.name]⟩
    by_cases hj : j = k
    · subst hj
      rw [hq.reference_eq_some rfl hnew, href, Option.map_some, renamedId_old]
    · rw [hq.reference_of_ne hj, map_renamedId_of_ne fun e => hj e.1]
  case isFalse href =>
    refine ⟨fun j => (map_renamedId_of_ne ?_).symm, rfl, rfl, rfl⟩
    rintro ⟨rfl, hold⟩
    exact href hold

theorem follows_setId {p : PipelineProfile} (hold : p.id.bind Text.nonBlank? = some old)
    (hvalid : Id.isValid old = true) (hnew : Id.isValid new = true) :
    Follows .pipeline old new p { p with id := some new } where
  reference j := by
    by_cases hj : j = .pipeline
    · subst hj
      rfl
    · have hsame : ({ p with id := some new } : PipelineProfile).reference j = p.reference j := by
        cases j <;> rfl
      rw [hsame, map_renamedId_of_ne fun e => hj e.1]
  applyLinePolicy := rfl
  settings := rfl
  identity := identity_of_isValid (Id.nonBlank?_of_isValid hnew) hnew hold hvalid

/-- What becomes of a pipeline in a rename. -/
theorem Renamed.pipeline (hr : Renamed k old new s q s') (h : s.Consistent)
    (hy : (Call.rename k old new).ReadsBack s) (hg : s.get? ⟨.pipeline, id⟩ = some text) :
    ∃ p p' text', Profile.parse .pipeline text = .ok (.pipeline p) ∧
      s'.get? ⟨.pipeline, renamedId k old new .pipeline id⟩ = some text' ∧
      Profile.parse .pipeline text' = .ok (.pipeline p') ∧ Follows k old new p p' := by
  obtain ⟨p, hp, hpid⟩ := h.pipeline hg
  have hstored : s.contains ⟨.pipeline, id⟩ = true := Table.contains_iff.2 ⟨text, hg⟩
  have hnew : ¬ (.pipeline = k ∧ id = new) := by
    rintro ⟨rfl, rfl⟩
    exact hr.ne_new hstored rfl
  obtain ⟨text', hg', hp'⟩ := hr.reads hy hnew hg hp
  by_cases hold : .pipeline = k ∧ id = old
  · obtain ⟨rfl, rfl⟩ := hold
    rw [followed, if_pos rfl] at hp'
    exact ⟨p, _, text', hp, hg', hp', follows_setId hpid (h.isValid hstored) hr.isValid⟩
  · rw [followed, if_neg (Key.mk_ne hold)] at hp'
    exact ⟨p, _, text', hp, hg', hp', follows_followedPipeline hr.isValid⟩

/-! ## Checks -/

/-- A pipeline that follows a rename has the findings that it had before. -/
theorem Renamed.pipeline_findings (hr : Renamed k old new s q s') (h : s.Consistent) (h' : s'.Consistent)
    (hy : (Call.rename k old new).ReadsBack s) {p p' : PipelineProfile} (hp : Follows k old new p p')
    (hnew : p.reference k ≠ some new) :
    Check.pipeline (s'.context strict) p' = Check.pipeline (s.context strict) p := by
  have hid : ∀ {j id}, p.reference j = some id → ¬ (j = k ∧ id = new) := by
    rintro j id hj ⟨rfl, rfl⟩
    exact hnew hj
  refine pipeline_congr (fun j => ?_) ?_ hp.applyLinePolicy hp.settings
  · rw [referenceFindings, referenceFindings, hp.reference, Option.map_map]
    cases hj : p.reference j with
    | none => rfl
    | some id => exact congrArg some (hr.reference h h' (hid hj))
  · rw [hp.reference, Option.bind_map]
    cases hj : p.reference .chunk with
    | none => rfl
    | some id => exact hr.chunkType?_index h h' hy (hid hj)

/-- After a rename every pipeline is found in the same order as before, unless it already referred to the
new id. -/
theorem rename_check (h : Reachable strict Call.ReadsBack s) (hy : (Call.rename k old new).ReadsBack s)
    {report : RepairReport} (hrename : ((registry strict).rename k old new).eval s = (.ok report, s'))
    (hg : s.get? ⟨.pipeline, id⟩ = some text)
    (hnew : ∀ p, Profile.parse .pipeline text = .ok (.pipeline p) → p.reference k ≠ some new) :
    ∃ text' found, s'.get? ⟨.pipeline, renamedId k old new .pipeline id⟩ = some text' ∧
      ((registry strict).check .pipeline text).eval s = (.ok found, s) ∧
      ((registry strict).check .pipeline text').eval s' = (.ok found, s') := by
  have hs := h.consistent
  rcases rename_ok hs.toWellFormed hrename with ⟨rfl, rfl⟩ | ⟨q, hr⟩
  · have hsame : renamedId k old old .pipeline id = id := by
      unfold renamedId
      split
      · rename_i e
        exact e.2.symm
      · rfl
    rw [hsame]
    exact ⟨text, _, hg, eval_check hs.toWellFormed .pipeline text, eval_check hs.toWellFormed .pipeline text⟩
  · have hs' := hr.consistent hs hy
    obtain ⟨p, p', text', hp, hg', hp', hfollows⟩ := hr.pipeline hs hy hg
    refine ⟨text', _, hg', eval_check_pipeline hs.toWellFormed hp, ?_⟩
    rw [eval_check_pipeline hs'.toWellFormed hp', hfollows.identity,
      hr.pipeline_findings hs hs' hy hfollows (hnew p hp)]

theorem rename_check_oneChunk :
    ∃ s', ((registry false).rename .chunk "c" "d").eval oneChunk = (.ok ⟨1, false⟩, s') ∧
      ∃ text' found, s'.get? ⟨.pipeline, "p"⟩ = some text' ∧
        ((registry false).check .pipeline wiredPipeline).eval oneChunk = (.ok found, oneChunk) ∧
        ((registry false).check .pipeline text').eval s' = (.ok found, s') := by
  have hrename : ((registry false).rename .chunk "c" "d").eval oneChunk =
      (.ok ⟨1, false⟩, Call.after false oneChunk (.rename .chunk "c" "d")) :=
    Prod.ext (by decide +kernel) rfl
  have hy : (Call.rename .chunk "c" "d").ReadsBack oneChunk :=
    Call.readsBack_rename (by decide +kernel) (by decide +kernel)
  have hno : referring? .chunk "d" wiredPipeline = none := by decide +kernel
  refine ⟨_, hrename, rename_check reachable_oneChunk hy hrename rfl fun p hp href => ?_⟩
  rw [referring?_eq_some_iff.2 ⟨hp, href⟩] at hno
  cases hno

end Registry
end ProfileKit

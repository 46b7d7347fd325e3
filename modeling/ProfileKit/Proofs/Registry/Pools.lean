import ProfileKit.Proofs.Registry.Rename
import ProfileKit.Proofs.Registry.Save

/-!
# Renaming and pools

A pool of the older way lists API profiles as its members. A repair follows a rename in the pipelines only,
so the texts of all other API profiles stay as they are, and so does what is found in them, unless one is a
pool with the renamed profile as a member: it is left with one error, which names the old id
(`rename_check_api`).
-/

namespace ProfileKit.Registry

open Check MemoryStore Repair

variable {s s' : MemoryStore} {strict : Bool} {k : Kind} {old new id text : String} {q : Profile}

namespace Renamed

/-! ## What is stored -/

/-- Other profiles of the kind are not touched, but for pipelines. -/
theorem get?_of_ne (hr : Renamed k old new s q s') (hk : k ≠ .pipeline) (hother : id ≠ old)
    (hg : s.get? ⟨k, id⟩ = some text) : s'.get? ⟨k, id⟩ = some text := by
  have hnew : id ≠ new := hr.ne_new (Table.contains_iff.2 ⟨text, hg⟩)
  have hget := hr.get?_renamedId (j := k) fun e => hnew e.2
  rwa [renamedId_of_ne fun e => hother e.2, hg, Option.map_some, if_neg fun e => hother e.2,
    if_neg hk] at hget

/-! ## API profiles -/

/-- Of the API profiles that were known, the old one is not any more. -/
theorem error_mem_reference_iff (hr : Renamed .api old new s q s') (hknown : s.contains ⟨.api, id⟩ = true)
    {code : Code} :
    .error code ∈ (s'.context strict).reference .api id ↔
      id = old ∧ code = .missingReference .api old := by
  have hindex : ∀ {t : MemoryStore} i, t.index.contains .api i = t.contains ⟨.api, i⟩ := fun i =>
    contains_index_of_ne (by decide) i
  have hnew : s'.index.contains .api new = true := by rw [hindex, hr.contains_new]
  simp only [Check.error_mem_reference_iff, MemoryStore.context, hindex,
    ReferenceIndex.isEmptyFor_of_contains hnew, true_and]
  by_cases hold : id = old
  · subst hold
    simp [hr.contains_old_after]
  · have hcontains := hr.contains_renamedId (j := .api) fun e => hr.ne_new hknown e.2
    rw [renamedId_of_ne fun e => hold e.2, hknown] at hcontains
    simp [hold, hcontains]

/-- Where nothing was wrong, a member that moved away is the only error there can be. -/
theorem error_mem_findings_iff (hr : Renamed .api old new s q s') {p : ApiProfile}
    (hclean : Clean (findings (s.context strict) (.api p))) {code : Code} :
    .error code ∈ findings (s'.context strict) (.api p) ↔
      old ∈ poolMembers p ∧ code = .missingReference .api old := by
  simp only [findings, clean_append] at hclean
  obtain ⟨hidentity, hapi⟩ := hclean
  -- there was an API profile, the one that moves, so the members were looked for
  have hmembers : ∀ i ∈ poolMembers p, s.contains ⟨.api, i⟩ = true := fun i hi => by
    have hold : s.index.contains .api old = true := by
      rw [contains_index_of_ne (by decide), hr.contains_old]
    have href := clean_reference.1 ((clean_api_iff rfl hapi).1 hapi i hi)
    simp only [MemoryStore.context, ReferenceIndex.isEmptyFor_of_contains hold, Bool.false_eq_true,
      false_or] at href
    rwa [contains_index_of_ne (by decide)] at href
  have hstrict : (s.context strict).strictTypes = (s'.context strict).strictTypes := rfl
  simp only [findings, List.mem_append, hidentity.not_mem code, false_or, error_mem_api_iff hstrict hapi]
  constructor
  · rintro ⟨i, hi, hcode⟩
    obtain ⟨rfl, hcode⟩ := (hr.error_mem_reference_iff (hmembers i hi)).1 hcode
    exact ⟨hi, hcode⟩
  · rintro ⟨hold, hcode⟩
    exact ⟨old, hold, (hr.error_mem_reference_iff (hmembers old hold)).2 ⟨rfl, hcode⟩⟩

end Renamed

/-! ## Checks -/

/-- The text is a pool of the older way, and the profile that moves is one of its members. -/
def LosesMember (old new text : String) : Prop :=
  old ≠ new ∧ ∃ p, Profile.parse .api text = .ok p ∧ old ∈ members p

/-- After an API profile was renamed, the others have the same texts and are still without errors if they
were, but for the pools with the old id among their members: these get the one error that says so. -/
theorem rename_check_api {assumed : MemoryStore → Call → Prop} (h : Reachable strict assumed s)
    {report : RepairReport} (hrename : ((registry strict).rename .api old new).eval s = (.ok report, s'))
    (hother : id ≠ old) (hg : s.get? ⟨.api, id⟩ = some text) {found : Report}
    (hcheck : ((registry strict).check .api text).eval s = (.ok found, s)) (hclean : found.isOk = true) :
    s'.get? ⟨.api, id⟩ = some text ∧
      ∃ found', ((registry strict).check .api text).eval s' = (.ok found', s') ∧
        (¬ LosesMember old new text → found'.isOk = true) ∧
        (LosesMember old new text → found'.errors = [.missingReference .api old]) := by
  have hs := h.wellFormed
  rcases rename_ok hs hrename with ⟨heq, rfl⟩ | ⟨q, hr⟩
  · exact ⟨hg, found, hcheck, fun _ => hclean, fun hloses => absurd heq hloses.1⟩
  · have hs' : s'.WellFormed := hr.eq ▸ wellFormed_repaired (wellFormed_moved hs hr.isValid)
    refine ⟨hr.get?_of_ne (by decide) hother hg, _, eval_check hs' .api text, ?_⟩
    rw [eval_check hs] at hcheck
    obtain rfl := Except.ok.inj (Prod.mk.inj hcheck).1
    obtain ⟨p, hp, hfindings⟩ := isOk_checkText.1 hclean
    cases p with
    | api p =>
      have hloses : LosesMember old new text ↔ old ∈ poolMembers p := by
        refine ⟨fun ⟨_, p₁, hp₁, hmem⟩ => ?_, fun hmem => ⟨hr.ne, _, hp, hmem⟩⟩
        obtain rfl := Except.ok.inj (hp₁.symm.trans hp)
        exact hmem
      rw [isOk_checkText, hloses]
      refine ⟨fun hno => ⟨_, hp, clean_iff_forall_not_mem.2 fun code hmem => ?_⟩, fun hmem => ?_⟩
      · exact hno ((hr.error_mem_findings_iff hfindings).1 hmem).1
      · rw [Context.checkText, hp]
        refine errors_ofFindings_eq_singleton fun code => ?_
        rw [hr.error_mem_findings_iff hfindings]
        exact and_iff_right hmem
    | _ => cases (Profile.keeps_of_parse hp).1

/-- A pool with one member, and a profile beside. -/
def memberProfile : String := "id: a\nname: A\ntype: custom\n"

def otherProfile : String := "id: b\nname: B\ntype: custom\n"

def poolOfOne : String := "id: p\nname: P\ntype: pool\nmembers: [a]\n"

def pooledStore : MemoryStore :=
  [(⟨.api, "a"⟩, memberProfile), (⟨.api, "b"⟩, otherProfile), (⟨.api, "p"⟩, poolOfOne)]

theorem reachable_pooledStore : Reachable false Call.ReadsBack pooledStore := by
  have hsaved : saveAll false []
      [(.api, memberProfile), (.api, otherProfile), (.api, poolOfOne)] = pooledStore := by
    decide +kernel
  exact hsaved ▸ Reachable.empty.saveAll _

/-- A rename of the other profile leaves the pool without errors. -/
theorem rename_check_api_otherProfile :
    ∃ s', ((registry false).rename .api "b" "c").eval pooledStore = (.ok ⟨0, false⟩, s') ∧
      s'.get? ⟨.api, "p"⟩ = some poolOfOne ∧
      ∃ found', ((registry false).check .api poolOfOne).eval s' = (.ok found', s') ∧
        found'.isOk = true := by
  have hrename : ((registry false).rename .api "b" "c").eval pooledStore =
      (.ok ⟨0, false⟩, Call.after false pooledStore (.rename .api "b" "c")) :=
    Prod.ext (by decide +kernel) rfl
  have hcheck : ((registry false).check .api poolOfOne).eval pooledStore =
      (.ok ⟨[], [.poolMembersDeprecated], ⟨[]⟩⟩, pooledStore) := by
    decide +kernel
  have hmembers : (Profile.parse .api poolOfOne).toOption.map members = some ["a"] := by decide +kernel
  obtain ⟨hg, found', hcheck', hok, -⟩ :=
    rename_check_api reachable_pooledStore hrename (by decide : "p" ≠ "b") rfl hcheck rfl
  refine ⟨_, hrename, hg, found', hcheck', hok fun ⟨_, p, hp, hmem⟩ => ?_⟩
  simp only [hp, Except.toOption, Option.map_some, Option.some.injEq] at hmembers
  simp [hmembers] at hmem

/-- A rename of its member leaves the pool with an error that it did not have. -/
theorem rename_memberProfile :
    Reachable false Call.ReadsBack pooledStore ∧
      pooledStore.get? ⟨.api, "p"⟩ = some poolOfOne ∧
      (((registry false).check .api poolOfOne).eval pooledStore).1.toOption.map Report.errors = some [] ∧
      ((registry false).rename .api "a" "d").eval pooledStore =
        (.ok ⟨0, false⟩, Call.after false pooledStore (.rename .api "a" "d")) ∧
      (((registry false).check .api poolOfOne).eval
          (Call.after false pooledStore (.rename .api "a" "d"))).1.toOption.map Report.errors =
        some [.missingReference .api "a"] :=
  ⟨reachable_pooledStore, rfl, by decide +kernel, Prod.ext (by decide +kernel) rfl, by decide +kernel⟩

end ProfileKit.Registry

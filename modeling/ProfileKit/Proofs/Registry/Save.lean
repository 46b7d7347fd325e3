import ProfileKit.Proofs.Registry.Reachable

/-!
# Saving twice

A second save of a text never changes the store, and it succeeds like the first one, with one exception.
References are not checked as long as nothing is known about their kind. A pool of the older way refers to
its own kind, and by being saved it makes the kind known, so the members of the very first API profile
are checked only when it is saved again (`save_again`).
-/

namespace ProfileKit

namespace MemoryStore

open Check

variable {s : MemoryStore} {strict : Bool} {k : Kind} {text id : String}

/-- The members that a profile has as a pool. -/
def members : Profile → List String
  | .api p => poolMembers p
  | _ => []

/-- There were API profiles before this one was saved, or it has no other member than itself. -/
def MembersKnown (s : MemoryStore) (p : Profile) (id : String) : Prop :=
  (∃ i, s.contains ⟨.api, i⟩ = true) ∨ ∀ m ∈ members p, m = id

/-! ## The second check -/

theorem contains_index_insert (hk : k ≠ .chunk) (i : String) :
    (index (Table.insert ⟨k, id⟩ text s)).contains k i = (decide (id = i) || s.contains ⟨k, i⟩) := by
  rw [contains_index_of_ne hk, Table.contains_insert]
  simp

/-- Inserting a profile does not change what is known about another kind. -/
theorem contains_index_insert_of_ne {j : Kind} (hj : j ≠ k) (i : String) :
    (index (Table.insert ⟨k, id⟩ text s)).contains j i = (index s).contains j i := by
  have hkey : decide ((⟨k, id⟩ : Key).kind = j) = false := by simpa using Ne.symm hj
  exact contains_index_congr (Table.filter_insert (p := fun key : Key => decide (key.kind = j)) hkey s) i

theorem chunkTypes_index_insert_of_ne (hk : k ≠ .chunk) :
    (index (Table.insert ⟨k, id⟩ text s)).chunkTypes = (index s).chunkTypes := by
  have hkey : decide ((⟨k, id⟩ : Key).kind = .chunk) = false := by simpa using hk
  exact chunkTypes_index_congr
    (Table.filter_insert (p := fun key : Key => decide (key.kind = .chunk)) hkey s)

/-- Pipelines refer to the other kinds only, which the save of a pipeline leaves alone. -/
theorem pipeline_insert (p : PipelineProfile) :
    pipeline (context strict (Table.insert ⟨.pipeline, id⟩ text s)) p = pipeline (context strict s) p := by
  refine pipeline_congr (fun k => ?_) ?_ rfl rfl
  · by_cases hk : k = .pipeline
    · subst hk
      rfl
    · unfold referenceFindings
      congr 1
      funext i
      exact reference_congr (contains_index_insert_of_ne hk) i
  · have htypes : (index (Table.insert ⟨.pipeline, id⟩ text s)).chunkTypes = (index s).chunkTypes :=
      chunkTypes_index_insert_of_ne (by decide)
    refine congrArg (p.reference .chunk).bind (funext fun i => ?_)
    simp only [context, ReferenceIndex.chunkType?, htypes]

/-- A pool is in order after it was saved if its members were checked before, or if there are none to
check but itself. -/
theorem clean_api_insert {p : ApiProfile} (h : Clean (api (context strict s) p)) :
    Clean (api (context strict (Table.insert ⟨.api, id⟩ text s)) p) ↔ MembersKnown s (.api p) id := by
  have hchecked : ∀ m ∈ poolMembers p, Clean ((context strict s).reference .api m) :=
    (clean_api_iff rfl h).1 h
  have hself : (index (Table.insert ⟨.api, id⟩ text s)).contains .api id = true := by
    rw [contains_index_insert (by decide)]
    simp
  have hknown := ReferenceIndex.isEmptyFor_of_contains hself
  have hmember : ∀ m, Clean ((context strict (Table.insert ⟨.api, id⟩ text s)).reference .api m) ↔
      m = id ∨ s.contains ⟨.api, m⟩ = true := by
    intro m
    rw [clean_reference]
    simp only [context, hknown, contains_index_insert (by decide : Kind.api ≠ .chunk),
      Bool.or_eq_true, decide_eq_true_eq, Bool.false_eq_true, false_or, eq_comm (a := m)]
  have hs : (context strict s).strictTypes = (context strict (Table.insert ⟨.api, id⟩ text s)).strictTypes :=
    rfl
  rw [clean_api_iff hs h]
  simp only [hmember]
  constructor
  · intro hall
    by_cases hsome : ∃ i, s.contains ⟨.api, i⟩ = true
    · exact .inl hsome
    · exact .inr fun m hm => (hall m hm).resolve_right fun hc => hsome ⟨m, hc⟩
  · rintro (⟨i, hi⟩ | hself) m hm
    · rcases clean_reference.1 (hchecked m hm) with hempty | hcontains
      · have hno := ReferenceIndex.isEmptyFor_iff.1 hempty i
        simp only [context, contains_index_of_ne (by decide : Kind.api ≠ .chunk), hi,
          Bool.true_eq_false] at hno
      · refine .inr ?_
        simpa only [context, contains_index_of_ne (by decide : Kind.api ≠ .chunk)] using hcontains
    · exact .inl (hself m hm)

variable (id text) in
/-- Whether a profile without errors has none either after it was saved. -/
theorem clean_findings_insert {p : Profile} (hkind : p.kind = k)
    (h : Clean (findings (context strict s) p)) :
    Clean (findings (context strict (Table.insert ⟨k, id⟩ text s)) p) ↔ MembersKnown s p id := by
  cases p with
  | api p =>
    obtain rfl : .api = k := hkind
    simp only [findings, clean_append] at h ⊢
    rw [clean_api_insert h.2]
    exact and_iff_right h.1
  | pipeline p =>
    obtain rfl : .pipeline = k := hkind
    simp only [findings, pipeline_insert] at h ⊢
    exact iff_of_true h (.inr (by simp [members]))
  | _ p =>
    have hs : (context strict (Table.insert ⟨k, id⟩ text s)).strictTypes = (context strict s).strictTypes :=
      rfl
    refine iff_of_true ?_ (.inr (by simp [members]))
    rwa [findings_congr_of_ne hs (by simp [Profile.kind]) (by simp [Profile.kind])]

end MemoryStore

namespace Registry

open Check MemoryStore

variable {s s' : MemoryStore} {strict : Bool} {k : Kind} {text id : String}

/-! ## The second save -/

/-- A text that was saved can be saved again over itself, unless it is the first API profile and a pool
with other members. In either case the store stays as it is, and a check comes to the same result. -/
theorem save_again {assumed : MemoryStore → Call → Prop} (h : Reachable strict assumed s) {overwrite : Bool}
    {ws : List String} (hsave : ((registry strict).save k text overwrite).eval s = (.ok ws, s')) :
    ∃ p id, Profile.parse k text = .ok p ∧ p.trimmedId? = some id ∧
      (MembersKnown s p id → ∃ ws', ((registry strict).save k text true).eval s' = (.ok ws', s')) ∧
      (¬ MembersKnown s p id → ∃ codes, codes ≠ [] ∧
        ((registry strict).save k text true).eval s' = (.error (.validation codes), s')) ∧
      ∃ report, ((registry strict).check k text).eval s' = (.ok report, s') ∧
        (report.isOk = true ↔ MembersKnown s p id) := by
  obtain ⟨p, id, hp, hid, htrim, hvalid, hclean, rfl⟩ := save_ok h.wellFormed hsave
  have hwf := h.wellFormed.insert ⟨k, id⟩ hvalid text
  have hiff := clean_findings_insert text id (Profile.keeps_of_parse hp).1 hclean
  have hok : ((MemoryStore.context strict (Table.insert ⟨k, id⟩ text s)).checkForSave p true).isOk = true ↔
      MembersKnown s p id := by
    have hnew : Clean ((MemoryStore.context strict (Table.insert ⟨k, id⟩ text s)).duplicate p true) := by
      unfold Context.duplicate
      cases p.id <;> simp
    rw [Context.checkForSave, isOk_ofFindings, clean_append, hiff]
    exact and_iff_left hnew
  refine ⟨p, id, hp, hid, fun hknown => ?_, fun hno => ?_, _, eval_check hwf k text, ?_⟩
  · rw [Registry.eval_save hwf hp, if_pos (hok.2 hknown), htrim, save_overwrite hvalid,
      Table.insert_insert h.wellFormed.sorted]
    exact ⟨_, rfl⟩
  · rw [Registry.eval_save hwf hp, if_neg fun hyes => hno (hok.1 hyes)]
    refine ⟨_, fun hnil => hno (hok.1 ?_), rfl⟩
    rw [Report.isOk, List.isEmpty_iff]
    exact List.map_eq_nil_iff.1 hnil
  · rw [isOk_checkText, ← hiff]
    simp [hp]

/-- A pool in the older way with a member that there is not. -/
def lonePool : String := "id: p\nname: P\ntype: pool\nmembers: [a]\n"

/-- In an empty store the pool is saved, and then it is not saved again: the member was not looked for
before. -/
theorem save_lonePool_twice :
    Reachable false (fun _ _ => True) [] ∧
      ((registry false).save .api lonePool false).eval [] =
        (.ok ["pool_members_deprecated", "reference_check_skipped:api"], [(⟨.api, "p"⟩, lonePool)]) ∧
      ((registry false).save .api lonePool true).eval [(⟨.api, "p"⟩, lonePool)] =
        (.error (.validation ["missing_reference:api:a"]), [(⟨.api, "p"⟩, lonePool)]) :=
  ⟨.empty, by decide +kernel, by decide +kernel⟩

theorem save_again_lonePool :
    ∃ ws s', ((registry false).save .api lonePool false).eval [] = (.ok ws, s') ∧
      ∃ p id, Profile.parse .api lonePool = .ok p ∧ p.trimmedId? = some id ∧
        (MembersKnown [] p id → ∃ ws', ((registry false).save .api lonePool true).eval s' = (.ok ws', s')) ∧
        (¬ MembersKnown [] p id → ∃ codes, codes ≠ [] ∧
          ((registry false).save .api lonePool true).eval s' = (.error (.validation codes), s')) ∧
        ∃ report, ((registry false).check .api lonePool).eval s' = (.ok report, s') ∧
          (report.isOk = true ↔ MembersKnown [] p id) := by
  have hsave : ((registry false).save .api lonePool false).eval [] =
      (.ok ["pool_members_deprecated", "reference_check_skipped:api"], [(⟨.api, "p"⟩, lonePool)]) := by
    decide +kernel
  have hempty : Reachable false (fun _ _ => True) [] := .empty
  exact ⟨_, _, hsave, save_again hempty hsave⟩

end Registry
end ProfileKit

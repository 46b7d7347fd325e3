import ProfileKit.Check
import ProfileKit.Proofs.Check.Index

/-!
# What findings depend on

A check looks at the index in three ways: whether a kind is known at all, whether an id is, and what the
type of a chunk profile is. Most kinds do not look at it (`findings_congr_of_ne`), an API profile does for
the members of its pool only (`clean_api_iff`), and a pipeline is found the same faults in wherever its
references and the type of its chunk profile come out the same (`pipeline_congr`).
-/

namespace ProfileKit.Check

open Finding (errorIf warningIf)

variable {c d : Context}

/-! ## Findings without errors -/

/-- No finding is an error. -/
def Clean (fs : List Finding) : Prop := ∀ f ∈ fs, f.error? = none

instance (fs : List Finding) : Decidable (Clean fs) :=
  inferInstanceAs (Decidable (∀ f ∈ fs, f.error? = none))

@[simp] theorem clean_nil : Clean [] := by simp [Clean]

@[simp] theorem clean_cons {f : Finding} {fs : List Finding} :
    Clean (f :: fs) ↔ f.error? = none ∧ Clean fs := by
  simp [Clean]

@[simp] theorem clean_append {fs gs : List Finding} : Clean (fs ++ gs) ↔ Clean fs ∧ Clean gs :=
  List.forall_mem_append

@[simp] theorem clean_flatMap {α : Type} {f : α → List Finding} {xs : List α} :
    Clean (xs.flatMap f) ↔ ∀ x ∈ xs, Clean (f x) := by
  simp only [Clean, List.mem_flatMap]
  exact ⟨fun h x hx g hg => h g ⟨x, hx, hg⟩, fun h g ⟨x, hx, hg⟩ => h x hx g hg⟩

@[simp] theorem clean_errorIf {p : Bool} {code : Code} : Clean (errorIf p code) ↔ p = false := by
  cases p <;> simp [errorIf, Finding.error?]

@[simp] theorem clean_warningIf {p : Bool} {code : Code} : Clean (warningIf p code) := by
  cases p <;> simp [warningIf, Finding.error?]

theorem Clean.not_mem {fs : List Finding} (h : Clean fs) (code : Code) : .error code ∉ fs :=
  fun hmem => nomatch h _ hmem

theorem clean_iff_forall_not_mem {fs : List Finding} : Clean fs ↔ ∀ code, .error code ∉ fs := by
  refine ⟨Clean.not_mem, fun h f hf => ?_⟩
  cases f with
  | error code => exact absurd hf (h code)
  | _ => rfl

theorem isOk_ofFindings {fs : List Finding} : (Report.ofFindings fs).isOk = true ↔ Clean fs := by
  simp only [Report.isOk, Report.ofFindings, List.isEmpty_iff, List.eq_nil_iff_forall_not_mem,
    Report.mem_firstOccurrences, List.mem_filterMap, not_exists, not_and, Clean, Option.eq_none_iff_forall_ne_some]
  exact ⟨fun h f hf code => h code f hf, fun h code f hf => h f hf code⟩

/-- A reference is in order if the profile is known, or if nothing is known about its kind. -/
theorem clean_reference {k : Kind} {id : String} :
    Clean (c.reference k id) ↔ c.index.isEmptyFor k = true ∨ c.index.contains k id = true := by
  unfold Context.reference
  split
  · rename_i he
    simp [Finding.error?, he]
  · rename_i he
    simp [he]

theorem error_mem_reference_iff {k : Kind} {id : String} {code : Code} :
    .error code ∈ c.reference k id ↔
      c.index.isEmptyFor k = false ∧ c.index.contains k id = false ∧ code = .missingReference k id := by
  unfold Context.reference errorIf
  cases c.index.isEmptyFor k <;> cases c.index.contains k id <;> simp

theorem reference_congr {k : Kind} (h : ∀ id, c.index.contains k id = d.index.contains k id) (id : String) :
    c.reference k id = d.reference k id := by
  rw [Context.reference, Context.reference, ReferenceIndex.isEmptyFor_congr h, h]

/-! ## Profiles that do not refer to others -/

theorem findings_congr_of_ne (hs : c.strictTypes = d.strictTypes) {p : Profile} (hapi : p.kind ≠ .api)
    (hpipeline : p.kind ≠ .pipeline) : findings c p = findings d p := by
  have hu : c.unknownType = d.unknownType := by
    funext code
    rw [Context.unknownType, Context.unknownType, hs]
  have hrule : ruleFailure c = ruleFailure d := by
    funext e
    cases e <;> simp [ruleFailure, hu]
  cases p with
  | api p => exact absurd rfl hapi
  | pipeline p => exact absurd rfl hpipeline
  | parser p => simp only [findings, parser, hu, hrule]
  | _ => rfl

/-! ## Pools -/

/-- The members of a pool in the older way: an API profile of that type without endpoints. -/
def poolMembers (p : ApiProfile) : List String :=
  if (filled p.type).bind ApiType.ofName? = some .pool ∧ (p.endpoints.getD []).isEmpty then
    (p.members.getD []).filterMap Text.nonBlank?
  else []

/-- Of the errors in an API profile only those in its members depend on the index. -/
theorem error_mem_api_iff (hs : c.strictTypes = d.strictTypes) {p : ApiProfile} (h : Clean (api c p))
    {code : Code} :
    .error code ∈ api d p ↔ ∃ id ∈ poolMembers p, .error code ∈ d.reference .api id := by
  simp only [api, clean_append, clean_errorIf] at h
  obtain ⟨hcounts, htype⟩ := h
  simp only [api, hcounts, errorIf, Bool.false_eq_true, if_false, List.nil_append]
  unfold poolMembers
  cases hname : filled p.type with
  | none => simp_all [Finding.error?]
  | some name =>
    simp only [hname] at htype
    cases hofName : ApiType.ofName? name with
    | none =>
      simp only [hofName, Context.unknownType, hs] at htype
      simpa [hofName, Context.unknownType] using htype.not_mem code
    | some type =>
      simp only [hofName] at htype
      cases type with
      | single => simpa [hofName] using htype.not_mem code
      | pool =>
        simp only [pool, clean_append, clean_errorIf] at htype ⊢
        obtain ⟨hboth, hmembers⟩ := htype
        simp only [hboth, errorIf, Bool.false_eq_true, if_false, List.nil_append, Option.bind_some, hofName]
        split
        · rename_i hempty
          simp only [hempty, if_true] at hmembers
          split
          · simp_all [Finding.error?]
          · simp [List.isEmpty_iff.1 hempty]
        · rename_i hempty
          rw [if_neg hempty] at hmembers
          simpa [hempty, errorIf] using hmembers.not_mem code

/-- So an API profile without errors has none against another index, if the references to its members are in
order there. -/
theorem clean_api_iff (hs : c.strictTypes = d.strictTypes) {p : ApiProfile} (h : Clean (api c p)) :
    Clean (api d p) ↔ ∀ id ∈ poolMembers p, Clean (d.reference .api id) := by
  rw [clean_iff_forall_not_mem]
  simp only [error_mem_api_iff hs h]
  constructor
  · exact fun hno id hid => clean_iff_forall_not_mem.2 fun code hmem => hno code ⟨id, hid, hmem⟩
  · rintro hall code ⟨id, hid, hmem⟩
    exact (hall id hid).not_mem code hmem

/-! ## Pipelines -/

theorem linePolicyApplied_eq (p : PipelineProfile) :
    p.linePolicyApplied = p.applyLinePolicy.getD (p.reference .policy).isSome := rfl

/-- Line policy and chunk profile are checked alike where the type of the chunk profile is the same. -/
theorem lineCoupling_congr {p q : PipelineProfile}
    (htype : (p.reference .chunk).bind c.index.chunkType? = (q.reference .chunk).bind d.index.chunkType?)
    (hpolicy : (p.reference .policy).isSome = (q.reference .policy).isSome)
    (happly : p.applyLinePolicy = q.applyLinePolicy) : lineCoupling c p = lineCoupling d q := by
  have happlied : p.linePolicyApplied = q.linePolicyApplied := by
    rw [linePolicyApplied_eq, linePolicyApplied_eq, happly, hpolicy]
  have hnone : (p.reference .policy).isNone = (q.reference .policy).isNone := by
    rw [← Option.not_isSome, hpolicy, Option.not_isSome]
  simp only [lineCoupling, htype, hpolicy, happlied, hnone, happly]

/-- The findings in the reference of a pipeline to a kind, if there is one. -/
def referenceFindings (c : Context) (p : PipelineProfile) (k : Kind) : Option (List Finding) :=
  (p.reference k).map (c.reference k)

/-- The findings in all references of a pipeline. -/
def allReferences (c : Context) (p : PipelineProfile) : List Finding :=
  (required.flatMap fun (k, missing) => (referenceFindings c p k).getD [.error missing])
    ++ (referenceFindings c p .policy).getD []

/-- The findings in the settings of a pipeline. -/
def settingsFindings : Option PipelineSettings → List Finding
  | some s =>
    errorIf (isBadCount s.batchSize) .invalidBatchSize
      ++ errorIf (isBadCount s.concurrency) .invalidConcurrency
  | none => []

theorem pipeline_eq (c : Context) (p : PipelineProfile) :
    pipeline c p = allReferences c p ++ lineCoupling c p ++ settingsFindings p.settings := by
  unfold pipeline allReferences referenceFindings settingsFindings
  congr 3
  · congr 1
    funext ⟨k, missing⟩
    dsimp only
    cases p.reference k <;> rfl
  · cases p.reference .policy <;> rfl

/-- Two pipelines have the same findings if their references do, and if the chunk profiles they refer to
have one type. -/
theorem pipeline_congr {p q : PipelineProfile}
    (href : ∀ k, referenceFindings c p k = referenceFindings d q k)
    (htype : (p.reference .chunk).bind c.index.chunkType? = (q.reference .chunk).bind d.index.chunkType?)
    (happly : p.applyLinePolicy = q.applyLinePolicy) (hsettings : p.settings = q.settings) :
    pipeline c p = pipeline d q := by
  have hpolicy : (p.reference .policy).isSome = (q.reference .policy).isSome := by
    have := congrArg Option.isSome (href .policy)
    simpa [referenceFindings] using this
  rw [pipeline_eq, pipeline_eq, lineCoupling_congr htype hpolicy happly, hsettings]
  simp only [allReferences, href]

/-- Line policy and chunk profile fit together if lines are aligned only where there is a line policy, and
the chunk profile is not known to slice into blocks. -/
theorem clean_lineCoupling_iff {p : PipelineProfile} :
    Clean (lineCoupling c p) ↔ (p.linePolicyApplied = true →
      (p.reference .policy).isSome = true ∧
        (p.reference .chunk).bind c.index.chunkType? ≠ some .block) := by
  unfold lineCoupling
  rw [clean_append, linePolicyApplied_eq]
  rcases (p.reference .chunk).bind c.index.chunkType? with _ | _ | _ <;>
    rcases p.applyLinePolicy with _ | _ | _ <;> cases p.reference .policy <;> simp

/-- A pipeline does not refer to pipelines, it may refer to a policy, and it has to refer to all else. -/
theorem required_or (k : Kind) : k = .pipeline ∨ k = .policy ∨ ∃ missing, (k, missing) ∈ required := by
  cases k <;> simp [required]

/-- A pipeline without errors refers to a profile of every required kind, and all that it refers to is in
order. -/
theorem clean_allReferences_iff {p : PipelineProfile} :
    Clean (allReferences c p) ↔
      (∀ e ∈ required, (p.reference e.1).isSome = true) ∧
        ∀ k id, p.reference k = some id → Clean (c.reference k id) := by
  simp only [allReferences, clean_append, clean_flatMap, referenceFindings]
  constructor
  · rintro ⟨hrequired, hpolicy⟩
    refine ⟨fun e he => ?_, fun k id hk => ?_⟩
    · cases hp : p.reference e.1 with
      | none => simpa [hp, Finding.error?] using hrequired e he
      | some id => rfl
    · rcases required_or k with rfl | rfl | ⟨missing, hmem⟩
      · cases hk
      · simpa [hk] using hpolicy
      · simpa [hk] using hrequired _ hmem
  · rintro ⟨hrequired, hreferences⟩
    refine ⟨fun e he => ?_, ?_⟩
    · obtain ⟨id, hid⟩ := Option.isSome_iff_exists.1 (hrequired e he)
      simpa [hid] using hreferences e.1 id hid
    · cases hp : p.reference .policy with
      | none => simp
      | some id => simpa [hp] using hreferences .policy id hp

/-- Lines cannot be aligned if the chunk profile slices into blocks. -/
theorem lineCoupling_of_block {p : PipelineProfile} (happlied : p.linePolicyApplied = true)
    (htype : (p.reference .chunk).bind c.index.chunkType? = some .block) :
    lineCoupling c p = [.error .linePolicyRequiresLineChunk] := by
  simp [lineCoupling, htype, happlied, errorIf, warningIf]

/-- A report has one error if all errors that were found are that one. -/
theorem errors_ofFindings_eq_singleton {fs : List Finding} {code : Code}
    (h : ∀ e, .error e ∈ fs ↔ e = code) : (Report.ofFindings fs).errors = [code] := by
  have hmem : ∀ e, e ∈ (Report.ofFindings fs).errors ↔ e = code := fun e => by
    rw [← h e, Report.ofFindings, Report.mem_firstOccurrences, List.mem_filterMap]
    constructor
    · rintro ⟨f, hf, he⟩
      cases f with
      | error e' => exact Option.some.inj he ▸ hf
      | _ => cases he
    · exact fun he => ⟨_, he, rfl⟩
  exact List.perm_singleton.1
    ((List.perm_ext_iff_of_nodup (Report.nodup_firstOccurrences _) (by simp)).2
      fun e => (hmem e).trans List.mem_singleton.symm)

/-- The error that is found between findings that are none. -/
theorem errors_ofFindings_append {fs gs : List Finding} {code : Code} (hfs : Clean fs) (hgs : Clean gs) :
    (Report.ofFindings (fs ++ .error code :: gs)).errors = [code] := by
  have hnone : ∀ {xs}, Clean xs → xs.filterMap Finding.error? = [] := fun h =>
    List.filterMap_eq_nil_iff.2 h
  simp [Report.ofFindings, List.filterMap_append, List.filterMap_cons, hnone hfs, hnone hgs, Finding.error?,
    Report.firstOccurrences]

end ProfileKit.Check

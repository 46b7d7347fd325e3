import ProfileKit.Proofs.Check.Alike
import ProfileKit.Proofs.Check.Api
import ProfileKit.Proofs.Profile.Numbers

/-!
# A number spoils only itself

What is reported of a profile does not change with one of its numbers, the codes aside that the number decides
(`NumberField.codes`). Findings are compared with these codes left out (`Check.elsewhere`), and findings that agree
then make reports that agree (`Check.agreesOff_ofFindings`).

`NumberField.ofMapping_put` puts this together with the reading of the profile: a mapping that is read as a
profile still is with any value in the place of a number, nothing else of the profile changes, and the report
changes in the codes of that number only.
-/

namespace ProfileKit

namespace Check

open Finding (errorIf warningIf)

variable {codes : List Code} {fs gs : List Finding} {b : Bool} {code : Code}

/-! ## Reports with some codes left out -/

/-- The reports agree, in order, in all codes but these. -/
structure Report.AgreesOff (codes : List Code) (r s : Report) : Prop where
  errors : r.errors.filter (· ∉ codes) = s.errors.filter (· ∉ codes)
  warnings : r.warnings.filter (· ∉ codes) = s.warnings.filter (· ∉ codes)
  skipped : r.skipped = s.skipped

/-- The finding has none of these codes. -/
def isOff (codes : List Code) : Finding → Bool
  | .error code => code ∉ codes
  | .warning code => code ∉ codes
  | .skipped _ => true

/-- The findings without those of some codes. -/
def elsewhere (codes : List Code) (fs : List Finding) : List Finding := fs.filter (isOff codes)

@[simp] theorem elsewhere_append : elsewhere codes (fs ++ gs) = elsewhere codes fs ++ elsewhere codes gs :=
  List.filter_append ..

theorem elsewhere_errorIf : elsewhere codes (errorIf b code) = if code ∈ codes then [] else errorIf b code := by
  cases b <;> by_cases h : code ∈ codes <;> simp [elsewhere, errorIf, isOff, h]

theorem elsewhere_warningIf :
    elsewhere codes (warningIf b code) = if code ∈ codes then [] else warningIf b code := by
  cases b <;> by_cases h : code ∈ codes <;> simp [elsewhere, warningIf, isOff, h]

theorem elsewhere_flatMap {α : Type} {xs : List α} {f : α → List Finding} :
    elsewhere codes (xs.flatMap f) = (xs.map fun x => elsewhere codes (f x)).flatten := by
  induction xs with
  | nil => rfl
  | cons x rest ih => rw [List.flatMap_cons, elsewhere_append, ih, List.map_cons, List.flatten_cons]

theorem filter_firstOccurrences {α : Type} [DecidableEq α] (p : α → Bool) (xs : List α) :
    (Report.firstOccurrences xs).filter p = Report.firstOccurrences (xs.filter p) := by
  induction xs with
  | nil => rfl
  | cons a rest ih =>
    rw [Report.firstOccurrences, List.filter_cons, List.filter_cons]
    split
    · rw [Report.firstOccurrences, ← ih, List.filter_comm]
    · rename_i ha
      rw [← ih, List.filter_filter]
      refine List.filter_congr fun x _ => ?_
      -- What passes the test is not `a`, which fails it.
      by_cases hx : x = a
      · simp [hx, ha]
      · simp [hx]

/-- Codes that are read off the findings, where findings are only left out for having one of the codes left out. -/
theorem filter_filterMap_elsewhere {read? : Finding → Option Code}
    (hread : ∀ f code, isOff codes f = false → read? f = some code → code ∈ codes) :
    ((elsewhere codes fs).filterMap read?).filter (· ∉ codes) = (fs.filterMap read?).filter (· ∉ codes) := by
  rw [elsewhere, List.filterMap_filter, List.filter_filterMap, List.filter_filterMap]
  refine List.filterMap_congr fun f _ => ?_
  cases hf : isOff codes f with
  | true => rfl
  | false =>
    cases hcode : read? f with
    | none => simp
    | some code => simp [Option.filter, hread f code hf hcode]

/-- Findings that agree off some codes make reports that do. -/
theorem agreesOff_ofFindings (h : elsewhere codes fs = elsewhere codes gs) :
    (Report.ofFindings fs).AgreesOff codes (.ofFindings gs) := by
  have hcodes : ∀ read? : Finding → Option Code,
      (∀ f code, isOff codes f = false → read? f = some code → code ∈ codes) →
      (Report.firstOccurrences (fs.filterMap read?)).filter (· ∉ codes) =
        (Report.firstOccurrences (gs.filterMap read?)).filter (· ∉ codes) := fun read? hread => by
    rw [filter_firstOccurrences, filter_firstOccurrences, ← filter_filterMap_elsewhere hread, h,
      filter_filterMap_elsewhere hread]
  have hskipped : ∀ xs : List Finding, (elsewhere codes xs).filterMap Finding.skipped? =
      xs.filterMap Finding.skipped? := fun xs => by
    rw [elsewhere, List.filterMap_filter]
    refine List.filterMap_congr fun f _ => ?_
    cases f <;> simp [isOff, Finding.skipped?]
  refine ⟨hcodes _ fun f code hf hcode => ?_, hcodes _ fun f code hf hcode => ?_, ?_⟩
  · cases f <;> simp_all [isOff, Finding.error?]
  · cases f <;> simp_all [isOff, Finding.warning?]
  · simp only [Report.ofFindings, ← hskipped fs, h, hskipped gs]

/-! ## Parts of a profile -/

theorem elsewhere_map {α : Type} {find : Option α → List Finding} {g : α → α}
    (h : ∀ a, elsewhere codes (find (some (g a))) = elsewhere codes (find (some a))) (o : Option α) :
    elsewhere codes (find (o.map g)) = elsewhere codes (find o) := by
  cases o with
  | none => rfl
  | some a => exact h a

/-- What is the same of every item, changed or not, is the same of the list with one item changed. -/
theorem map_modify_eq {α β : Type} {f : α → β} {g : α → α} (h : ∀ a, f (g a) = f a) (xs : List α) (i : Nat) :
    (xs.modify i g).map f = xs.map f := by
  induction xs generalizing i with
  | nil => simp
  | cons x rest ih => cases i <;> simp [h, ih]

/-- Pools are found the same where their endpoints are, one by one. -/
theorem elsewhere_pool_congr {c : Context} {p q : ApiProfile} (hmembers : p.members = q.members)
    (hcomplete : (p.endpoints.getD []).map ApiEndpoint.isComplete =
      (q.endpoints.getD []).map ApiEndpoint.isComplete)
    (hfind : (p.endpoints.getD []).map (fun e => elsewhere codes (endpoint e)) =
      (q.endpoints.getD []).map fun e => elsewhere codes (endpoint e)) :
    elsewhere codes (pool c p) = elsewhere codes (pool c q) := by
  have hempty : (p.endpoints.getD []).isEmpty = (q.endpoints.getD []).isEmpty := by
    simpa using congrArg List.isEmpty hcomplete
  have hany : (p.endpoints.getD []).any ApiEndpoint.isComplete =
      (q.endpoints.getD []).any ApiEndpoint.isComplete := by
    simpa [List.any_map] using congrArg (List.any · id) hcomplete
  simp only [pool, hmembers, hempty, hany, elsewhere_append]
  split
  · rfl
  · simp only [elsewhere_append, elsewhere_flatMap, hfind]

theorem elsewhere_pool_weight (c : Context) (p : ApiProfile) (i : Nat) (w : Option (Lenient Nat)) :
    elsewhere [.invalidPoolEndpoint]
        (pool c { p with endpoints := p.endpoints.map (List.modify · i fun e => { e with weight := w }) }) =
      elsewhere [.invalidPoolEndpoint] (pool c p) := by
  have hgetD : (p.endpoints.map (List.modify · i fun e => { e with weight := w })).getD [] =
      (p.endpoints.getD []).modify i fun e => { e with weight := w } := by
    cases p.endpoints <;> simp
  refine elsewhere_pool_congr rfl ?_ ?_
  · rw [hgetD]
    refine map_modify_eq (fun e => ?_) _ _
    rfl
  · rw [hgetD]
    refine map_modify_eq (fun e => ?_) _ _
    simp [endpoint, elsewhere_errorIf]

theorem elsewhere_typeFindings_weight (c : Context) (p : ApiProfile) (i : Nat) (w : Option (Lenient Nat)) :
    elsewhere [.invalidPoolEndpoint]
        (typeFindings c
          { p with endpoints := p.endpoints.map (List.modify · i fun e => { e with weight := w }) }) =
      elsewhere [.invalidPoolEndpoint] (typeFindings c p) := by
  unfold typeFindings
  dsimp only
  split
  · rfl
  · split
    · rfl
    · exact elsewhere_pool_weight c p i w
    · rfl

/-! A change in a mapping inside a profile shows in the findings of that mapping only. -/

section Inside

variable {c : Context}

theorem elsewhere_inSettings {g : PipelineSettings → PipelineSettings} {p : PipelineProfile}
    (h : ∀ s, elsewhere codes (settingsFindings (some (g s))) = elsewhere codes (settingsFindings (some s))) :
    elsewhere codes (findings c (.pipeline (NumberField.inSettings g p))) =
      elsewhere codes (findings c (.pipeline p)) := by
  simp only [findings, pipeline_eq, elsewhere_append, NumberField.inSettings, elsewhere_map h]
  rfl

theorem elsewhere_inContext {g : PromptContext → PromptContext} {p : PromptProfile}
    (h : ∀ x, elsewhere codes (contextFindings (some (g x))) = elsewhere codes (contextFindings (some x))) :
    elsewhere codes (findings c (.prompt (NumberField.inContext g p))) =
      elsewhere codes (findings c (.prompt p)) := by
  simp only [findings, prompt_eq, elsewhere_append, NumberField.inContext, elsewhere_map h]
  rfl

theorem elsewhere_inPolicyOptions {g : PolicyOptions → PolicyOptions} {p : PolicyProfile}
    (h : ∀ o, elsewhere codes (policyOptionFindings (some (g o))) =
      elsewhere codes (policyOptionFindings (some o))) :
    elsewhere codes (findings c (.policy (NumberField.inPolicyOptions g p))) =
      elsewhere codes (findings c (.policy p)) := by
  simp only [findings, policy_eq, elsewhere_append, NumberField.inPolicyOptions, elsewhere_map h]
  rfl

theorem elsewhere_inChunkOptions {g : ChunkOptions → ChunkOptions} {p : ChunkProfile}
    (h : ∀ o, elsewhere codes (chunkOptionFindings p.type? (some (g o))) =
      elsewhere codes (chunkOptionFindings p.type? (some o))) :
    elsewhere codes (findings c (.chunk (NumberField.inChunkOptions g p))) =
      elsewhere codes (findings c (.chunk p)) := by
  simp only [findings, chunk_eq, elsewhere_append]
  congr 2
  exact elsewhere_map h p.options

end Inside

end Check

/-- A chunk profile that slices the source into lines. -/
def Profile.slicesLines : Profile → Bool
  | .chunk p => p.type? = some .line
  | _ => false

namespace NumberField

open Check

/-- The codes that depend on the number. The kana numbers of a line chunk profile have no meaning, and one code
tells of them all. -/
def codes : NumberField → Profile → List Code
  | timeout, _ => [.invalidTimeout]
  | concurrency, _ | pipelineConcurrency, _ => [.invalidConcurrency]
  | rpm, _ => [.invalidRpm]
  | maxRetries, _ => [.invalidMaxRetries]
  | weight _, _ => [.invalidPoolEndpoint]
  | batchSize, _ => [.invalidBatchSize]
  | beforeLines, _ => [.invalidContextBeforeLines]
  | afterLines, _ => [.invalidContextAfterLines]
  | sourceLines, _ => [.invalidContextSourceLines]
  | similarityThreshold, _ => [.invalidSimilarityThreshold]
  | targetChars, _ => [.invalidTargetChars, .maxCharsBelowTarget]
  | maxChars, _ => [.invalidMaxChars, .maxCharsBelowTarget]
  | balanceThreshold, _ => [.invalidBalanceThreshold]
  | balanceCount, _ => [.invalidBalanceCount]
  | kanaRetryThreshold, p => if p.slicesLines then [.kanaRetryIgnoredForLineChunk] else [.invalidRetryThreshold]
  | kanaRetryMinChars, p => if p.slicesLines then [.kanaRetryIgnoredForLineChunk] else [.invalidRetryMinChars]

/-- What is found in a profile besides the codes of a number does not depend on the number. -/
theorem elsewhere_findings_set (f : NumberField) (v : Json) (c : Context) (p : Profile) :
    elsewhere (f.codes p) (findings c (f.set v p)) = elsewhere (f.codes p) (findings c p) := by
  cases p with
  | parser p => cases f <;> rfl
  | api p =>
    cases f with
    | timeout | concurrency | rpm | maxRetries =>
      simp only [codes, set, findings, api_eq, elsewhere_append, elsewhere_errorIf, List.mem_singleton, if_true]
      rfl
    | weight i =>
      simp only [codes, set, findings, api_eq, elsewhere_append, elsewhere_typeFindings_weight]
      rfl
    | _ => rfl
  | pipeline p =>
    cases f with
    | batchSize | pipelineConcurrency =>
      exact elsewhere_inSettings fun s => by simp [codes, settingsFindings, elsewhere_errorIf]
    | _ => rfl
  | prompt p =>
    cases f with
    | beforeLines | afterLines | sourceLines =>
      exact elsewhere_inContext fun x => by
        simp [codes, contextFindings, elsewhere_errorIf, PromptContext.sourceFormat?]
    | _ => rfl
  | policy p =>
    cases f with
    | similarityThreshold =>
      exact elsewhere_inPolicyOptions fun o => by
        simp [codes, policyOptionFindings, elsewhere_errorIf, PolicyOptions.onMismatch?]
    | _ => rfl
  | chunk p =>
    cases f with
    | targetChars | maxChars | balanceThreshold | balanceCount =>
      exact elsewhere_inChunkOptions fun o => by
        simp [codes, chunkOptionFindings, elsewhere_errorIf, maxBelowTarget, ChunkOptions.hasKanaRetry]
    | kanaRetryThreshold | kanaRetryMinChars =>
      -- Both numbers are checked in a block profile; in a line profile they only show in one warning.
      refine elsewhere_inChunkOptions fun o => ?_
      by_cases hline : p.type? = some .line <;>
        simp [codes, Profile.slicesLines, hline, chunkOptionFindings, elsewhere_errorIf, elsewhere_warningIf,
          maxBelowTarget]
    | _ => rfl

/-- A value in the place of a number spoils that number only: the profile is read as before in all else, and the
report agrees with the one before in all codes but those of the number. -/
theorem ofMapping_put (f : NumberField) (v : Json) {m m' : Mapping} {p : Profile}
    (hm : Profile.ofMapping f.kind m = .ok p) (hput : f.place.put v m = some m') :
    Profile.ofMapping f.kind m' = .ok (f.set v p) ∧
      ∀ c : Context, (c.check (f.set v p)).AgreesOff (f.codes p) (c.check p) := by
  rw [Profile.ofMapping_eq_ok_iff] at hm ⊢
  exact ⟨read?_put hm hput, fun c => agreesOff_ofFindings (elsewhere_findings_set f v c p)⟩

/-- A pool of two endpoints, of which the second one has a weight. -/
def weighedPool : Mapping :=
  [("endpoints", .array [.object [("base_url", .string "http://a"), ("model", .string "m")],
      .object [("base_url", .string "http://b"), ("model", .string "m"), ("weight", .number (.natural 2))]]),
    ("id", .string "p"), ("name", .string "P"), ("type", .string "pool")]

/-- A text for the weight is an error of the pool, and nothing else changes. -/
theorem ofMapping_put_weight :
    ∃ p m', Profile.ofMapping .api weighedPool = .ok p ∧
      (weight 1).place.put (.string "heavy") weighedPool = some m' ∧
      Profile.ofMapping .api m' = .ok ((weight 1).set (.string "heavy") p) ∧
      ∀ c : Context,
        (c.check ((weight 1).set (.string "heavy") p)).AgreesOff [.invalidPoolEndpoint] (c.check p) := by
  have hm : Profile.ofMapping .api weighedPool = .ok _ := rfl
  have hput : (weight 1).place.put (.string "heavy") weighedPool = some _ := rfl
  exact ⟨_, _, hm, hput, ofMapping_put (weight 1) (.string "heavy") hm hput⟩

end NumberField
end ProfileKit

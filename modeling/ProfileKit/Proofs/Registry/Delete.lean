import ProfileKit.Proofs.Registry.Reachable

/-!
# Deleting and checks

A delete repairs the pipelines that refer to the profile by the first other one of its kind. What is known
about all other profiles stays, so a pipeline without errors is left without errors, unless the profile
that takes the place of a chunk profile slices into blocks while the pipeline aligns lines: the first
other id is taken whatever it stands for (`delete_check`). Where no policy is left, alignment is turned off
with the reference.
-/

namespace ProfileKit.Registry

open Check MemoryStore Repair

variable {s s' : MemoryStore} {strict : Bool} {k j : Kind} {id i text : String}

/-- The store after a delete. -/
def deleted (k : Kind) (id : String) (s : MemoryStore) : MemoryStore :=
  repaired k id (firstOther? k id s) (Table.erase ⟨k, id⟩ s)

/-! ## What is stored and known -/

theorem contains_deleted (key : Key) :
    (deleted k id s).contains key = (decide (key ≠ ⟨k, id⟩) && s.contains key) := by
  rw [deleted, contains_repaired, Table.contains_erase]
  simp only [ne_eq, decide_not, eq_comm]

/-- A profile that is not a pipeline and is not deleted stays as it is. -/
theorem get?_deleted (hj : j ≠ .pipeline) (hne : ¬ (j = k ∧ i = id)) :
    (deleted k id s).get? ⟨j, i⟩ = s.get? ⟨j, i⟩ := by
  rw [deleted, get?_repaired, if_neg hj, Table.get?_erase, if_neg (Key.mk_ne hne).symm]

theorem get?_deleted_pipeline (hk : k ≠ .pipeline) :
    (deleted k id s).get? ⟨.pipeline, i⟩ =
      (s.get? ⟨.pipeline, i⟩).map (repairedText k id (firstOther? k id s)) := by
  rw [deleted, get?_repaired, if_pos rfl, Table.get?_erase, if_neg fun e => hk (congrArg Key.kind e)]

/-- A reference to another profile is in order if it was before. -/
theorem clean_reference_deleted (h : s.Consistent) (h' : (deleted k id s).Consistent)
    (hstored : s.contains ⟨k, id⟩ = true) (hne : ¬ (j = k ∧ i = id))
    (hclean : Clean ((s.context strict).reference j i)) :
    Clean (((deleted k id s).context strict).reference j i) := by
  have hsame : ∀ i', ¬ (j = k ∧ i' = id) →
      (deleted k id s).index.contains j i' = s.index.contains j i' := fun i' hi' => by
    rw [h.contains_index, h'.contains_index, contains_deleted]
    simp [Key.mk_ne hi']
  rw [clean_reference] at hclean ⊢
  simp only [MemoryStore.context] at hclean ⊢
  rw [hsame i hne]
  rcases hclean with hempty | hknown
  · -- nothing is known about the kind, so it is not the one of the profile that was stored
    have hj : j ≠ k := by
      rintro rfl
      have hknown : s.index.contains j id = true := by rw [h.contains_index, hstored]
      rw [ReferenceIndex.isEmptyFor_of_contains hknown] at hempty
      cases hempty
    exact .inl (ReferenceIndex.isEmptyFor_congr (fun i' => hsame i' fun e => hj e.1) ▸ hempty)
  · exact .inr hknown

theorem clean_reference_firstOther (h : s.Consistent) (h' : (deleted k id s).Consistent) {first : String}
    (hfirst : firstOther? k id s = some first) :
    Clean (((deleted k id s).context strict).reference k first) := by
  obtain ⟨hstored, hne, -⟩ := h.firstOther?_eq_some_iff.1 hfirst
  refine clean_reference.2 (.inr ?_)
  rw [MemoryStore.context, h'.contains_index, contains_deleted, hstored]
  simp [hne]

theorem chunkType?_deleted (h : s.Consistent) (h' : (deleted k id s).Consistent)
    (hne : ¬ (.chunk = k ∧ i = id)) :
    (deleted k id s).index.chunkType? i = s.index.chunkType? i := by
  rw [h.chunkType?_index, h'.chunkType?_index, get?_deleted (by decide) hne]

/-! ## Pipelines -/

/-- What becomes of a pipeline in a delete. -/
theorem deleted_pipeline (h : s.Consistent) (hy : (Call.delete k id).ReadsBack s) (hk : k ≠ .pipeline)
    (hg : s.get? ⟨.pipeline, i⟩ = some text) :
    ∃ p p' text', Profile.parse .pipeline text = .ok (.pipeline p) ∧
      (deleted k id s).get? ⟨.pipeline, i⟩ = some text' ∧
      Profile.parse .pipeline text' = .ok (.pipeline p') ∧
      ((p.reference k ≠ some id ∧ p' = p) ∨
        (p.reference k = some id ∧ Repointed k (firstOther? k id s) p p')) := by
  obtain ⟨p, hp, -⟩ := h.pipeline hg
  have hget : (deleted k id s).get? ⟨.pipeline, i⟩ =
      some (repairedText k id (firstOther? k id s) text) := by
    rw [get?_deleted_pipeline hk, hg, Option.map_some]
  by_cases href : p.reference k = some id
  · exact ⟨p, _, _, hp, hget, parse_repairedText hk ⟨hp, href⟩ (hy i text p hg ⟨hp, href⟩),
      .inr ⟨href, repointed_repoint hk p⟩⟩
  · rw [repairedText_of_not_refers (not_refers_of_reference_ne hp href)] at hget
    exact ⟨p, p, text, hp, hget, hp, .inl ⟨href, rfl⟩⟩

/-- The pipeline of a text aligns lines by a chunk profile, and the first other chunk profile slices into
blocks. -/
def LosesLines (k : Kind) (id text : String) (s : MemoryStore) : Prop :=
  k = .chunk ∧ ∃ p first, Profile.parse .pipeline text = .ok (.pipeline p) ∧
    p.reference .chunk = some id ∧ p.linePolicyApplied = true ∧
    firstOther? .chunk id s = some first ∧ (s.get? ⟨.chunk, first⟩).bind chunkTypeOf? = some .block

section

variable {p q : PipelineProfile} (h : s.Consistent) (h' : (deleted k id s).Consistent)
include h h'

/-! A pipeline that does not refer to the profile -/

theorem clean_allReferences_deleted (hstored : s.contains ⟨k, id⟩ = true) (hno : p.reference k ≠ some id)
    (hclean : Clean (allReferences (s.context strict) p)) :
    Clean (allReferences ((deleted k id s).context strict) p) := by
  rw [clean_allReferences_iff] at hclean ⊢
  refine ⟨hclean.1, fun j i hj => clean_reference_deleted h h' hstored ?_ (hclean.2 j i hj)⟩
  rintro ⟨rfl, rfl⟩
  exact hno hj

theorem chunkType_deleted (hno : ¬ (.chunk = k ∧ p.reference .chunk = some id)) :
    (p.reference .chunk).bind ((deleted k id s).context strict).index.chunkType? =
      (p.reference .chunk).bind (s.context strict).index.chunkType? := by
  cases hp : p.reference .chunk with
  | none => rfl
  | some i => exact chunkType?_deleted h h' fun e => hno ⟨e.1, hp.trans (congrArg some e.2)⟩

/-! A pipeline that refers to it, and is repaired -/

theorem clean_allReferences_repointed (hstored : s.contains ⟨k, id⟩ = true)
    (hother : k = .policy ∨ ∃ first, firstOther? k id s = some first)
    (hq : Repointed k (firstOther? k id s) p q) (hclean : Clean (allReferences (s.context strict) p)) :
    Clean (allReferences ((deleted k id s).context strict) q) := by
  have hfirst : ∀ first, firstOther? k id s = some first → q.reference k = some first := fun first hf =>
    hq.reference_eq_some hf (h.isValid_firstOther? hf)
  rw [clean_allReferences_iff] at hclean ⊢
  refine ⟨fun e he => ?_, fun j i hj => ?_⟩
  · by_cases hek : e.1 = k
    · rcases hother with rfl | ⟨first, hf⟩
      · -- a policy is not required
        have hno : ∀ e ∈ required, e.1 ≠ .policy := by decide
        exact absurd hek (hno e he)
      · rw [hek, hfirst first hf]
        rfl
    · rw [hq.reference_of_ne hek]
      exact hclean.1 e he
  · by_cases hjk : j = k
    · subst hjk
      cases hf : firstOther? j id s with
      | none =>
        rw [hq.reference, hf] at hj
        cases hj
      | some first =>
        obtain rfl : first = i := Option.some.inj ((hfirst first hf).symm.trans hj)
        exact clean_reference_firstOther h h' hf
    · rw [hq.reference_of_ne hjk] at hj
      exact clean_reference_deleted h h' hstored (fun e => hjk e.1) (hclean.2 j i hj)

omit h' in
/-- A repair does not ask for lines to be aligned, nor does it take the line policy away where they still
are. -/
theorem linePolicyApplied_repointed (hq : Repointed k (firstOther? k id s) p q)
    (href : p.reference k = some id) (happlied : q.linePolicyApplied = true) :
    p.linePolicyApplied = true ∧ (q.reference .policy).isSome = (p.reference .policy).isSome := by
  rw [linePolicyApplied_eq, hq.applyLinePolicy] at happlied
  rw [linePolicyApplied_eq]
  by_cases hk : k = .policy
  · subst hk
    cases hf : firstOther? .policy id s with
    | none => simp [hf] at happlied
    | some first =>
      have hsome : (q.reference .policy).isSome = (p.reference .policy).isSome := by
        rw [hq.reference_eq_some hf (h.isValid_firstOther? hf), href]
        rfl
      rw [if_neg (by simp [hf]), hsome] at happlied
      exact ⟨happlied, hsome⟩
  · rw [if_neg fun e => hk e.1, hq.reference_of_ne (Ne.symm hk)] at happlied
    exact ⟨happlied, by rw [hq.reference_of_ne (Ne.symm hk)]⟩

/-- The type of the chunk profile that a repaired pipeline refers to. -/
theorem chunkType_repointed {first : String} (hk : k = .chunk) (hf : firstOther? k id s = some first)
    (hq : Repointed k (firstOther? k id s) p q) :
    (q.reference .chunk).bind ((deleted k id s).context strict).index.chunkType? =
      (s.get? ⟨.chunk, first⟩).bind chunkTypeOf? := by
  subst hk
  have hne : ¬ (.chunk = Kind.chunk ∧ first = id) := fun e => (h.firstOther?_eq_some_iff.1 hf).2.1 e.2
  rw [hq.reference_eq_some hf (h.isValid_firstOther? hf), Option.bind_some]
  exact (chunkType?_deleted h h' hne).trans (h.chunkType?_index first)

theorem clean_lineCoupling_repointed (hother : k = .policy ∨ ∃ first, firstOther? k id s = some first)
    (hq : Repointed k (firstOther? k id s) p q) (href : p.reference k = some id)
    (hparse : Profile.parse .pipeline text = .ok (.pipeline p)) (hno : ¬ LosesLines k id text s)
    (hclean : Clean (lineCoupling (s.context strict) p)) :
    Clean (lineCoupling ((deleted k id s).context strict) q) := by
  rw [clean_lineCoupling_iff] at hclean ⊢
  intro happlied
  obtain ⟨hp, hpolicy⟩ := linePolicyApplied_repointed h hq href happlied
  obtain ⟨hsome, htype⟩ := hclean hp
  refine ⟨hpolicy ▸ hsome, ?_⟩
  by_cases hk : k = .chunk
  · subst hk
    obtain ⟨first, hf⟩ := hother.resolve_left (by decide)
    rw [chunkType_repointed h h' rfl hf hq]
    exact fun hblock => hno ⟨rfl, p, first, hparse, href, hp, hf, hblock⟩
  · rw [hq.reference_of_ne (Ne.symm hk), chunkType_deleted h h' fun e => hk e.1.symm]
    exact htype

/-- Where the first other chunk profile slices into blocks, the alignment of lines is found to be wrong. -/
theorem lineCoupling_repointed_of_losesLines (hq : Repointed k (firstOther? k id s) p q)
    (hparse : Profile.parse .pipeline text = .ok (.pipeline p)) (hloses : LosesLines k id text s) :
    lineCoupling ((deleted k id s).context strict) q = [.error .linePolicyRequiresLineChunk] := by
  obtain ⟨rfl, p₁, first, hp₁, -, happlied, hf, hblock⟩ := hloses
  obtain rfl := parse_pipeline_inj hparse hp₁
  refine lineCoupling_of_block ?_ ((chunkType_repointed h h' rfl hf hq).trans hblock)
  rw [linePolicyApplied_eq] at happlied
  rw [linePolicyApplied_eq, hq.applyLinePolicy, if_neg (by simp), hq.reference_of_ne (by decide), happlied]

end

/-! ## Checks -/

/-- Where a profile is deleted that is a policy or that another one takes the place of, the pipelines without
errors stay without errors, but for those that lose the slicing into lines: these get the one error that
says so. -/
theorem delete_check (h : Reachable strict Call.ReadsBack s) (hy : (Call.delete k id).ReadsBack s)
    {report : RepairReport} (hdelete : ((registry strict).delete k id).eval s = (.ok report, s'))
    (hk : k = .policy ∨ (k ≠ .pipeline ∧ ∃ other, other ≠ id ∧ s.contains ⟨k, other⟩ = true))
    (hg : s.get? ⟨.pipeline, i⟩ = some text) {found : Report}
    (hcheck : ((registry strict).check .pipeline text).eval s = (.ok found, s))
    (hclean : found.isOk = true) :
    ∃ text' found', s'.get? ⟨.pipeline, i⟩ = some text' ∧
      ((registry strict).check .pipeline text').eval s' = (.ok found', s') ∧
      (¬ LosesLines k id text s → found'.isOk = true) ∧
      (LosesLines k id text s → found'.errors = [.linePolicyRequiresLineChunk]) := by
  have hs := h.consistent
  obtain ⟨hstored, hs'⟩ := delete_ok hs.toWellFormed hdelete
  rw [firstOther?_erase] at hs'
  obtain rfl : s' = deleted k id s := hs'
  have hs' : (deleted k id s).Consistent := consistent_deleted hs hy
  have hpipeline : k ≠ .pipeline := by
    rcases hk with rfl | ⟨hk, -⟩
    · decide
    · exact hk
  have hother : k = .policy ∨ ∃ first, firstOther? k id s = some first := by
    refine hk.imp_right fun ⟨_, other, hne, hc⟩ => Option.ne_none_iff_exists'.1 fun hnone => ?_
    exact hne (firstOther?_eq_none_iff.1 hnone other hc)
  obtain ⟨p, p', text', hp, hg', hp', hcase⟩ := deleted_pipeline hs hy hpipeline hg
  rw [eval_check_pipeline hs.toWellFormed hp] at hcheck
  obtain rfl := Except.ok.inj (Prod.mk.inj hcheck).1
  simp only [isOk_ofFindings, pipeline_eq, clean_append] at hclean
  obtain ⟨hidentity, ⟨hreferences, hlines⟩, hsettings⟩ := hclean
  refine ⟨text', _, hg', eval_check_pipeline hs'.toWellFormed hp', ?_⟩
  simp only [isOk_ofFindings, pipeline_eq, clean_append]
  rcases hcase with ⟨hno, rfl⟩ | ⟨href, hq⟩
  · have hkept : ¬ LosesLines k id text s := by
      rintro ⟨rfl, p₁, -, hp₁, href, -⟩
      exact hno (parse_pipeline_inj hp hp₁ ▸ href)
    refine ⟨fun _ => ⟨hidentity, ⟨clean_allReferences_deleted hs hs' hstored hno hreferences, ?_⟩, hsettings⟩,
      fun hloses => absurd hloses hkept⟩
    have hchunk : ¬ (.chunk = k ∧ p'.reference .chunk = some id) := by
      rintro ⟨rfl, href⟩
      exact hno href
    rwa [lineCoupling_congr (chunkType_deleted hs hs' hchunk) rfl rfl]
  · have hreferences' := clean_allReferences_repointed hs hs' hstored hother hq hreferences
    rw [hq.id, hq.name, hq.settings]
    refine ⟨fun hkept => ?_, fun hloses => ?_⟩
    · exact ⟨hidentity, ⟨hreferences',
        clean_lineCoupling_repointed hs hs' hother hq href hp hkept hlines⟩, hsettings⟩
    · rw [lineCoupling_repointed_of_losesLines hs hs' hq hp hloses, List.append_assoc, ← List.append_assoc]
      exact errors_ofFindings_append (clean_append.2 ⟨hidentity, hreferences'⟩) hsettings

/-- A pipeline that aligns lines by the only policy. -/
def policyPipeline : String :=
  "id: p\nprovider: a\nprompt: b\nparser: d\nchunk_policy: c\nline_policy: e\n"

def strictPolicy : String := "id: e\ntype: strict\n"

def onlyPolicy : MemoryStore := [(⟨.pipeline, "p"⟩, policyPipeline), (⟨.policy, "e"⟩, strictPolicy)]

theorem reachable_onlyPolicy : Reachable false Call.ReadsBack onlyPolicy := by
  have hsaved : saveAll false [] [(.policy, strictPolicy), (.pipeline, policyPipeline)] = onlyPolicy := by
    decide +kernel
  exact hsaved ▸ Reachable.empty.saveAll _

theorem delete_check_onlyPolicy :
    ∃ s', ((registry false).delete .policy "e").eval onlyPolicy = (.ok ⟨1, true⟩, s') ∧
      ∃ text' found', s'.get? ⟨.pipeline, "p"⟩ = some text' ∧
        ((registry false).check .pipeline text').eval s' = (.ok found', s') ∧ found'.isOk = true := by
  have hdelete : ((registry false).delete .policy "e").eval onlyPolicy =
      (.ok ⟨1, true⟩, Call.after false onlyPolicy (.delete .policy "e")) :=
    Prod.ext (by decide +kernel) rfl
  have hy : (Call.delete .policy "e").ReadsBack onlyPolicy := Call.readsBack_delete (by decide +kernel)
  have hcheck : ((registry false).check .pipeline policyPipeline).eval onlyPolicy =
      (.ok ⟨[], [.missingName, .referenceCheckSkipped .api, .referenceCheckSkipped .prompt,
        .referenceCheckSkipped .parser, .referenceCheckSkipped .chunk], ⟨[.api, .prompt, .parser, .chunk]⟩⟩, onlyPolicy) := by
    decide +kernel
  have hg : onlyPolicy.get? ⟨.pipeline, "p"⟩ = some policyPipeline := rfl
  obtain ⟨text', found', hg', hcheck', hok, -⟩ :=
    delete_check reachable_onlyPolicy hy hdelete (.inl rfl) hg hcheck rfl
  exact ⟨_, hdelete, text', found', hg', hcheck', hok fun hloses => nomatch hloses.1⟩

/-- A pipeline that aligns the lines it is sliced into, with a chunk profile of blocks beside. -/
def linesPipeline : String :=
  "id: p\nprovider: a\nprompt: b\nparser: d\nchunk_policy: l\nline_policy: e\n"

/-- What a delete makes of it. -/
def blocksPipeline : String :=
  "chunk_policy: b\nid: p\nline_policy: e\nparser: d\nprompt: b\nprovider: a\n"

def blocksChunk : String := "id: b\ntype: block\n"

def linesChunk : String := "id: l\ntype: line\n"

def blocksAndLines : MemoryStore :=
  [(⟨.pipeline, "p"⟩, linesPipeline), (⟨.chunk, "b"⟩, blocksChunk), (⟨.chunk, "l"⟩, linesChunk)]

theorem reachable_blocksAndLines : Reachable false Call.ReadsBack blocksAndLines := by
  have hsaved : saveAll false []
      [(.chunk, blocksChunk), (.chunk, linesChunk), (.pipeline, linesPipeline)] = blocksAndLines := by
    decide +kernel
  exact hsaved ▸ Reachable.empty.saveAll _

/-- The first other chunk profile is taken though it slices into blocks, and the pipeline has an error that
it did not have. -/
theorem delete_linesChunk :
    Reachable false Call.ReadsBack blocksAndLines ∧
      (((registry false).check .pipeline linesPipeline).eval blocksAndLines).1.toOption.map Report.errors =
        some [] ∧
      ((registry false).delete .chunk "l").eval blocksAndLines =
        (.ok ⟨1, false⟩, [(⟨.pipeline, "p"⟩, blocksPipeline), (⟨.chunk, "b"⟩, blocksChunk)]) ∧
      (((registry false).check .pipeline blocksPipeline).eval
          [(⟨.pipeline, "p"⟩, blocksPipeline), (⟨.chunk, "b"⟩, blocksChunk)]).1.toOption.map
        Report.errors = some [.linePolicyRequiresLineChunk] :=
  ⟨reachable_blocksAndLines, by decide +kernel, by decide +kernel, by decide +kernel⟩

end ProfileKit.Registry

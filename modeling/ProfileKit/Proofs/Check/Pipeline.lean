import ProfileKit.Proofs.Check.Findings
import ProfileKit.Proofs.Id

/-!
# Which pipelines are accepted

What makes a pipeline acceptable is said by `Acceptable`, without the check: a valid id, a reference to a profile
of every kind that is needed, no reference to a profile that is not there, and a line policy that goes with the
chunk profile. The check finds no error in a pipeline if and only if it is acceptable
(`Check.clean_pipeline_iff`). Every reference that it could not look up is told of, and that is all that is ever
skipped (`Check.skipped_mem_pipeline_iff`). Both are put together, as they show in a report, by
`Check.pipeline_accepted_iff`.
-/

namespace ProfileKit

variable {k : Kind} {id : String}

/-! ## Specification -/

namespace PipelineProfile

variable {p : PipelineProfile}

/-- The field for a kind is this id, which is not empty, with any blanks around it. -/
def RefersTo (p : PipelineProfile) (k : Kind) (id : String) : Prop :=
  ∃ text, p.slot k = some text ∧ Text.trim text = id ∧ id ≠ ""

theorem refersTo_iff : p.RefersTo k id ↔ p.reference k = some id := by
  simp only [RefersTo, reference, Option.bind_eq_some_iff, Text.nonBlank?_eq_some_iff]

theorem exists_refersTo_iff : (∃ id, p.RefersTo k id) ↔ (p.reference k).isSome = true := by
  simp only [refersTo_iff, Option.isSome_iff_exists]

/-- Lines are aligned: the flag decides where it is set, or else whether there is a line policy. -/
def AlignsLines (p : PipelineProfile) : Prop :=
  p.applyLinePolicy = some true ∨ (p.applyLinePolicy = none ∧ ∃ id, p.RefersTo .policy id)

theorem alignsLines_iff : p.AlignsLines ↔ p.linePolicyApplied = true := by
  rw [AlignsLines, exists_refersTo_iff, Check.linePolicyApplied_eq]
  cases p.applyLinePolicy <;> simp

/-- The line policy goes with the type of the chunk profile, if the type is known. If it is not, lines are not
to be aligned on demand without a line policy. -/
def LinesFit (p : PipelineProfile) : Option ChunkType → Prop
  | some .block => ¬ p.AlignsLines
  | some .line => p.AlignsLines → ∃ id, p.RefersTo .policy id
  | none => p.applyLinePolicy = some true → ∃ id, p.RefersTo .policy id

end PipelineProfile

/-- A number is left out, or it is a natural one. -/
def IsCount (n : Option (Lenient Nat)) : Prop := ∀ v, n = some v → ∃ m, v = .valid m

/-- In a mapping, what is left out may also be null; no other value is a count. -/
theorem isCount_read {v : Option Json} :
    IsCount (Field.count.read v) ↔ v = none ∨ v = some .null ∨ ∃ m, v = some (.number (.natural m)) := by
  rcases v with _ | _ | _ | (_ | _ | _) | _ | _ | _ <;>
    simp [IsCount, Field.count, Field.present, Field.readCount]

/-- A pipeline that can be run with the profiles in an index, as far as they are known. -/
structure Acceptable (x : ReferenceIndex) (p : PipelineProfile) : Prop where
  id : ∃ id, p.id = some id ∧ Id.isValid (Text.trim id) = true
  refers : ∀ k, k = .api ∨ k = .prompt ∨ k = .parser ∨ k = .chunk → ∃ id, p.RefersTo k id
  known : ∀ k id, p.RefersTo k id → x.contains k id = true ∨ ∀ other, x.contains k other = false
  lines : ∀ id, p.RefersTo .chunk id → p.LinesFit (x.chunkType? id)
  settings : ∀ s, p.settings = some s → IsCount s.batchSize ∧ IsCount s.concurrency

/-- A reference to a kind that cannot be looked up, as nothing is known about the kind. -/
def Unchecked (x : ReferenceIndex) (p : PipelineProfile) (k : Kind) : Prop :=
  (∃ id, p.RefersTo k id) ∧ ∀ other, x.contains k other = false

theorem KindSet.contains_ofList (ks : List Kind) : (KindSet.ofList ks).contains k = true ↔ k ∈ ks := by
  have hfold : ∀ (s : KindSet), (ks.foldl insert s).contains k = true ↔ k ∈ ks ∨ s.contains k = true := by
    induction ks with
    | nil => simp
    | cons j rest ih => simp [ih, contains_insert, or_assoc, or_left_comm]
  rw [ofList, hfold]
  simp [empty, contains]

namespace Check

open Finding (errorIf warningIf)

variable {c : Context} {p : PipelineProfile} {f : Finding} {fs : List Finding} {code : Code} {b : Bool}

/-! ## Errors -/

theorem clean_identity_iff {i name : Option String} :
    Clean (identity i name) ↔ ∃ id, i = some id ∧ Id.isValid (Text.trim id) = true := by
  unfold identity filled
  cases i with
  | none => simp [Finding.error?]
  | some i =>
    simp only [Option.bind_some, clean_append, clean_warningIf, and_true, Option.some.injEq, exists_eq_left']
    cases hn : Text.nonBlank? i with
    | none =>
      suffices Id.isValid (Text.trim i) = false by simp [Finding.error?, this]
      rw [← Bool.not_eq_true]
      intro hvalid
      have hne := (Text.nonBlank?_eq_some_iff.1 (Id.nonBlank?_of_isValid hvalid)).2
      rw [Text.nonBlank?_eq_some_iff.2 ⟨rfl, hne⟩] at hn
      cases hn
    | some id =>
      obtain ⟨rfl, -⟩ := Text.nonBlank?_eq_some_iff.1 hn
      simp

theorem isBadCount_eq_false_iff {n : Option (Lenient Nat)} : isBadCount n = false ↔ IsCount n := by
  rcases n with _ | _ | _ <;> simp [IsCount, isBadCount, Lenient.isInvalid]

theorem clean_settingsFindings_iff {settings : Option PipelineSettings} :
    Clean (settingsFindings settings) ↔
      ∀ s, settings = some s → IsCount s.batchSize ∧ IsCount s.concurrency := by
  cases settings <;> simp [settingsFindings, isBadCount_eq_false_iff]

theorem clean_lineCoupling_of_refersTo (hchunk : p.RefersTo .chunk id) :
    Clean (lineCoupling c p) ↔ p.LinesFit (c.index.chunkType? id) := by
  rw [lineCoupling, clean_append, PipelineProfile.refersTo_iff.1 hchunk, Option.bind_some]
  rcases c.index.chunkType? id with _ | _ | _ <;>
    simp only [PipelineProfile.LinesFit, PipelineProfile.alignsLines_iff,
      PipelineProfile.exists_refersTo_iff] <;>
    cases p.reference .policy <;> simp

theorem exists_mem_required_iff :
    (∃ missing, (k, missing) ∈ required) ↔ k = .api ∨ k = .prompt ∨ k = .parser ∨ k = .chunk := by
  cases k <;> simp [required]

/-- The check finds no error in a pipeline if it is acceptable, and in no other one. -/
theorem clean_pipeline_iff : Clean (findings c (.pipeline p)) ↔ Acceptable c.index p := by
  have hknown : ∀ {k id}, Clean (c.reference k id) ↔
      c.index.contains k id = true ∨ ∀ other, c.index.contains k other = false := by
    intro k id
    rw [clean_reference, ReferenceIndex.isEmptyFor_iff, or_comm]
  simp only [findings, pipeline_eq, clean_append, clean_identity_iff, clean_allReferences_iff, hknown,
    clean_settingsFindings_iff, ← PipelineProfile.exists_refersTo_iff, ← PipelineProfile.refersTo_iff]
  constructor
  · rintro ⟨hid, ⟨⟨hrefers, hknown⟩, hlines⟩, hsettings⟩
    refine ⟨hid, fun k hk => ?_, hknown, fun id h => (clean_lineCoupling_of_refersTo h).1 hlines, hsettings⟩
    obtain ⟨missing, hmem⟩ := exists_mem_required_iff.2 hk
    exact hrefers _ hmem
  · rintro ⟨hid, hrefers, hknown, hlines, hsettings⟩
    obtain ⟨chunk, hchunk⟩ := hrefers .chunk (by simp)
    refine ⟨hid, ⟨⟨fun e he => ?_, hknown⟩, ?_⟩, hsettings⟩
    · exact hrefers e.1 (exists_mem_required_iff.1 ⟨e.2, he⟩)
    · exact (clean_lineCoupling_of_refersTo hchunk).2 (hlines chunk hchunk)

/-! ## What is skipped -/

@[simp] theorem mem_errorIf : f ∈ errorIf b code ↔ b = true ∧ f = .error code := by
  cases b <;> simp [errorIf]

@[simp] theorem mem_warningIf : f ∈ warningIf b code ↔ b = true ∧ f = .warning code := by
  cases b <;> simp [warningIf]

/-- A reference is skipped, or there is no such profile. -/
theorem mem_reference_iff : f ∈ c.reference k id ↔
    (f = .skipped k ∧ c.index.isEmptyFor k = true) ∨
      (f = .error (.missingReference k id) ∧ c.index.isEmptyFor k = false ∧ c.index.contains k id = false) := by
  unfold Context.reference
  split <;> simp_all [and_comm]

/-- What is found in the references of a pipeline: that one is missing, or what is found in one that is there. -/
theorem mem_allReferences_iff : f ∈ allReferences c p ↔
    (∃ e ∈ required, p.reference e.1 = none ∧ f = .error e.2) ∨
      ∃ k id, p.reference k = some id ∧ f ∈ c.reference k id := by
  simp only [allReferences, referenceFindings, List.mem_append, List.mem_flatMap]
  constructor
  · rintro (⟨e, he, hf⟩ | hf)
    · cases hp : p.reference e.1 with
      | none => exact .inl ⟨e, he, hp, by simpa [hp] using hf⟩
      | some id => exact .inr ⟨e.1, id, hp, by simpa [hp] using hf⟩
    · cases hp : p.reference .policy with
      | none => simp [hp] at hf
      | some id => exact .inr ⟨.policy, id, hp, by simpa [hp] using hf⟩
  · rintro (⟨e, he, hp, rfl⟩ | ⟨k, id, hp, hf⟩)
    · exact .inl ⟨e, he, by simp [hp]⟩
    · rcases required_or k with rfl | rfl | ⟨missing, hmem⟩
      · cases hp
      · exact .inr (by simpa [hp] using hf)
      · exact .inl ⟨_, hmem, by simpa [hp] using hf⟩

/-- Errors aside, a pipeline is warned of its name and of its line policy, and references are skipped. -/
theorem mem_findings_pipeline (h : f ∈ findings c (.pipeline p)) :
    (∃ code, f = .error code) ∨ f = .warning .missingName ∨ f = .warning .linePolicyUnused ∨
      ∃ k, f = .skipped k ∧ Unchecked c.index p k := by
  simp only [findings, pipeline_eq, List.mem_append] at h
  rcases h with hidentity | (hreferences | hlines) | hsettings
  · rcases List.mem_append.1 hidentity with hid | hname
    · split at hid
      · exact .inl ⟨_, List.mem_singleton.1 hid⟩
      · exact .inl ⟨_, (mem_errorIf.1 hid).2⟩
    · exact .inr (.inl (mem_warningIf.1 hname).2)
  · rcases mem_allReferences_iff.1 hreferences with ⟨e, -, -, rfl⟩ | ⟨k, id, hp, hf⟩
    · exact .inl ⟨_, rfl⟩
    · rcases mem_reference_iff.1 hf with ⟨rfl, hempty⟩ | ⟨rfl, -⟩
      · exact .inr (.inr (.inr ⟨k, rfl, ⟨id, PipelineProfile.refersTo_iff.2 hp⟩,
          ReferenceIndex.isEmptyFor_iff.1 hempty⟩))
      · exact .inl ⟨_, rfl⟩
  · rcases List.mem_append.1 hlines with hcoupling | hunused
    · split at hcoupling <;> exact .inl ⟨_, (mem_errorIf.1 hcoupling).2⟩
    · exact .inr (.inr (.inl (mem_warningIf.1 hunused).2))
  · unfold settingsFindings at hsettings
    split at hsettings
    · rcases List.mem_append.1 hsettings with hbatch | hconcurrency
      · exact .inl ⟨_, (mem_errorIf.1 hbatch).2⟩
      · exact .inl ⟨_, (mem_errorIf.1 hconcurrency).2⟩
    · cases hsettings

theorem skipped_mem_pipeline_iff : .skipped k ∈ findings c (.pipeline p) ↔ Unchecked c.index p k := by
  constructor
  · intro h
    rcases mem_findings_pipeline h with ⟨code, h⟩ | h | h | ⟨j, h, hj⟩
    · cases h
    · cases h
    · cases h
    · exact Finding.skipped.inj h ▸ hj
  · rintro ⟨⟨id, hid⟩, hempty⟩
    have hmem : .skipped k ∈ allReferences c p :=
      mem_allReferences_iff.2 (.inr ⟨k, id, PipelineProfile.refersTo_iff.1 hid,
        mem_reference_iff.2 (.inl ⟨rfl, ReferenceIndex.isEmptyFor_iff.2 hempty⟩)⟩)
    simp only [findings, pipeline_eq, List.mem_append]
    exact .inr (.inl (.inl hmem))

/-! ## Reports -/

theorem mem_warnings_ofFindings : code ∈ (Report.ofFindings fs).warnings ↔
    .warning code ∈ fs ∨ ∃ k, .skipped k ∈ fs ∧ code = .referenceCheckSkipped k := by
  simp only [Report.ofFindings, Report.mem_firstOccurrences, List.mem_filterMap]
  constructor
  · rintro ⟨f, hf, hcode⟩
    cases f with
    | error e => cases hcode
    | warning w => exact .inl (Option.some.inj hcode ▸ hf)
    | skipped k => exact .inr ⟨k, hf, (Option.some.inj hcode).symm⟩
  · rintro (hf | ⟨k, hf, rfl⟩)
    · exact ⟨_, hf, rfl⟩
    · exact ⟨_, hf, rfl⟩

theorem contains_skipped_ofFindings :
    (Report.ofFindings fs).skipped.contains k = true ↔ .skipped k ∈ fs := by
  simp only [Report.ofFindings, KindSet.contains_ofList, List.mem_filterMap]
  constructor
  · rintro ⟨f, hf, hk⟩
    cases f with
    | skipped j => exact Option.some.inj hk ▸ hf
    | _ => cases hk
  · exact fun hf => ⟨_, hf, rfl⟩

/-- No other warning of a pipeline is written like that of a reference that was skipped. -/
theorem skipped_mem_warningCodes_iff :
    "reference_check_skipped:" ++ k.name ∈ (c.check (.pipeline p)).warningCodes ↔
      .skipped k ∈ findings c (.pipeline p) := by
  simp only [Context.check, Report.warningCodes, List.mem_map, mem_warnings_ofFindings]
  constructor
  · rintro ⟨code, hwarning | ⟨j, hj, rfl⟩, hcode⟩
    · rcases mem_findings_pipeline hwarning with ⟨e, h⟩ | h | h | ⟨j, h, -⟩
      · cases h
      · obtain rfl := Finding.warning.inj h
        exact absurd hcode (by cases k <;> decide)
      · obtain rfl := Finding.warning.inj h
        exact absurd hcode (by cases k <;> decide)
      · cases h
    · obtain rfl := Kind.name_inj (String.append_right_inj _ |>.1 hcode)
      exact hj
  · exact fun h => ⟨_, .inr ⟨k, h, rfl⟩, rfl⟩

/-- A pipeline is accepted if and only if it is acceptable, and a warning tells of each kind to which its reference
could not be looked up. -/
theorem pipeline_accepted_iff (c : Context) (p : PipelineProfile) :
    ((c.check (.pipeline p)).errors = [] ↔ Acceptable c.index p) ∧
      ∀ k : Kind, ("reference_check_skipped:" ++ k.name ∈ (c.check (.pipeline p)).warningCodes ↔
          (c.check (.pipeline p)).skipped.contains k = true) ∧
        ((c.check (.pipeline p)).skipped.contains k = true ↔
          (∃ id, p.RefersTo k id) ∧ ∀ other, c.index.contains k other = false) := by
  refine ⟨?_, fun k => ⟨?_, ?_⟩⟩
  · rw [← List.isEmpty_iff, ← clean_pipeline_iff]
    exact isOk_ofFindings
  · rw [skipped_mem_warningCodes_iff, Context.check, contains_skipped_ofFindings]
  · rw [Context.check, contains_skipped_ofFindings]
    exact skipped_mem_pipeline_iff

end Check
end ProfileKit

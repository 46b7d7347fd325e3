import ProfileKit.Proofs.Check.Findings

/-!
# What a check sees of a profile

A check looks at texts without the blanks around them, and at those items of a list that are not blank.
Profiles that are alike to such a look have the same findings (`api_congr`, `parser_congr`), and the findings
in a mapping inside a profile stand apart from those in the profile itself (`prompt_eq`, `policy_eq`,
`chunk_eq`).
-/

namespace ProfileKit

/-- Rules are compiled from the trimmed name of their type and from their options. -/
theorem Rule.ofSpec_congr {s t : ParserSpec} (htype : s.typeName = t.typeName) (hoptions : s.options = t.options) :
    Rule.ofSpec s = Rule.ofSpec t := by
  have htype? : s.type? = t.type? := by rw [ParserSpec.type?, ParserSpec.type?, htype]
  rw [Rule.ofSpec, Rule.ofSpec, htype?, hoptions]

namespace Check

open Finding (errorIf warningIf)

variable {c : Context}

theorem identity_congr {id id' name name' : Option String} (hid : filled id = filled id')
    (hname : filled name = filled name') : identity id name = identity id' name' := by
  rw [identity, identity, hid, hname]

/-! ## API profiles -/

/-- API profiles that are alike to a check. -/
structure ApiAlike (p q : ApiProfile) : Prop where
  type : filled p.type = filled q.type
  baseUrl : filled p.baseUrl = filled q.baseUrl
  model : filled p.model = filled q.model
  timeout : p.timeout = q.timeout
  concurrency : p.concurrency = q.concurrency
  rpm : p.rpm = q.rpm
  maxRetries : p.maxRetries = q.maxRetries
  endpoints : p.endpoints = q.endpoints
  members : (p.members.getD []).filterMap Text.nonBlank? = (q.members.getD []).filterMap Text.nonBlank?

theorem ApiAlike.service {p q : ApiProfile} (h : ApiAlike p q) : service p = service q := by
  rw [Check.service, Check.service, h.baseUrl, h.model]

theorem ApiAlike.pool {p q : ApiProfile} (h : ApiAlike p q) : pool c p = pool c q := by
  rw [Check.pool, Check.pool, h.endpoints, h.members]

theorem api_congr {p q : ApiProfile} (h : ApiAlike p q) : api c p = api c q := by
  simp only [api, h.type, h.timeout, h.concurrency, h.rpm, h.maxRetries, h.service, h.pool]

/-! ## Pipelines -/

/-- Pipelines that refer to the same ids have the same findings, those in their settings aside. -/
theorem references_congr {p q : PipelineProfile} (href : ∀ k, p.reference k = q.reference k)
    (happly : p.applyLinePolicy = q.applyLinePolicy) :
    allReferences c p ++ lineCoupling c p = allReferences c q ++ lineCoupling c q := by
  rw [lineCoupling_congr (d := c) (by rw [href]) (by rw [href]) happly]
  simp only [allReferences, referenceFindings, href]

/-! ## Parsers -/

theorem parser_congr {p q : ParserProfile} (htype : filled p.type = filled q.type)
    (hoptions : p.options = q.options) : parser c p = parser c q := by
  have hname : p.spec.typeName = q.spec.typeName := htype
  have hrule : Rule.ofSpec p.spec = Rule.ofSpec q.spec := Rule.ofSpec_congr hname hoptions
  simp only [parser, hname, hrule]

/-! ## Mappings inside a profile -/

/-- The findings in the context of a prompt. -/
def contextFindings : Option PromptContext → List Finding
  | some x =>
    errorIf (isBadCount x.beforeLines) .invalidContextBeforeLines
      ++ errorIf (isBadCount x.afterLines) .invalidContextAfterLines
      ++ errorIf (x.sourceFormat? == some .jsonl && isBadCount x.sourceLines) .invalidContextSourceLines
  | none => []

theorem prompt_eq (p : PromptProfile) :
    prompt p = errorIf (!p.hasSourceSlot) .missingSourcePlaceholder ++ contextFindings p.context := by
  cases h : p.context <;> simp [prompt, contextFindings, h]

/-- The findings in the options of a policy. -/
def policyOptionFindings : Option PolicyOptions → List Finding
  | some o =>
    errorIf ((filled o.onMismatch).isSome && o.onMismatch?.isNone) .invalidOnMismatch
      ++ errorIf (isBadRatio o.similarityThreshold) .invalidSimilarityThreshold
      ++ (o.checks.getD []).flatMap fun check =>
        warningIf (QualityCheck.ofName? check).isNone .unknownQualityCheck
  | none => []

theorem policy_eq (p : PolicyProfile) :
    policy p = errorIf p.type?.isNone .invalidPolicyType ++ policyOptionFindings p.options := by
  cases h : p.options <;> simp [policy, policyOptionFindings, h]

/-- The findings in the options of slicing into a type. -/
def chunkOptionFindings (type : Option ChunkType) : Option ChunkOptions → List Finding
  | some o =>
    errorIf (isBadSize o.targetChars) .invalidTargetChars
      ++ errorIf (isBadSize o.maxChars) .invalidMaxChars
      ++ errorIf (maxBelowTarget o) .maxCharsBelowTarget
      ++ errorIf (isBadRatio o.balanceThreshold) .invalidBalanceThreshold
      ++ errorIf (isBadCount o.balanceCount) .invalidBalanceCount
      ++ (if type = some .line then warningIf o.hasKanaRetry .kanaRetryIgnoredForLineChunk
        else
          errorIf (isBadRatio o.kanaRetryThreshold) .invalidRetryThreshold
            ++ errorIf (isBadSize o.kanaRetryMinChars) .invalidRetryMinChars)
  | none => []

theorem chunk_eq (p : ChunkProfile) :
    chunk p = errorIf p.type?.isNone .invalidChunkType ++ chunkOptionFindings p.type? p.options := by
  cases h : p.options <;> simp [chunk, chunkOptionFindings, h]

theorem isBadCount_of_isBadSize {n : Option (Lenient Nat)} (h : isBadSize n = false) : isBadCount n = false := by
  cases n with
  | none => rfl
  | some n =>
    cases n with
    | valid n => rfl
    | invalid v => cases h

end Check
end ProfileKit

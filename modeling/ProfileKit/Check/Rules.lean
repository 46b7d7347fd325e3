import ProfileKit.Check.Index
import ProfileKit.Check.Report
import ProfileKit.Id
import ProfileKit.Rule.Compile
import ProfileKit.Url

/-!
# Rules of profiles

What is checked in a profile of each kind. A check never stops at the first finding, and it depends
on the profile and the index alone.

| here | `validate::rules` of glossa-core |
| --- | --- |
| `Context` | what a `Pass` holds beside its report |
| `Context.unknownType`, `Context.reference` | `Pass::unknown_type`, `Pass::reference` |
| `isBadCount`, `isBadRatio`, `filled` | `invalid_count`, `invalid_ratio`, `non_empty` |
| `isBadSize` | the test of `target_chars`, `max_chars` and `kana_retry_min_chars` |
| `identity` | `Pass::identity` |
| `api` with `service`, `pool` with `endpoint` | `rules::api`, `rules::pool` |
| `pipeline` with `required` and `lineCoupling` | `rules::pipeline` |
| `parser` with `ruleFailure` | `rules::parser`, `rules::parser_failure` |
| `prompt`, `policy`, `chunk` | `rules::prompt`, `rules::policy`, `rules::chunk` |
-/

namespace ProfileKit.Check

open Finding (errorIf warningIf)

/-- What a profile is checked against. -/
structure Context where
  index : ReferenceIndex
  /-- Whether a type that is not known is an error, or only a warning. -/
  strictTypes : Bool

namespace Context

/-- A type is not known. -/
def unknownType (c : Context) (code : Code) : List Finding :=
  if c.strictTypes then [.error code] else [.warning code]

/-- Checks that a profile exists, unless nothing is known about its kind. -/
def reference (c : Context) (k : Kind) (id : String) : List Finding :=
  if c.index.isEmptyFor k then [.skipped k]
  else errorIf (!c.index.contains k id) (.missingReference k id)

end Context

/-! ## Values -/

/-- A number is there and is not a natural number. -/
def isBadCount (n : Option (Lenient Nat)) : Bool := n.any Lenient.isInvalid

/-- A number is there and is not a positive natural number. -/
def isBadSize : Option (Lenient Nat) → Bool
  | none => false
  | some (.valid n) => n == 0
  | some (.invalid _) => true

/-- A number is there and does not lie above zero and up to one. -/
def isBadRatio : Option (Lenient Binary64) → Bool
  | none => false
  | some (.valid x) => !x.isProperShare
  | some (.invalid _) => true

/-- A text that is there and is not blank, without blanks around it. -/
def filled (s : Option String) : Option String := s.bind Text.nonBlank?

/-! ## Kinds -/

def identity (id name : Option String) : List Finding :=
  (match filled id with
    | none => [.error .missingId]
    | some id => errorIf (!Id.isValid id) .invalidId)
  ++ warningIf (filled name).isNone .missingName

/-- A single service needs an address and a model. -/
def service (p : ApiProfile) : List Finding :=
  (match filled p.baseUrl with
    | none => [.error .missingBaseUrl]
    | some url => errorIf (!Url.isWebAddress url) .invalidBaseUrl)
  ++ errorIf (filled p.model).isNone .missingModel

def endpoint (e : ApiEndpoint) : List Finding :=
  errorIf (!e.isComplete || isBadCount e.weight) .invalidPoolEndpoint
    ++ (match filled e.baseUrl with
      | none => []
      | some url => errorIf (!Url.isWebAddress url) .invalidBaseUrl)

/-- A pool has endpoints, or, in the older way, members. -/
def pool (c : Context) (p : ApiProfile) : List Finding :=
  let endpoints := p.endpoints.getD []
  let members := (p.members.getD []).filterMap Text.nonBlank?
  errorIf (!endpoints.isEmpty && !members.isEmpty) .poolMembersWithEndpoints
    ++ (if endpoints.isEmpty then
        if members.isEmpty then [.error .missingPoolEndpoints]
        else .warning .poolMembersDeprecated :: members.flatMap (c.reference .api)
      else
        endpoints.flatMap endpoint
          ++ errorIf (!endpoints.any ApiEndpoint.isComplete) .missingPoolEndpoints)

def api (c : Context) (p : ApiProfile) : List Finding :=
  errorIf (isBadCount p.timeout) .invalidTimeout
    ++ errorIf (isBadCount p.concurrency) .invalidConcurrency
    ++ errorIf (isBadCount p.rpm) .invalidRpm
    ++ errorIf (isBadCount p.maxRetries) .invalidMaxRetries
    ++ (match filled p.type with
      | none => [.error .missingApiType]
      | some name =>
        match ApiType.ofName? name with
        | some .single => service p
        | some .pool => pool c p
        | none => c.unknownType .unknownApiType)

/-- The kinds that every pipeline has to refer to, and what it is called when it does not. -/
def required : List (Kind × Code) :=
  [(.api, .missingProvider), (.prompt, .missingPrompt), (.parser, .missingParser),
    (.chunk, .missingChunkPolicy)]

/-- Lines can be aligned if the source is sliced into lines, and then by a policy only. Where the
type of slicing is not known, only asking for alignment without a policy is wrong. -/
def lineCoupling (c : Context) (p : PipelineProfile) : List Finding :=
  let linePolicy := p.reference .policy
  let applied := p.linePolicyApplied
  (match (p.reference .chunk).bind c.index.chunkType? with
    | some .block => errorIf applied .linePolicyRequiresLineChunk
    | some .line => errorIf (applied && linePolicy.isNone) .lineChunkMissingLinePolicy
    | none =>
      errorIf (p.applyLinePolicy == some true && linePolicy.isNone) .lineChunkMissingLinePolicy)
  ++ warningIf (linePolicy.isSome && !applied) .linePolicyUnused

def pipeline (c : Context) (p : PipelineProfile) : List Finding :=
  (required.flatMap fun (k, missing) =>
    match p.reference k with
    | some id => c.reference k id
    | none => [.error missing])
  ++ (match p.reference .policy with
    | some id => c.reference .policy id
    | none => [])
  ++ lineCoupling c p
  ++ (match p.settings with
    | some s =>
      errorIf (isBadCount s.batchSize) .invalidBatchSize
        ++ errorIf (isBadCount s.concurrency) .invalidConcurrency
    | none => [])

def prompt (p : PromptProfile) : List Finding :=
  errorIf (!p.hasSourceSlot) .missingSourcePlaceholder
    ++ (match p.context with
      | some x =>
        errorIf (isBadCount x.beforeLines) .invalidContextBeforeLines
          ++ errorIf (isBadCount x.afterLines) .invalidContextAfterLines
          ++ errorIf (x.sourceFormat? == some .jsonl && isBadCount x.sourceLines)
            .invalidContextSourceLines
      | none => [])

/-- A rule does not compile. -/
def ruleFailure (c : Context) : RuleFailure → List Finding
  | .unsupportedParser _ => c.unknownType .unknownParserType
  | e => [.error (.parser e.code)]

def parser (c : Context) (p : ParserProfile) : List Finding :=
  match p.spec.typeName with
  | none => [.error .missingParserType]
  | some name =>
    match ParserType.ofName? name with
    | none => c.unknownType .unknownParserType
    | some _ =>
      match Rule.ofSpec p.spec with
      | .error e => ruleFailure c e
      | .ok (.basic _) => []
      | .ok (.cascade branches) => branches.flatMap fun
        | .error e => ruleFailure c e
        | .ok _ => []

def policy (p : PolicyProfile) : List Finding :=
  errorIf p.type?.isNone .invalidPolicyType
    ++ (match p.options with
      | some o =>
        errorIf ((filled o.onMismatch).isSome && o.onMismatch?.isNone) .invalidOnMismatch
          ++ errorIf (isBadRatio o.similarityThreshold) .invalidSimilarityThreshold
          ++ (o.checks.getD []).flatMap fun check =>
            warningIf (QualityCheck.ofName? check).isNone .unknownQualityCheck
      | none => [])

/-- The greatest size lies below the one that is aimed at. -/
def maxBelowTarget (o : ChunkOptions) : Bool :=
  match o.targetChars.bind Lenient.valid?, o.maxChars.bind Lenient.valid? with
  | some target, some greatest => greatest < target
  | _, _ => false

def chunk (p : ChunkProfile) : List Finding :=
  errorIf p.type?.isNone .invalidChunkType
    ++ (match p.options with
      | some o =>
        errorIf (isBadSize o.targetChars) .invalidTargetChars
          ++ errorIf (isBadSize o.maxChars) .invalidMaxChars
          ++ errorIf (maxBelowTarget o) .maxCharsBelowTarget
          ++ errorIf (isBadRatio o.balanceThreshold) .invalidBalanceThreshold
          ++ errorIf (isBadCount o.balanceCount) .invalidBalanceCount
          ++ (if p.type? = some .line then
              warningIf o.hasKanaRetry .kanaRetryIgnoredForLineChunk
            else
              errorIf (isBadRatio o.kanaRetryThreshold) .invalidRetryThreshold
                ++ errorIf (isBadSize o.kanaRetryMinChars) .invalidRetryMinChars)
      | none => [])

/-- Everything that is found in a profile. -/
def findings (c : Context) (p : Profile) : List Finding :=
  identity p.id p.name
    ++ match p with
      | .api p => api c p
      | .pipeline p => pipeline c p
      | .prompt p => prompt p
      | .parser p => parser c p
      | .policy p => policy p
      | .chunk p => chunk p

end ProfileKit.Check

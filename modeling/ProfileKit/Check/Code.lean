import ProfileKit.Kind

/-!
# Codes of findings

What a check can find in a profile. Every finding has one symbolic code; turning codes into words
is left to whoever shows them.

`Code` is `ValidationCode` in `validate::code` of glossa-core, and `Code.render` how it is displayed.
-/

namespace ProfileKit.Check

/-- What was found. -/
inductive Code where
  | missingId
  | invalidId
  | invalidDocument
  | duplicateId
  | missingName
  | missingApiType
  | unknownApiType
  | missingBaseUrl
  | invalidBaseUrl
  | missingModel
  | missingPoolEndpoints
  | invalidPoolEndpoint
  | poolMembersWithEndpoints
  | poolMembersDeprecated
  | invalidTimeout
  | invalidConcurrency
  | invalidRpm
  | invalidMaxRetries
  | missingProvider
  | missingPrompt
  | missingParser
  | missingChunkPolicy
  /-- No profile of the kind has the id. -/
  | missingReference (kind : Kind) (id : String)
  /-- Nothing is known about the kind, so a reference to it was not checked. -/
  | referenceCheckSkipped (kind : Kind)
  | linePolicyRequiresLineChunk
  | lineChunkMissingLinePolicy
  | linePolicyUnused
  | invalidBatchSize
  | missingSourcePlaceholder
  | invalidContextBeforeLines
  | invalidContextAfterLines
  | invalidContextSourceLines
  | missingParserType
  | unknownParserType
  /-- The rule does not compile; the code is the one of its failure. -/
  | parser (code : String)
  | invalidPolicyType
  | invalidOnMismatch
  | invalidSimilarityThreshold
  | unknownQualityCheck
  | invalidChunkType
  | invalidTargetChars
  | invalidMaxChars
  | maxCharsBelowTarget
  | invalidBalanceThreshold
  | invalidBalanceCount
  | invalidRetryThreshold
  | invalidRetryMinChars
  | kanaRetryIgnoredForLineChunk
deriving DecidableEq, Repr

/-- The symbolic code. -/
def Code.render : Code → String
  | .missingId => "missing_id"
  | .invalidId => "invalid_id"
  | .invalidDocument => "invalid_document"
  | .duplicateId => "duplicate_id"
  | .missingName => "missing_name"
  | .missingApiType => "missing_api_type"
  | .unknownApiType => "unknown_api_type"
  | .missingBaseUrl => "missing_base_url"
  | .invalidBaseUrl => "invalid_base_url"
  | .missingModel => "missing_model"
  | .missingPoolEndpoints => "missing_pool_endpoints"
  | .invalidPoolEndpoint => "invalid_pool_endpoint"
  | .poolMembersWithEndpoints => "pool_members_with_endpoints"
  | .poolMembersDeprecated => "pool_members_deprecated"
  | .invalidTimeout => "invalid_timeout"
  | .invalidConcurrency => "invalid_concurrency"
  | .invalidRpm => "invalid_rpm"
  | .invalidMaxRetries => "invalid_max_retries"
  | .missingProvider => "missing_provider"
  | .missingPrompt => "missing_prompt"
  | .missingParser => "missing_parser"
  | .missingChunkPolicy => "missing_chunk_policy"
  | .missingReference kind id => "missing_reference:" ++ kind.name ++ ":" ++ id
  | .referenceCheckSkipped kind => "reference_check_skipped:" ++ kind.name
  | .linePolicyRequiresLineChunk => "line_policy_requires_line_chunk"
  | .lineChunkMissingLinePolicy => "line_chunk_missing_line_policy"
  | .linePolicyUnused => "line_policy_unused"
  | .invalidBatchSize => "invalid_batch_size"
  | .missingSourcePlaceholder => "missing_source_placeholder"
  | .invalidContextBeforeLines => "invalid_context_before_lines"
  | .invalidContextAfterLines => "invalid_context_after_lines"
  | .invalidContextSourceLines => "invalid_context_source_lines"
  | .missingParserType => "missing_parser_type"
  | .unknownParserType => "unknown_parser_type"
  | .parser code => "parser_" ++ code
  | .invalidPolicyType => "invalid_policy_type"
  | .invalidOnMismatch => "invalid_on_mismatch"
  | .invalidSimilarityThreshold => "invalid_similarity_threshold"
  | .unknownQualityCheck => "unknown_quality_check"
  | .invalidChunkType => "invalid_chunk_type"
  | .invalidTargetChars => "invalid_target_chars"
  | .invalidMaxChars => "invalid_max_chars"
  | .maxCharsBelowTarget => "max_chars_below_target"
  | .invalidBalanceThreshold => "invalid_balance_threshold"
  | .invalidBalanceCount => "invalid_balance_count"
  | .invalidRetryThreshold => "invalid_retry_threshold"
  | .invalidRetryMinChars => "invalid_retry_min_chars"
  | .kanaRetryIgnoredForLineChunk => "kana_retry_ignored_for_line_chunk"

end ProfileKit.Check

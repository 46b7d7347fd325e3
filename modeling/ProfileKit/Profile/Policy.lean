import ProfileKit.Profile.Record
import ProfileKit.Text.Blank

/-!
# Policy profiles

How the lines of a response are aligned with the lines of the source.

| here | `document::policy` of glossa-core |
| --- | --- |
| `ofName?` of each type | `PolicyType::parse`, `MismatchStrategy::parse`, `QualityCheck::parse` |
| `PolicyOptions.onMismatch?` | `on_mismatch` |
| `PolicyProfile.type?` | `policy_type` |
-/

namespace ProfileKit

/-- How strictly lines are aligned. -/
inductive PolicyType where
  | strict
  | tolerant
deriving DecidableEq, Repr

namespace PolicyType

def name : PolicyType → String
  | .strict => "strict"
  | .tolerant => "tolerant"

def ofName? (s : String) : Option PolicyType :=
  [strict, tolerant].find? fun t => t.name = Text.trim s

end PolicyType

/-- What is done when the numbers of lines differ. -/
inductive MismatchStrategy where
  | retry
  | error
  | pad
  | truncate
  | align
deriving DecidableEq, Repr

namespace MismatchStrategy

def name : MismatchStrategy → String
  | .retry => "retry"
  | .error => "error"
  | .pad => "pad"
  | .truncate => "truncate"
  | .align => "align"

def ofName? (s : String) : Option MismatchStrategy :=
  [retry, error, pad, truncate, align].find? fun t => t.name = Text.trim s

end MismatchStrategy

/-- A check of the quality of aligned lines. -/
inductive QualityCheck where
  | emptyLine
  | similarity
  | kanaTrace
deriving DecidableEq, Repr

namespace QualityCheck

def name : QualityCheck → String
  | .emptyLine => "empty_line"
  | .similarity => "similarity"
  | .kanaTrace => "kana_trace"

def ofName? (s : String) : Option QualityCheck :=
  [emptyLine, similarity, kanaTrace].find? fun t => t.name = Text.trim s

end QualityCheck

/-- The options of a policy. -/
structure PolicyOptions where
  onMismatch : Option String
  trim : Option Bool
  similarityThreshold : Option (Lenient Binary64)
  checks : Option (List String)
  extra : Mapping
deriving DecidableEq, Repr

namespace PolicyOptions

def codec : Codec PolicyOptions :=
  .ofRecord
    (.cons "on_mismatch" .looseText <| .cons "trim" .flag <|
      .cons "similarity_threshold" .ratio <| .field "checks" .texts)
    (fun (onMismatch, trim, similarityThreshold, checks) extra =>
      { onMismatch, trim, similarityThreshold, checks, extra })
    (fun p => ((p.onMismatch, p.trim, p.similarityThreshold, p.checks), p.extra))

def onMismatch? (o : PolicyOptions) : Option MismatchStrategy :=
  (o.onMismatch.bind Text.nonBlank?).bind MismatchStrategy.ofName?

end PolicyOptions

/-- A policy profile. -/
structure PolicyProfile where
  id : Option String
  name : Option String
  type : Option String
  options : Option PolicyOptions
  extra : Mapping
deriving DecidableEq, Repr

namespace PolicyProfile

def codec : Codec PolicyProfile :=
  .ofRecord
    (.cons "id" .looseText <| .cons "name" .looseText <| .cons "type" .looseText <|
      .field "options" PolicyOptions.codec.nested)
    (fun (id, name, type, options) extra => { id, name, type, options, extra })
    (fun p => ((p.id, p.name, p.type, p.options), p.extra))

def type? (p : PolicyProfile) : Option PolicyType :=
  (p.type.bind Text.nonBlank?).bind PolicyType.ofName?

def blank : PolicyProfile := codec.read []

end PolicyProfile
end ProfileKit

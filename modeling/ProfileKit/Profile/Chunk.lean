import ProfileKit.Profile.Record
import ProfileKit.Text.Blank
import ProfileKit.Unicode.Lowercase

/-!
# Chunk profiles

How source text is sliced. The key of the type has an older spelling, `type`, which is read but no
longer written.

| here | `document::chunk` of glossa-core |
| --- | --- |
| `ChunkType.ofName?` | `ChunkType::parse` |
| `ChunkOptions.hasKanaRetry` | `has_kana_retry` |
| `ChunkProfile.type?`, `ChunkProfile.ofType` | `chunk_type`, `ChunkProfile::new` |
-/

namespace ProfileKit

/-- What the source is sliced into. -/
inductive ChunkType where
  | line
  | block
deriving DecidableEq, Repr

namespace ChunkType

def name : ChunkType → String
  | .line => "line"
  | .block => "block"

/-- The type of a name, blanks and case aside; `legacy` and `doc` are older names of `block`. -/
def ofName? (s : String) : Option ChunkType :=
  let n := Unicode.lowercase (Text.trim s)
  if n = "line" then some .line
  else if n = "block" ∨ n = "legacy" ∨ n = "doc" then some .block
  else none

end ChunkType

/-- The options of slicing. The last three are about repeating a request whose answer still holds
kana; they have a meaning for blocks only. -/
structure ChunkOptions where
  targetChars : Option (Lenient Nat)
  maxChars : Option (Lenient Nat)
  balanceThreshold : Option (Lenient Binary64)
  balanceCount : Option (Lenient Nat)
  kanaRetryEnabled : Option Bool
  kanaRetryThreshold : Option (Lenient Binary64)
  kanaRetryMinChars : Option (Lenient Nat)
  extra : Mapping
deriving DecidableEq, Repr

namespace ChunkOptions

def codec : Codec ChunkOptions :=
  .ofRecord
    (.cons "target_chars" .count <| .cons "max_chars" .count <|
      .cons "balance_threshold" .ratio <| .cons "balance_count" .count <|
      .cons "kana_retry_enabled" .flag <| .cons "kana_retry_threshold" .ratio <|
      .field "kana_retry_min_chars" .count)
    (fun (targetChars, maxChars, balanceThreshold, balanceCount, kanaRetryEnabled,
        kanaRetryThreshold, kanaRetryMinChars) extra =>
      { targetChars, maxChars, balanceThreshold, balanceCount, kanaRetryEnabled,
        kanaRetryThreshold, kanaRetryMinChars, extra })
    (fun p => ((p.targetChars, p.maxChars, p.balanceThreshold, p.balanceCount, p.kanaRetryEnabled,
      p.kanaRetryThreshold, p.kanaRetryMinChars), p.extra))

def hasKanaRetry (o : ChunkOptions) : Bool :=
  o.kanaRetryEnabled.isSome || o.kanaRetryThreshold.isSome || o.kanaRetryMinChars.isSome

end ChunkOptions

/-- A chunk profile. -/
structure ChunkProfile where
  id : Option String
  name : Option String
  type : Option String
  options : Option ChunkOptions
  extra : Mapping
deriving DecidableEq, Repr

namespace ChunkProfile

def codec : Codec ChunkProfile :=
  .ofRecord
    (.cons "id" .looseText <| .cons "name" .looseText <|
      .pair (.aliasedField "chunk_type" "type" .looseText) <|
      .field "options" ChunkOptions.codec.nested)
    (fun (id, name, type, options) extra => { id, name, type, options, extra })
    (fun p => ((p.id, p.name, p.type, p.options), p.extra))

def type? (p : ChunkProfile) : Option ChunkType :=
  (p.type.bind Text.nonBlank?).bind ChunkType.ofName?

def blank : ChunkProfile := codec.read []

/-- A profile of a type, named like its id. -/
def ofType (id : String) (type : ChunkType) : ChunkProfile :=
  { blank with id := some id, name := some id, type := some type.name }

end ChunkProfile
end ProfileKit

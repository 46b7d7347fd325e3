import ProfileKit.Profile.Record
import ProfileKit.Text.Blank

/-!
# Prompt profiles

The templates of what a model is asked, and how much of the source is shown around it.

| here | `document::prompt` of glossa-core |
| --- | --- |
| `SourceFormat.ofName` | `SourceFormat::parse` |
| `PromptContext.sourceFormat?` | `source_format` |
| `sourceSlot`, `hasSourceSlot` | `SOURCE_PLACEHOLDER`, `has_source_slot` |
-/

namespace ProfileKit

/-- How source lines are shown to the model. -/
inductive SourceFormat where
  | jsonl
  | plain
  | custom (name : String)
deriving DecidableEq, Repr

def SourceFormat.ofName (s : String) : SourceFormat :=
  let n := Text.trim s
  if n = "jsonl" then .jsonl else if n = "plain" then .plain else .custom n

/-- The source around the lines that are asked for. -/
structure PromptContext where
  beforeLines : Option (Lenient Nat)
  afterLines : Option (Lenient Nat)
  joiner : Option String
  sourceFormat : Option String
  sourceLines : Option (Lenient Nat)
  extra : Mapping
deriving DecidableEq, Repr

namespace PromptContext

def codec : Codec PromptContext :=
  .ofRecord
    (.cons "before_lines" .count <| .cons "after_lines" .count <| .cons "joiner" .text <|
      .cons "source_format" .text <| .field "source_lines" .count)
    (fun (beforeLines, afterLines, joiner, sourceFormat, sourceLines) extra =>
      { beforeLines, afterLines, joiner, sourceFormat, sourceLines, extra })
    (fun p => ((p.beforeLines, p.afterLines, p.joiner, p.sourceFormat, p.sourceLines), p.extra))

def sourceFormat? (c : PromptContext) : Option SourceFormat :=
  (c.sourceFormat.bind Text.nonBlank?).map .ofName

end PromptContext

/-- A prompt profile. -/
structure PromptProfile where
  id : Option String
  name : Option String
  systemTemplate : Option String
  userTemplate : Option String
  context : Option PromptContext
  extra : Mapping
deriving DecidableEq, Repr

namespace PromptProfile

def codec : Codec PromptProfile :=
  .ofRecord
    (.cons "id" .looseText <| .cons "name" .looseText <| .cons "system_template" .text <|
      .cons "user_template" .text <| .field "context" PromptContext.codec.nested)
    (fun (id, name, systemTemplate, userTemplate, context) extra =>
      { id, name, systemTemplate, userTemplate, context, extra })
    (fun p => ((p.id, p.name, p.systemTemplate, p.userTemplate, p.context), p.extra))

/-- Where the source goes in a user template. -/
def sourceSlot : String := "\x7b\x7bsource\x7d\x7d"

/-- The user template has a place for the source, or is blank. -/
def hasSourceSlot (p : PromptProfile) : Bool :=
  match p.userTemplate.bind Text.nonBlank? with
  | none => true
  | some template => Text.occurs sourceSlot.toList template.toList

def blank : PromptProfile := codec.read []

end PromptProfile
end ProfileKit

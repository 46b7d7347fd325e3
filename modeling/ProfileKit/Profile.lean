import ProfileKit.Document
import ProfileKit.Profile.Api
import ProfileKit.Profile.Chunk
import ProfileKit.Profile.Parser
import ProfileKit.Profile.Pipeline
import ProfileKit.Profile.Policy
import ProfileKit.Profile.Prompt
import ProfileKit.Yaml.Printer

/-!
# Profiles

A profile of one of the six kinds, read from a mapping and written back to one. What the kind does
not model is kept.

| here | `document` of glossa-core |
| --- | --- |
| `Profile`, `Profile.kind` | `ProfileDocument`: its `body`, and its `kind`, which is that of the body |
| `id`, `name`, `setId` | `id`, `name`, `set_id` |
| `trimmedId?` | the id as `ReferenceIndex::insert_document` takes it |
| `ofMapping`, `parse` | `ProfileDocument::from_mapping`, `ProfileDocument::parse` |
| `toMapping`, `toYaml` | `to_value`, `to_yaml` |
-/

namespace ProfileKit

/-- A profile. -/
inductive Profile where
  | api (p : ApiProfile)
  | pipeline (p : PipelineProfile)
  | prompt (p : PromptProfile)
  | parser (p : ParserProfile)
  | policy (p : PolicyProfile)
  | chunk (p : ChunkProfile)
deriving DecidableEq, Repr

namespace Profile

def kind : Profile → Kind
  | .api _ => .api
  | .pipeline _ => .pipeline
  | .prompt _ => .prompt
  | .parser _ => .parser
  | .policy _ => .policy
  | .chunk _ => .chunk

def id : Profile → Option String
  | .api p => p.id
  | .pipeline p => p.id
  | .prompt p => p.id
  | .parser p => p.id
  | .policy p => p.id
  | .chunk p => p.id

def name : Profile → Option String
  | .api p => p.name
  | .pipeline p => p.name
  | .prompt p => p.name
  | .parser p => p.name
  | .policy p => p.name
  | .chunk p => p.name

def setId (p : Profile) (id : String) : Profile :=
  match p with
  | .api p => .api { p with id := some id }
  | .pipeline p => .pipeline { p with id := some id }
  | .prompt p => .prompt { p with id := some id }
  | .parser p => .parser { p with id := some id }
  | .policy p => .policy { p with id := some id }
  | .chunk p => .chunk { p with id := some id }

/-- The id without the blanks around it, unless it is blank. -/
def trimmedId? (p : Profile) : Option String := p.id.bind Text.nonBlank?

/-- The profile as a mapping. -/
def toMapping : Profile → Mapping
  | .api p => ApiProfile.codec.write p
  | .pipeline p => PipelineProfile.codec.write p
  | .prompt p => PromptProfile.codec.write p
  | .parser p => ParserProfile.codec.write p
  | .policy p => PolicyProfile.codec.write p
  | .chunk p => ChunkProfile.codec.write p

/-- The first fault that keeps a mapping from being a profile of a kind. -/
def read? (k : Kind) (m : Mapping) : Except Misread Profile :=
  match k with
  | .api => (ApiProfile.codec.read? m).map .api
  | .pipeline => (PipelineProfile.codec.read? m).map .pipeline
  | .prompt => (PromptProfile.codec.read? m).map .prompt
  | .parser => (ParserProfile.codec.read? m).map .parser
  | .policy => (PolicyProfile.codec.read? m).map .policy
  | .chunk => (ChunkProfile.codec.read? m).map .chunk

/-- Reads a mapping as a profile of a kind. -/
def ofMapping (k : Kind) (m : Mapping) : Except ProfileError Profile :=
  (read? k m).mapError fun fault => .invalidDocument (k.name ++ " profile: " ++ fault.message)

/-- Reads a text as a profile of a kind. -/
def parse (k : Kind) (text : String) : Except ProfileError Profile := do
  ofMapping k (← Document.readMapping text)

/-- The profile as YAML text. -/
def toYaml (p : Profile) : String := Yaml.render (.object p.toMapping)

/-- Equality of profiles, with the two zeros as one number. -/
def agrees (p q : Profile) : Bool :=
  p.kind == q.kind && (Json.object p.toMapping).agrees (.object q.toMapping)

theorem id_setId (p : Profile) (i : String) : (p.setId i).id = some i := by cases p <;> rfl

theorem kind_setId (p : Profile) (i : String) : (p.setId i).kind = p.kind := by cases p <;> rfl

end Profile
end ProfileKit

import ProfileKit.Kind
import ProfileKit.Profile.Record
import ProfileKit.Text.Blank

/-!
# Pipeline profiles

A pipeline refers to one profile of every other kind by its id.

| here | `document::pipeline` of glossa-core |
| --- | --- |
| `slot`, `setSlot` | what `reference_mut` points to, and an assignment to it |
| `reference` | `PipelineProfile::reference` |
| `linePolicyApplied`, `wired` | `line_policy_applied`, `PipelineProfile::wired` |
-/

namespace ProfileKit

/-- How a pipeline is run. -/
structure PipelineSettings where
  batchSize : Option (Lenient Nat)
  concurrency : Option (Lenient Nat)
  extra : Mapping
deriving DecidableEq, Repr

def PipelineSettings.codec : Codec PipelineSettings :=
  .ofRecord
    (.cons "batch_size" .count <| .field "concurrency" .count)
    (fun (batchSize, concurrency) extra => { batchSize, concurrency, extra })
    (fun p => ((p.batchSize, p.concurrency), p.extra))

/-- A pipeline profile. -/
structure PipelineProfile where
  id : Option String
  name : Option String
  provider : Option String
  prompt : Option String
  parser : Option String
  chunkPolicy : Option String
  linePolicy : Option String
  applyLinePolicy : Option Bool
  settings : Option PipelineSettings
  extra : Mapping
deriving DecidableEq, Repr

namespace PipelineProfile

def codec : Codec PipelineProfile :=
  .ofRecord
    (.cons "id" .looseText <| .cons "name" .looseText <| .cons "provider" .looseText <|
      .cons "prompt" .looseText <| .cons "parser" .looseText <|
      .cons "chunk_policy" .looseText <| .cons "line_policy" .looseText <|
      .cons "apply_line_policy" .flag <| .field "settings" PipelineSettings.codec.nested)
    (fun (id, name, provider, prompt, parser, chunkPolicy, linePolicy, applyLinePolicy, settings)
        extra =>
      { id, name, provider, prompt, parser, chunkPolicy, linePolicy, applyLinePolicy, settings,
        extra })
    (fun p => ((p.id, p.name, p.provider, p.prompt, p.parser, p.chunkPolicy, p.linePolicy,
      p.applyLinePolicy, p.settings), p.extra))

/-- What stands in the field that refers to a kind. -/
def slot (p : PipelineProfile) : Kind → Option String
  | .api => p.provider
  | .prompt => p.prompt
  | .parser => p.parser
  | .policy => p.linePolicy
  | .chunk => p.chunkPolicy
  | .pipeline => none

/-- Sets the field that refers to a kind. -/
def setSlot (p : PipelineProfile) (k : Kind) (id : Option String) : PipelineProfile :=
  match k with
  | .api => { p with provider := id }
  | .prompt => { p with prompt := id }
  | .parser => { p with parser := id }
  | .policy => { p with linePolicy := id }
  | .chunk => { p with chunkPolicy := id }
  | .pipeline => p

/-- The id that the pipeline refers to for a kind; a blank one is none. -/
def reference (p : PipelineProfile) (k : Kind) : Option String := (p.slot k).bind Text.nonBlank?

/-- Whether lines are aligned. Where it is not said, it follows from there being a line policy. -/
def linePolicyApplied (p : PipelineProfile) : Bool :=
  p.applyLinePolicy.getD (p.linePolicy.bind Text.nonBlank?).isSome

def blank : PipelineProfile := codec.read []

/-- A pipeline of four parts, named like its id. -/
def wired (id provider prompt parser chunkPolicy : String) : PipelineProfile :=
  { blank with
    id := some id, name := some id, provider := some provider, prompt := some prompt,
    parser := some parser, chunkPolicy := some chunkPolicy }

theorem slot_setSlot (p : PipelineProfile) (k : Kind) (id : Option String) (h : k ≠ .pipeline) :
    (p.setSlot k id).slot k = id := by
  cases k <;> first | rfl | exact absurd rfl h

theorem slot_setSlot_of_ne (p : PipelineProfile) {j k : Kind} (id : Option String) (h : j ≠ k) :
    (p.setSlot k id).slot j = p.slot j := by
  cases k <;> cases j <;> first | rfl | exact absurd rfl h

end PipelineProfile
end ProfileKit

import ProfileKit.Profile.Record
import ProfileKit.Text.Blank

/-!
# Parser profiles

How text is taken out of a model's response: the type of a rule and its options.

| here | `document::parser` of glossa-core |
| --- | --- |
| `ParserType.name`, `ParserType.ofName?` | `ParserType::as_str`, `ParserType::parse` |
| `ParserSpec.typeName` | `type_name` |
| `ParserProfile.spec` | `spec` |
-/

namespace ProfileKit

/-- The types of parser rules. -/
inductive ParserType where
  | plain
  | lineStrict
  | jsonObject
  | jsonArray
  | jsonl
  | taggedLine
  | regex
  | python
  | any
deriving DecidableEq, Repr

namespace ParserType

def all : List ParserType :=
  [.plain, .lineStrict, .jsonObject, .jsonArray, .jsonl, .taggedLine, .regex, .python, .any]

def name : ParserType → String
  | .plain => "plain"
  | .lineStrict => "line_strict"
  | .jsonObject => "json_object"
  | .jsonArray => "json_array"
  | .jsonl => "jsonl"
  | .taggedLine => "tagged_line"
  | .regex => "regex"
  | .python => "python"
  | .any => "any"

def ofName? (s : String) : Option ParserType := all.find? fun t => t.name = Text.trim s

end ParserType

/-- A rule as it is written down: its type and its options. The branches of a cascade are such. -/
structure ParserSpec where
  type : Option String
  options : Mapping
deriving DecidableEq, Repr

namespace ParserSpec

def codec : Codec ParserSpec :=
  .ofRecord
    (.cons "type" .looseText <| .field "options" .options)
    (fun (type, options) _ => { type, options })
    (fun s => ((s.type, s.options), []))

/-- The name of the type, unless it is blank. -/
def typeName (s : ParserSpec) : Option String := s.type.bind Text.nonBlank?

end ParserSpec

/-- A parser profile. -/
structure ParserProfile where
  id : Option String
  name : Option String
  type : Option String
  options : Mapping
  extra : Mapping
deriving DecidableEq, Repr

namespace ParserProfile

def codec : Codec ParserProfile :=
  .ofRecord
    (.cons "id" .looseText <| .cons "name" .looseText <| .cons "type" .looseText <|
      .field "options" .options)
    (fun (id, name, type, options) extra => { id, name, type, options, extra })
    (fun p => ((p.id, p.name, p.type, p.options), p.extra))

/-- The rule of the profile. -/
def spec (p : ParserProfile) : ParserSpec := { type := p.type, options := p.options }

def blank : ParserProfile := codec.read []

end ParserProfile
end ProfileKit

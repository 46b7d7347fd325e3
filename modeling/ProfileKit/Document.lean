import ProfileKit.Error
import ProfileKit.Json.Reader
import ProfileKit.Text.Blank
import ProfileKit.Yaml.Reader

/-!
# Document text

A document is a mapping, written as YAML or as JSON. The format is guessed from the first character
that is not blank, and the other one is tried when the guess does not read.

| here | `document` of glossa-core |
| --- | --- |
| `Format`, `Format.guess` | `DocumentFormat`, `DocumentFormat::sniff` |
| `Format.read?` | `parse_json_value`, `parse_yaml_value` |
| `readEither` | `parse_with_fallback`, without the messages of the two libraries in its error |
| `readMapping` | `parse_mapping` |
-/

namespace ProfileKit.Document

/-- A format of documents. -/
inductive Format where
  | json
  | yaml
deriving DecidableEq, Repr

namespace Format

def name : Format → String
  | .json => "json"
  | .yaml => "yaml"

/-- The name in messages. -/
def title : Format → String
  | .json => "Json"
  | .yaml => "Yaml"

def other : Format → Format
  | .json => .yaml
  | .yaml => .json

/-- The format that a text seems to be in. -/
def guess (text : String) : Format :=
  if (text.toList.dropWhile Text.isBlank).head? == some '\x7b' then .json else .yaml

/-- Reads a text in this format. -/
def read? (f : Format) (text : String) : Option Json :=
  match f with
  | .json => Json.read? text
  | .yaml => Yaml.read? text

end Format

/-- Reads a text in a format, or else in the other one; tells which one it was. -/
def readEither (text : String) (first : Format) : Except ProfileError (Json × Format) :=
  match first.read? text, first.other.read? text with
  | some v, _ => .ok (v, first)
  | none, some v => .ok (v, first.other)
  | none, none => .error (.invalidDocument "the text is neither JSON nor YAML")

/-- The mapping of a value that was read in a format. An empty document is an empty mapping. -/
def mappingOf (f : Format) : Json → Except ProfileError Mapping
  | .object fields => .ok fields
  | .null => .ok []
  | v => .error (.invalidDocument
    (f.title ++ " document root must be a mapping, found " ++ v.kindName))

/-- Reads a text as a mapping. -/
def readMapping (text : String) : Except ProfileError Mapping := do
  let (v, f) ← readEither text (.guess text)
  mappingOf f v

end ProfileKit.Document

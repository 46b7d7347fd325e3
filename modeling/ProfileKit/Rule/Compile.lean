import ProfileKit.Pattern.GroupNames
import ProfileKit.Profile.Parser
import ProfileKit.Rule
import ProfileKit.Rule.Flags
import ProfileKit.Text.Integer

/-!
# Rules from specifications

Compiling finds everything that is wrong with a rule whatever the text: options that are missing,
patterns that do not read, groups that do not exist. What is wrong with a branch of a cascade stays
with the branch.

| here | `parser::rule` of glossa-core |
| --- | --- |
| `Rule.ofSpec` | `ParserRule::compile` |
| `BasicRule.ofSpec`, `BasicRule.ofOptions` | `compile_inner` where no cascade is allowed, and its cases |
| `ParserSpec.ofEntry`, `BasicRule.ofEntry` | `compile_branch` |
| `CaptureGroup.ofOption`, `textOption` | `capture_group`, `string_option` |
| `Pattern.ofUser`, `defaultTagPattern` | `pattern::compile`, `DEFAULT_TAG_PATTERN` |
-/

namespace ProfileKit

/-- The text of an option without blanks around it, unless it is blank. -/
def textOption (options : Mapping) (key : String) : Option String :=
  ((options.get? key).bind Json.asString?).bind Text.nonBlank?

/-- The lines of the form `@@id@@text`. -/
def defaultTagPattern : String := "^@@(?P<id>\\d+)@@(?P<text>.*)$"

def invalidEntry {α : Type} (fault : EntryFault) : Except RuleFailure α :=
  .error (.invalidParserEntry fault)

/-- Compiles a pattern after its named groups are spelled alike. -/
def Pattern.ofUser (source : String) (flags : RegexFlags) : Except RuleFailure Pattern :=
  match Pattern.compile? flags.toOptions (Pattern.respellGroups source) with
  | some p => .ok p
  | none => .error (.invalidPattern source)

namespace CaptureGroup

/-- The group of an option: a number, or a text that is one, or a name. -/
def ofOption : Option Json → Except RuleFailure CaptureGroup
  | none | some .null => .ok (.number 0)
  | some (.number (.natural n)) => .ok (.number n)
  | some (.string s) =>
    match Text.nonBlank? s with
    | none => .ok (.number 0)
    | some t => .ok (((Text.natural? t.toList).map .number).getD (.name t))
  | some v => invalidEntry (.invalidGroup v.render)

/-- Refuses a group that a pattern does not have. -/
def checkIn (g : CaptureGroup) (p : Pattern) : Except RuleFailure Unit :=
  match g with
  | .number n => if n < p.groupCount then .ok () else invalidEntry (.noGroup n)
  | .name n => if (p.groupNumber? n).isSome then .ok () else invalidEntry (.noGroupNamed n)

end CaptureGroup

namespace MultiLinePolicy

def ofOption : Option String → Except RuleFailure MultiLinePolicy
  | none => .ok .error
  | some name =>
    if name = "join" then .ok .join
    else if name = "first" then .ok .first
    else if name = "error" then .ok .error
    else invalidEntry (.unknownMultiLine name)

end MultiLinePolicy

def JsonSelector.ofOptions (options : Mapping) : Except RuleFailure JsonSelector :=
  match textOption options "path", textOption options "key" with
  | some p, _ => .ok (.path p)
  | none, some k => .ok (.key k)
  | none, none => .error .missingPath

def TagOrder.ofOptions (options : Mapping) : TagOrder :=
  if RegexFlags.isSet options "sort_by_id" then .id
  else if RegexFlags.isSet options "sort_by_line_number" then .lineNumber
  else .input

def ScriptSource.ofOptions (options : Mapping) : Except RuleFailure ScriptSource :=
  match textOption options "script", textOption options "path" with
  | some code, _ => .ok (.inline code)
  | none, some p => .ok (.file p)
  | none, none => invalidEntry .scriptMissing

/-- Compiles a rule of a type; a cascade is none of the rules that are compiled here. -/
def BasicRule.ofOptions (options : Mapping) : ParserType → Except RuleFailure BasicRule
  | .plain => .ok .plain
  | .lineStrict => do
    return .lineStrict (← MultiLinePolicy.ofOption (textOption options "multi_line"))
  | .jsonObject => do return .jsonObject (← JsonSelector.ofOptions options)
  | .jsonArray => .ok .jsonArray
  | .jsonl => .ok (.jsonl (textOption options "path"))
  | .taggedLine => do
    let flags ← RegexFlags.ofOptions options
    let pattern ← Pattern.ofUser ((textOption options "pattern").getD defaultTagPattern) flags
    return .taggedLine pattern (TagOrder.ofOptions options)
  | .regex =>
    match textOption options "pattern" with
    | none => .error .missingPattern
    | some source => do
      let flags ← RegexFlags.ofOptions options
      let pattern ← Pattern.ofUser source flags
      let group ← CaptureGroup.ofOption (options.get? "group")
      group.checkIn pattern
      return .regex pattern group
  | .python => do
    let source ← ScriptSource.ofOptions options
    match (textOption options "function").or (textOption options "entry") with
    | some function => return .script source function
    | none => invalidEntry .functionMissing
  | .any => invalidEntry .nestedCascade

/-- The type of a specification. -/
def ParserSpec.type? (spec : ParserSpec) : Except RuleFailure ParserType :=
  match spec.typeName with
  | none => invalidEntry .missingType
  | some name =>
    match ParserType.ofName? name with
    | some t => .ok t
    | none => .error (.unsupportedParser name)

/-- Compiles a specification that may not be a cascade. -/
def BasicRule.ofSpec (spec : ParserSpec) : Except RuleFailure BasicRule := do
  BasicRule.ofOptions spec.options (← spec.type?)

/-- Reads an entry of a cascade as a specification. -/
def ParserSpec.ofEntry : Json → Except RuleFailure ParserSpec
  | .object fields =>
    (ParserSpec.codec.read? fields).mapError fun fault =>
      .invalidParserEntry (.unreadable fault.message)
  | _ => invalidEntry .branchNotMapping

/-- Compiles an entry of a cascade. -/
def BasicRule.ofEntry (entry : Json) : Except RuleFailure BasicRule := do
  BasicRule.ofSpec (← ParserSpec.ofEntry entry)

/-- The entries of a cascade, of which there is one at least. -/
def cascadeEntries (options : Mapping) : Except RuleFailure (List Json) :=
  match options.get? "parsers" with
  | none | some .null | some (.array []) => .error .missingAnyParsers
  | some (.array entries) => .ok entries
  | some _ => invalidEntry .branchesNotList

/-- Compiles a specification. -/
def Rule.ofSpec (spec : ParserSpec) : Except RuleFailure Rule := do
  match ← spec.type? with
  | .any => return .cascade ((← cascadeEntries spec.options).map BasicRule.ofEntry)
  | t => return .basic (← BasicRule.ofOptions spec.options t)

end ProfileKit

import ProfileKit.Json.Reader
import ProfileKit.Rule.Compile
import ProfileKit.Rule.Path

/-!
# Running rules

What a rule takes out of a text, or why it takes nothing out. Scripts are run by a runner that is
handed in; without one they are not supported.

| here | `parser` of glossa-core |
| --- | --- |
| `BasicRule.run` with the functions above it | `ParserRule::apply`, a function for each variant |
| `Rule.run` with `runBranches` | `ParserRule::apply`, its variant `Any` |
| `taggedText?`, `TagOrder.sort` | an entry of a tagged line, and how the entries are sorted |
| `ParserSpec.run` | `parser::run_with`, or without a runner `parser::run` |
-/

namespace ProfileKit

/-! ## Lines -/

/-- Makes one line of the lines of a text. -/
def MultiLinePolicy.apply (policy : MultiLinePolicy) (lines : List String) :
    Except RuleFailure RuleOutput :=
  match lines with
  | [] => .ok (.ofText "")
  | [line] => .ok (.ofText line)
  | line :: _ =>
    match policy with
    | .join => .ok (.ofText (" ".intercalate (lines.filter fun l => !Text.isBlankText l)))
    | .first => .ok (.ofText line)
    | .error => .error .multipleLinesDetected

/-! ## JSON -/

/-- Reads a text, blanks around it aside, as JSON. -/
def readTrimmed? (text : String) : Option Json := Json.read? (Text.trim text)

def JsonSelector.select (selector : JsonSelector) (root : Json) : Except RuleFailure Json :=
  match selector with
  | .path p => root.resolve p
  | .key k => ((root.get? k).map .ok).getD (.error (.keyNotFound k))

def runJsonObject (selector : JsonSelector) (text : String) : Except RuleFailure RuleOutput :=
  match readTrimmed? text with
  | some (.object fields) => do return .ofText (← selector.select (.object fields)).extractedText
  | _ => .error .jsonObjectExpected

def runJsonArray (text : String) : Except RuleFailure RuleOutput :=
  match readTrimmed? text with
  | some (.array items) => .ok (.ofLines (items.map Json.extractedText))
  | _ => .error .jsonArrayExpected

/-- What is taken out of one line of JSON, the `number`th one; a blank line gives an empty one. -/
def jsonLine (path : Option String) (number : Nat) (line : String) : Except RuleFailure String :=
  if Text.isBlankText line then .ok ""
  else
    match Json.read? line with
    | none => .error (.invalidJsonLine number)
    | some v =>
      match path with
      | none => .ok v.extractedText
      | some p => (v.resolve p).map Json.extractedText

/-- Takes something out of every line; the lines are numbered from `number` on. -/
def jsonLines (path : Option String) (number : Nat) : List String →
    Except RuleFailure (List String)
  | [] => .ok []
  | line :: rest => do
    let taken ← jsonLine path number line
    let others ← jsonLines path (number + 1) rest
    return taken :: others

/-! ## Patterns -/

/-- The text of a named group in a match. -/
def Pattern.named? (p : Pattern) (groups : Pattern.Captures) (name : String) : Option String :=
  (p.groupNumber? name).bind fun n => groups.getD n none

/-- The text of a numbered group in a match. -/
def Pattern.numbered? (groups : Pattern.Captures) (n : Nat) : Option String := groups.getD n none

/-- The number in a named group. -/
def Pattern.numberIn? (p : Pattern) (groups : Pattern.Captures) (name : String) : Option Nat :=
  (p.named? groups name).bind fun s => Text.natural? (Text.trimChars s.toList)

/-- The number that a tagged line is sorted by. -/
def TagOrder.key? (order : TagOrder) (p : Pattern) (groups : Pattern.Captures) : Option Nat :=
  match order with
  | .input => none
  | .id => p.numberIn? groups "id"
  | .lineNumber => (p.numberIn? groups "line").or (p.numberIn? groups "id")

/-- The number and the text of a line that matches. -/
def taggedText? (p : Pattern) (order : TagOrder) (line : String) : Option (Option Nat × String) :=
  (p.captures? line).map fun groups =>
    let text := ((p.named? groups "text").or (Pattern.numbered? groups 1)).or
      (Pattern.numbered? groups 0)
    (order.key? p groups, text.getD "")

/-- Entries with a number stand before those without one, and lower numbers before higher ones. -/
def tagBefore (a b : Option Nat × String) : Bool :=
  match a.1, b.1 with
  | some m, some n => m ≤ n
  | none, some _ => false
  | _, none => true

/-- The entries in their order; entries with one number keep the order they came in. -/
def TagOrder.sort (order : TagOrder) (entries : List (Option Nat × String)) :
    List (Option Nat × String) :=
  if order = .input then entries else entries.mergeSort tagBefore

def runTaggedLine (p : Pattern) (order : TagOrder) (text : String) :
    Except RuleFailure RuleOutput :=
  match (Text.physicalLines text).filterMap (taggedText? p order) with
  | [] => .error .noTaggedLines
  | entries => .ok (.ofLines ((order.sort entries).map Prod.snd))

def runRegex (p : Pattern) (group : CaptureGroup) (text : String) :
    Except RuleFailure RuleOutput :=
  match p.captures? text with
  | none => .error .patternNotMatched
  | some groups =>
    let taken := match group with
      | .number n => Pattern.numbered? groups n
      | .name n => p.named? groups n
    .ok (.ofText (taken.getD ""))

/-! ## Rules -/

/-- Runs a script, if there is something to run it. -/
def runScript (source : ScriptSource) (function text : String) :
    Option ScriptRunner → Except RuleFailure RuleOutput
  | some run => (run source function text).mapError .scriptRunnerFailed
  | none => .error (.unsupportedParser ParserType.python.name)

def BasicRule.run (rule : BasicRule) (runner : Option ScriptRunner) (text : String) :
    Except RuleFailure RuleOutput :=
  match rule with
  | .plain => .ok (.ofText (Text.dropFinalBreaks text))
  | .lineStrict policy => policy.apply (Text.physicalLines (Text.dropFinalBreaks text))
  | .jsonObject selector => runJsonObject selector text
  | .jsonArray => runJsonArray text
  | .jsonl path =>
    (jsonLines path 1 (Text.physicalLines (Text.dropFinalBreaks text))).map .ofLines
  | .taggedLine pattern order => runTaggedLine pattern order text
  | .regex pattern group => runRegex pattern group text
  | .script source function => runScript source function text runner

/-- Runs the branches of a cascade until one succeeds; if none does, the failure is the last one's,
or else `failure`. -/
def runBranches (runner : Option ScriptRunner) (text : String) (failure : RuleFailure) :
    List (Except RuleFailure BasicRule) → Except RuleFailure RuleOutput
  | [] => .error failure
  | branch :: rest =>
    match branch.bind fun rule => rule.run runner text with
    | .ok output => .ok output
    | .error e => runBranches runner text e rest

def Rule.run (rule : Rule) (runner : Option ScriptRunner) (text : String) :
    Except RuleFailure RuleOutput :=
  match rule with
  | .basic rule => rule.run runner text
  | .cascade branches => runBranches runner text .missingAnyParsers branches

/-- Compiles a specification and runs it. -/
def ParserSpec.run (spec : ParserSpec) (runner : Option ScriptRunner) (text : String) :
    Except RuleFailure RuleOutput := do
  (← Rule.ofSpec spec).run runner text

end ProfileKit

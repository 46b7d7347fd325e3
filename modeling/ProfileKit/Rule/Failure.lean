/-!
# Failures of rules

Why a rule could not be compiled, or took nothing out of a text. Every cause has one code.

| here | `parser::failure` of glossa-core |
| --- | --- |
| `RuleFailure`, `RuleFailure.code` | `ParseFailure`, `code` |
| `RuleFailure.message` | how a failure is displayed |
| `RuleFailure.invalidPattern` | `ParseFailure::InvalidPattern`, with the pattern for the message of the library |
| `EntryFault` | what `ParseFailure::InvalidParserEntry` is made with |
-/

namespace ProfileKit

/-- What is wrong with a rule as it is written down. -/
inductive EntryFault where
  | missingType
  | unknownMultiLine (policy : String)
  | unknownFlag (flag : String)
  | flagNotText
  | flagsNotList
  | invalidGroup (written : String)
  | noGroup (number : Nat)
  | noGroupNamed (name : String)
  | scriptMissing
  | functionMissing
  | nestedCascade
  | branchesNotList
  | branchNotMapping
  /-- The mapping of a branch cannot be read. -/
  | unreadable (why : String)
deriving DecidableEq, Repr

namespace EntryFault

def message : EntryFault → String
  | .missingType => "missing parser type"
  | .unknownMultiLine policy => "unknown multi_line policy '" ++ policy ++ "'"
  | .unknownFlag flag => "unknown regex flag '" ++ flag ++ "'"
  | .flagNotText => "regex flags must be strings"
  | .flagsNotList => "regex flags must be a list or a string"
  | .invalidGroup written => "invalid group " ++ written
  | .noGroup number => "pattern has no group " ++ toString number
  | .noGroupNamed name => "pattern has no group named '" ++ name ++ "'"
  | .scriptMissing => "python parser needs 'script' or 'path'"
  | .functionMissing => "python parser needs 'function' or 'entry'"
  | .nestedCascade => "'any' parsers cannot be nested"
  | .branchesNotList => "'parsers' must be a list"
  | .branchNotMapping => "cascade entries must be mappings"
  | .unreadable why => why

end EntryFault

/-- Why a rule failed. -/
inductive RuleFailure where
  | missingAnyParsers
  | invalidParserEntry (fault : EntryFault)
  | multipleLinesDetected
  | jsonArrayExpected
  | jsonObjectExpected
  | missingPath
  | keyNotFound (key : String)
  | listIndexInvalid (step : String)
  | noTaggedLines
  | missingPattern
  | patternNotMatched
  | invalidPattern (pattern : String)
  /-- Lines count from one. -/
  | invalidJsonLine (line : Nat)
  | unsupportedParser (type : String)
  | scriptRunnerFailed (why : String)
deriving DecidableEq, Repr

namespace RuleFailure

def code : RuleFailure → String
  | .missingAnyParsers => "missing_any_parsers"
  | .invalidParserEntry _ => "invalid_parser_entry"
  | .multipleLinesDetected => "multiple_lines_detected"
  | .jsonArrayExpected => "json_array_expected"
  | .jsonObjectExpected => "json_object_expected"
  | .missingPath => "missing_path"
  | .keyNotFound _ => "key_not_found"
  | .listIndexInvalid _ => "list_index_invalid"
  | .noTaggedLines => "no_tagged_lines"
  | .missingPattern => "missing_pattern"
  | .patternNotMatched => "pattern_not_matched"
  | .invalidPattern _ => "invalid_pattern"
  | .invalidJsonLine _ => "invalid_json_line"
  | .unsupportedParser _ => "unsupported_parser"
  | .scriptRunnerFailed _ => "script_runner_failed"

def message : RuleFailure → String
  | .missingAnyParsers => "'any' parser has no child parsers"
  | .invalidParserEntry fault => "invalid parser entry: " ++ fault.message
  | .multipleLinesDetected => "multiple lines detected where a single line was expected"
  | .jsonArrayExpected => "expected a JSON array"
  | .jsonObjectExpected => "expected a JSON object"
  | .missingPath => "no 'path' or 'key' option given"
  | .keyNotFound key => "key not found: " ++ key
  | .listIndexInvalid step => "invalid list index: " ++ step
  | .noTaggedLines => "no line matched the tag pattern"
  | .missingPattern => "no 'pattern' option given"
  | .patternNotMatched => "pattern did not match"
  | .invalidPattern pattern => "pattern failed to compile: " ++ pattern
  | .invalidJsonLine line => "line " ++ toString line ++ " is not valid JSON"
  | .unsupportedParser type => "unsupported parser: " ++ type
  | .scriptRunnerFailed why => "script runner failed: " ++ why

end RuleFailure
end ProfileKit

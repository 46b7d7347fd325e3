import ProfileKit.CommandLine.Arguments

/-!
# Help

What the program tells about itself: how it is called, its commands, and what the arguments of each
mean. A list of entries is set in two columns. The sentences are the comments on `Cli` and `Commands`
of the program `glossa`.
-/

namespace ProfileKit.CommandLine

/-- A text with blanks after it, so that it is at least so long. -/
def padRight (width : Nat) (s : String) : String :=
  s ++ String.ofList (List.replicate (width - s.length) ' ')

/-- Entries under a title, each a term with its meaning. The terms are as wide as the widest one. -/
def helpSection (title : String) (entries : List (String × String)) : String :=
  let width := entries.foldl (fun n e => max n e.1.length) 0
  "\n" ++ title ++ ":\n"
    ++ String.join (entries.map fun (term, meaning) =>
      "  " ++ padRight width term ++ "  " ++ meaning ++ "\n")

def helpOption : String × String := ("-h, --help", "Print help")

def validatePurpose : String := "Validate every profile under a profile directory and report codes"

def previewPurpose : String := "Run a parser profile against a sample and print what it extracts"

def helpPurpose : String := "Print this message or the help of the given subcommand(s)"

namespace Topic

/-- What a topic is about. -/
def purpose : Topic → String
  | .overview => "A tool for validating translation pipeline profiles"
  | .validate => validatePurpose
  | .preview => previewPurpose
  | .help => helpPurpose

/-- How to call it, after the name of the program. -/
def synopsis : Topic → String
  | .overview => "<COMMAND>"
  | .validate => "validate [OPTIONS] [ROOT]"
  | .preview => "preview [OPTIONS] --parser <PARSER>"
  | .help => "help [COMMAND]..."

/-- The lists of what can be given. -/
def sections : Topic → List String
  | .overview =>
    [helpSection "Commands"
        [("validate", validatePurpose), ("preview", previewPurpose), ("help", helpPurpose)],
      helpSection "Options" [helpOption, ("-V, --version", "Print version")]]
  | .validate =>
    [helpSection "Arguments"
        [("[ROOT]",
          "Profile directory, one subdirectory per kind (default: the configured store root)")],
      helpSection "Options"
        [("-c, --config <CONFIG>", "Configuration file path"),
          ("-v, --verbose", "Also print warnings"), helpOption]]
  | .preview =>
    [helpSection "Options"
        [("    --parser <PARSER>", "Parser profile (YAML or JSON)"),
          ("    --sample <SAMPLE>", "Sample model output (default: stdin)"), helpOption]]
  | .help => [helpSection "Arguments" [("[COMMAND]...", "Print help for the subcommand(s)")]]

/-- The help on a topic of a program of this name. -/
def text (t : Topic) (program : String) : String :=
  t.purpose ++ "\n\nUsage: " ++ program ++ " " ++ t.synopsis ++ "\n" ++ String.join t.sections

end Topic

/-- The version of a program of this name. -/
def versionText (program : String) : String := program ++ " 0.0.0\n"

end ProfileKit.CommandLine

/-!
# Arguments

The command line is a command with options. Options with a value are given as `--name value`,
`--name=value`, or by a letter, which may stand after the letters of flags; after `--` nothing is an
option.

`Command.ofArguments` is how `Cli` of the program `glossa` is read, and `Command` its `Commands`.
-/

namespace ProfileKit.CommandLine

/-- What help is asked for. -/
inductive Topic where
  /-- The program as a whole. -/
  | overview
  | validate
  | preview
  /-- Help itself. -/
  | help
deriving DecidableEq, Repr

/-- What is to be done. -/
inductive Command where
  /-- Checks all profiles of a directory. -/
  | validate (root config : Option String) (verbose : Bool)
  /-- Runs a parser profile on a sample. -/
  | preview (parser : String) (sample : Option String)
  | help (topic : Topic)
  | version
deriving DecidableEq, Repr

/-- An option: its name, its letter, and whether it takes a value. -/
structure OptionSpec where
  name : String
  letter : Option Char
  takesValue : Bool
deriving DecidableEq, Repr

/-- The arguments that a command takes: its options, and the greatest number of operands. -/
structure Grammar where
  options : List OptionSpec
  operandLimit : Nat
deriving DecidableEq, Repr

namespace Grammar

def withName? (g : Grammar) (name : String) : Option OptionSpec :=
  g.options.find? fun s => s.name = name

def withLetter? (g : Grammar) (letter : Char) : Option OptionSpec :=
  g.options.find? fun s => s.letter = some letter

end Grammar

/-- What was read of the arguments. -/
structure Parsed where
  values : List (String × String)
  flags : List String
  operands : List String
  help : Bool
deriving DecidableEq, Repr

namespace Parsed

def empty : Parsed := ⟨[], [], [], false⟩

def value? (p : Parsed) (name : String) : Option String := p.values.lookup name

/-- Gives a value to an option, which can be done once. An empty value is none. -/
def addValue (p : Parsed) (name value : String) : Option Parsed :=
  if value.isEmpty || (p.values.lookup name).isSome then none
  else some { p with values := p.values ++ [(name, value)] }

/-- Sets a flag, which can be done once. -/
def addFlag (p : Parsed) (name : String) : Option Parsed :=
  if p.flags.contains name then none else some { p with flags := p.flags ++ [name] }

/-- Takes an operand, if there may be one more. An empty one is none. -/
def addOperand (p : Parsed) (g : Grammar) (value : String) : Option Parsed :=
  if value.isEmpty || g.operandLimit ≤ p.operands.length then none
  else some { p with operands := p.operands ++ [value] }

end Parsed

/-- An argument that is not an option. -/
def isValue (arg : String) : Bool :=
  match arg.toList with
  | '-' :: _ :: _ => false
  | _ => true

/-- What one argument comes to: it is done with, it waits for its value, or help is asked for. -/
inductive Step where
  | done (p : Parsed)
  | awaits (name : String) (p : Parsed)
  | help
deriving Repr

/-- Reads letters of options. -/
def readLetters (g : Grammar) (p : Parsed) : List Char → Option Step
  | [] => some (.done p)
  | 'h' :: _ => some .help
  | c :: rest => do
    let spec ← g.withLetter? c
    if spec.takesValue then
      match rest with
      | [] => some (.awaits spec.name p)
      | '=' :: value => (p.addValue spec.name (String.ofList value)).map .done
      | value => (p.addValue spec.name (String.ofList value)).map .done
    else readLetters g (← p.addFlag spec.name) rest

/-- Reads the name of an option, with its value if that is part of it. -/
def readName (g : Grammar) (p : Parsed) (cs : List Char) : Option Step :=
  let name := String.ofList (cs.takeWhile (· ≠ '='))
  match cs.dropWhile (· ≠ '=') with
  | [] =>
    if name = "help" then some .help
    else do
      let spec ← g.withName? name
      if spec.takesValue then some (.awaits name p) else (p.addFlag name).map .done
  | _ :: value => do
    let spec ← g.withName? name
    if spec.takesValue then (p.addValue name (String.ofList value)).map .done else none

/-- Reads arguments one after the other. -/
def readAll (g : Grammar) (p : Parsed) : List String → Option Parsed
  | [] => some p
  | arg :: rest =>
    match arg.toList with
    | ['-', '-'] => rest.foldlM (fun p value => p.addOperand g value) p
    | '-' :: '-' :: name => next (readName g p name) rest
    | '-' :: c :: letters => next (readLetters g p (c :: letters)) rest
    | _ => do readAll g (← p.addOperand g arg) rest
where
  /-- Goes on after an argument, with the next one as its value if it waits for one. -/
  next (step : Option Step) (rest : List String) : Option Parsed :=
    match step, rest with
    | some (.done p), rest => readAll g p rest
    | some (.awaits name p), value :: rest => do
      if isValue value then readAll g (← p.addValue name value) rest else none
    | some .help, _ => some { p with help := true }
    | _, _ => none

def validateGrammar : Grammar where
  options := [⟨"config", some 'c', true⟩, ⟨"verbose", some 'v', false⟩]
  operandLimit := 1

def previewGrammar : Grammar where
  options := [⟨"parser", none, true⟩, ⟨"sample", none, true⟩]
  operandLimit := 0

/-- The command that options before any command ask for. -/
def Command.ofOption? (arg : String) : Option Command :=
  match arg.toList with
  | '-' :: 'h' :: _ => some (.help .overview)
  | '-' :: 'V' :: _ => some .version
  | _ =>
    if arg = "--help" then some (.help .overview)
    else if arg = "--version" then some .version
    else none

/-- The help that is asked for by names of commands. -/
def Command.ofHelpNames? : List String → Option Command
  | [] => some (.help .overview)
  | ["validate"] => some (.help .validate)
  | ["preview"] => some (.help .preview)
  | ["help"] => some (.help .help)
  | _ => none

/-- The command that the arguments ask for, if they do ask for one. -/
def Command.ofArguments : List String → Option Command
  | [] => none
  | "help" :: names => Command.ofHelpNames? names
  | "validate" :: args => do
    let p ← readAll validateGrammar .empty args
    if p.help then some (.help .validate)
    else some (.validate p.operands.head? (p.value? "config") (p.flags.contains "verbose"))
  | "preview" :: args => do
    let p ← readAll previewGrammar .empty args
    if p.help then some (.help .preview)
    else some (.preview (← p.value? "parser") (p.value? "sample"))
  | arg :: _ => Command.ofOption? arg

end ProfileKit.CommandLine

import ProfileKit.CommandLine.Help
import ProfileKit.Registry
import ProfileKit.Rule.Run
import ProfileKit.Settings
import ProfileKit.Store.Directory

/-!
# Command line

What each command prints and how it ends, as a function of the files that there are.

| here | the program `glossa` |
| --- | --- |
| `run` | `main` |
| `runValidate`, `runPreview` | what it does for each of its `Commands` |
| `checkAll`, `checkOne` | `validate_all` and the body of its loop |
-/

namespace ProfileKit.CommandLine

/-- How a command ended: its exit code, and what it wrote. -/
structure Outcome where
  code : Nat
  out : String
  err : String
deriving DecidableEq, Repr

namespace Outcome

def success (out : String) : Outcome := ⟨0, out, ""⟩

/-- The command ended with an error of a kind. -/
def failure (label : String) : Outcome := ⟨1, "", "Error: " ++ label⟩

end Outcome

/-- Where a command is run: the name that the program goes by, the files, the current directory, and
what can be read from the input. -/
structure Surroundings where
  program : String
  files : FileTree
  home : FilePath
  input : String

namespace Surroundings

def path (w : Surroundings) (text : String) : FilePath := FilePath.ofText w.home text

/-- The text of a file, if it is there. -/
def fileText? (w : Surroundings) (text : String) : Except ProfileError (Option String) :=
  match w.files.exists? (w.path text) with
  | .ok true =>
    match w.files.readText (w.path text) with
    | .ok content => .ok (some content)
    | .error f => .error (DirectoryStore.errorOf f)
  | _ => .ok none

end Surroundings

/-! ## Checking a directory -/

/-- The settings that a command runs under. -/
def settings (w : Surroundings) (root config : Option String) : Except ProfileError Settings := do
  let base ← match config with
    | some file => Settings.ofFile (← w.fileText? file)
    | none => .ok .default
  return { base with root := root.getD base.root }

/-- The directory of profiles that settings name. -/
def directory (w : Surroundings) (s : Settings) : DirectoryStore where
  root := w.path s.root
  extension := String.ofList (s.extension.toList.dropWhile (· = '.'))

/-- What the check of one profile prints, and whether the profile failed. -/
structure Line where
  out : String
  err : String
  failed : Bool

/-- The findings of a report about a profile. -/
def describe (key : Key) (report : Check.Report) (verbose : Bool) : Line where
  out :=
    let lines (title : String) (codes : List String) :=
      String.join (codes.map fun c => key.render ++ ": " ++ title ++ ": " ++ c ++ "\n")
    lines "error" report.errorCodes ++ if verbose then lines "warning" report.warningCodes else ""
  err := ""
  failed := !report.isOk

/-- Checks one profile. -/
def checkOne (d : DirectoryStore) (files : FileTree) (c : Check.Context) (verbose : Bool)
    (k : Kind) (id : String) : Line :=
  match d.filePath k id with
  | .error e => ⟨"", Key.render ⟨k, id⟩ ++ ": unreadable: " ++ e.message ++ "\n", true⟩
  | .ok path =>
    match files.readText path with
    | .ok text => describe ⟨k, id⟩ (c.checkText k text) verbose
    | .error f => ⟨"", Key.render ⟨k, id⟩ ++ ": unreadable: " ++ f.describe ++ "\n", true⟩

/-- Checks all profiles, kind by kind. -/
def checkAll (d : DirectoryStore) (files : FileTree) (strictTypes verbose : Bool) :
    Except ProfileError (List Line) := do
  let registry : Registry FileTree := { store := d.store, strictTypes }
  let context := registry.context (← (registry.index.eval files).1)
  let lines ← Kind.all.mapM fun k => do
    return (← d.list k files).map fun s => checkOne d files context verbose k s.id
  return lines.flatten

/-- How a check ends. -/
def summarize (lines : List Line) : Outcome :=
  let out := String.join (lines.map Line.out)
  let err := String.join (lines.map Line.err)
  let failed := (lines.filter Line.failed).length
  if failed = 0 then ⟨0, out ++ "All profiles valid\n", err⟩
  else ⟨1, out, err ++ toString failed ++ " profile(s) failed validation\n"⟩

def runValidate (w : Surroundings) (root config : Option String) (verbose : Bool) : Outcome :=
  match settings w root config with
  | .error e => .failure e.label
  | .ok s =>
    if s.root.isEmpty || !w.files.isDirectory (w.path s.root) then
      ⟨1, "", "Error: " ++ s.root ++ " is not a directory\n"⟩
    else
      match checkAll (directory w s) w.files s.strictTypes verbose with
      | .error e => .failure e.label
      | .ok lines => summarize lines

/-! ## Trying a parser -/

/-- A number with blanks before it, so that it takes four places. -/
def padNumber (n : Nat) : String :=
  let ds := toString n
  String.ofList (List.replicate (4 - ds.length) ' ') ++ ds

/-- What was taken out of a sample, with its lines numbered. -/
def printOutput (o : RuleOutput) : String :=
  o.text ++ "\n--- " ++ toString o.lines.length ++ " line(s)\n"
    ++ String.join (o.lines.mapIdx fun i line => padNumber (i + 1) ++ ": " ++ line ++ "\n")

/-- The error of a file that cannot be read. -/
def fileError : Outcome := .failure "Os"

/-- Runs a parser profile on a text. -/
def previewText (spec : ParserSpec) (text : String) : Outcome :=
  match spec.run none text with
  | .ok output => .success (printOutput output)
  | .error e => ⟨1, "", "Error: " ++ e.code ++ "\n"⟩

def runPreview (w : Surroundings) (parser : String) (sample : Option String) : Outcome :=
  match w.files.readText (w.path parser) with
  | .error _ => fileError
  | .ok content =>
    match Profile.parse .parser content with
    | .error e => .failure e.label
    | .ok (.parser p) =>
      match sample with
      | none => previewText p.spec w.input
      | some file =>
        match w.files.readText (w.path file) with
        | .ok text => previewText p.spec text
        | .error _ => fileError
    | .ok _ => ⟨1, "", "Error: " ++ parser ++ " is not a parser profile\n"⟩

/-! ## Commands -/

/-- Runs the command that the arguments ask for. -/
def run (args : List String) (w : Surroundings) : Outcome :=
  match Command.ofArguments args with
  | none => ⟨2, "", Topic.overview.text w.program⟩
  | some (.help topic) => .success (topic.text w.program)
  | some .version => .success (versionText w.program)
  | some (.validate root config verbose) => runValidate w root config verbose
  | some (.preview parser sample) => runPreview w parser sample

/-- The files and directories that a command reads, apart from the directory of profiles. -/
def Command.files : Command → List String
  | .validate _ config _ => config.toList
  | .preview parser sample => parser :: sample.toList
  | _ => []

end ProfileKit.CommandLine

import ProfileKit.CommandLine

/-!
# Program

Reads the files that a command needs and prints what the command has to say: the input and output of
`main` of the program `glossa`, of which `CommandLine.run` is the rest.
-/

open ProfileKit CommandLine

/-- Adds a file or a directory, with what is in it down to a depth, to a tree. -/
def addPath (depth : Nat) (tree : FileTree) (path : String) : IO FileTree := do
  let parts := FilePath.parts path
  if ← (System.mkFilePath [path]).isDir then
    let tree := tree.insert parts .directory
    match depth with
    | 0 => return tree
    | depth + 1 =>
      let entries ← (System.mkFilePath [path]).readDir
      entries.foldlM (fun tree e => addPath depth tree (path ++ "/" ++ e.fileName)) tree
  else if ← (System.mkFilePath [path]).pathExists then
    let bytes ← IO.FS.readBinFile path
    return tree.insert parts (.file bytes.toList)
  else return tree

/-- Adds the directories that a path is in. -/
def addAbove (tree : FileTree) (path : FilePath) : FileTree :=
  (List.range path.length).foldl (fun tree n => tree.insert (path.take n) .directory) tree

/-- The name of this program. -/
def program : String := "profiles"

/-- Runs a command in the current directory. -/
def main (args : List String) : IO UInt32 := do
  let home := FilePath.parts (← IO.currentDir).toString
  let absolute (text : String) : FilePath := FilePath.ofText home text
  let add (depth : Nat) (tree : FileTree) (text : String) : IO FileTree := do
    let path := absolute text
    let tree ← addPath depth tree ("/" ++ "/".intercalate path)
    return addAbove tree path
  let command := Command.ofArguments args
  let mut files : FileTree := []
  for file in (command.map Command.files).getD [] do
    files ← add 0 files file
  let mut input := ""
  match command with
  | some (.validate root config _) =>
    match settings ⟨program, files, home, ""⟩ root config with
    | .ok s => files ← add 2 files s.root
    | .error _ => pure ()
  | some (.preview _ none) => input ← (← IO.getStdin).readToEnd
  | _ => pure ()
  let outcome := run args ⟨program, files, home, input⟩
  IO.print outcome.out
  IO.eprint outcome.err
  return outcome.code.toUInt32

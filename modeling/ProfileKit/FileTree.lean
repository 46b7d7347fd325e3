import ProfileKit.Error
import ProfileKit.Table
import ProfileKit.Text.Lines

/-!
# File trees

A file system as a value: what stands under every path. Links are followed when a path is walked,
up to a limit, so that links in a circle end in a fault.

A tree stands for the file system that `DirProfileStore` of glossa-core works on.
`FilePath.splitExtension` is how `stored_ids` takes a stem and an extension from a path, and `names`
with `isFile` is its walk through a directory.
-/

namespace ProfileKit

/-- A path from the root, by its parts. -/
abbrev FilePath := List String

namespace FilePath

/-- The parts of a written path. -/
def parts (text : String) : List String :=
  ((Text.splitAt (· == '/') text.toList).map String.ofList).filter fun p => p ≠ "" ∧ p ≠ "."

/-- The path that a text means for whoever is in the directory `home`. -/
def ofText (home : FilePath) (text : String) : FilePath :=
  if text.toList.head? == some '/' then parts text else home ++ parts text

/-- A name without its extension, and the extension: what stands after its last point, unless
nothing stands before that. -/
def splitExtension (name : String) : String × Option String :=
  let cs := name.toList
  let after := (cs.reverse.takeWhile (· ≠ '.')).reverse
  if after.length + 1 < cs.length then
    (String.ofList (cs.take (cs.length - after.length - 1)), some (String.ofList after))
  else (name, none)

/-- Paths are ordered part by part. -/
def before : FilePath → FilePath → Bool
  | [], [] => false
  | [], _ :: _ => true
  | _ :: _, [] => false
  | a :: p, b :: q => decide (a < b) || (a == b && before p q)

instance : SortKey FilePath := ⟨before⟩

end FilePath

/-- What stands under a path. -/
inductive FileNode where
  | file (bytes : List UInt8)
  | directory
  | link (target : String)
deriving DecidableEq, Repr

/-- What stands under every path. The root is a directory. -/
abbrev FileTree := Table FilePath FileNode

namespace FileTree

/-- Where a path leads to. -/
inductive Place where
  | found (path : FilePath) (node : FileNode)
  /-- Nothing is there, but the directory that it would be in is. -/
  | free (path : FilePath)
deriving DecidableEq, Repr

/-- How many steps a walk may take, links included. -/
def walkLimit (parts : List String) : Nat := parts.length + 4096

/-- How many links are followed. -/
def linkLimit : Nat := 40

/-- Walks from a directory. The last part is not followed if it is a link and `follow` is false. -/
def walkFrom (t : FileTree) (follow : Bool) :
    (fuel links : Nat) → FilePath → List String → Except FileFault Place
  | 0, _, _, _ => .error .tooManyLinks
  | _ + 1, _, here, [] => .ok (.found here .directory)
  | fuel + 1, links, here, part :: rest =>
    if part = ".." then walkFrom t follow fuel links here.dropLast rest
    else
      let path := here ++ [part]
      match t.get? path with
      | none => if rest.isEmpty then .ok (.free path) else .error .notFound
      | some .directory => walkFrom t follow fuel links path rest
      | some (.file bytes) =>
        if rest.isEmpty then .ok (.found path (.file bytes)) else .error .notADirectory
      | some (.link target) =>
        if rest.isEmpty && !follow then .ok (.found path (.link target))
        else
          match links with
          | 0 => .error .tooManyLinks
          | links + 1 =>
            let start := if target.toList.head? == some '/' then [] else here
            walkFrom t follow fuel links start (FilePath.parts target ++ rest)

def walk (t : FileTree) (follow : Bool) (path : FilePath) : Except FileFault Place :=
  t.walkFrom follow (walkLimit path) linkLimit [] path

/-! ## Looking -/

/-- What a path leads to. -/
def node (t : FileTree) (path : FilePath) : Except FileFault FileNode :=
  match t.walk true path with
  | .ok (.found _ n) => .ok n
  | .ok (.free _) => .error .notFound
  | .error e => .error e

def isDirectory (t : FileTree) (path : FilePath) : Bool :=
  match t.node path with
  | .ok .directory => true
  | _ => false

def isFile (t : FileTree) (path : FilePath) : Bool :=
  match t.node path with
  | .ok (.file _) => true
  | _ => false

/-- Whether a path leads to anything; a fault that leaves this open is told. -/
def exists? (t : FileTree) (path : FilePath) : Except FileFault Bool :=
  match t.node path with
  | .ok _ => .ok true
  | .error .notFound => .ok false
  | .error e => .error e

/-- The text of a file. -/
def readText (t : FileTree) (path : FilePath) : Except FileFault String :=
  match t.node path with
  | .ok (.file bytes) =>
    match String.fromUTF8? ⟨bytes.toArray⟩ with
    | some text => .ok text
    | none => .error .invalidData
  | .ok _ => .error .isADirectory
  | .error e => .error e

/-- The directory that a path leads to. -/
def directory? (t : FileTree) (path : FilePath) : Option FilePath :=
  match t.walk true path with
  | .ok (.found p .directory) => some p
  | _ => none

/-- The names in a directory. -/
def names (t : FileTree) (path : FilePath) : List String :=
  match t.directory? path with
  | none => []
  | some p => t.keys.filterMap fun q =>
    match q.getLast? with
    | some name => if q.dropLast = p then some name else none
    | none => none

/-! ## Changing -/

/-- Puts bytes into a file, which is made if there is none. -/
def writeBytes (t : FileTree) (path : FilePath) (bytes : List UInt8) : Except FileFault FileTree :=
  match t.walk true path with
  | .ok (.found p (.file _)) => .ok (t.insert p (.file bytes))
  | .ok (.found _ _) => .error .isADirectory
  | .ok (.free p) => .ok (t.insert p (.file bytes))
  | .error e => .error e

def writeText (t : FileTree) (path : FilePath) (text : String) : Except FileFault FileTree :=
  t.writeBytes path text.toUTF8.toList

/-- Puts something where nothing is. -/
def create (t : FileTree) (path : FilePath) (n : FileNode) : Except FileFault FileTree :=
  match t.walk false path with
  | .ok (.found _ _) => .error .alreadyExists
  | .ok (.free p) => .ok (t.insert p n)
  | .error e => .error e

/-- Makes a directory and the directories it is in, the last name first; directories that are there
stay. -/
def makeDirectoriesUp (t : FileTree) : List String → Except FileFault FileTree
  | [] => .ok t
  | name :: above =>
    let path := (name :: above).reverse
    match t.create path .directory with
    | .ok t' => .ok t'
    | .error .notFound =>
      match makeDirectoriesUp t above with
      | .error e => .error e
      | .ok t' =>
        match t'.create path .directory with
        | .ok t'' => .ok t''
        | .error e => if t'.isDirectory path then .ok t' else .error e
    | .error e => if t.isDirectory path then .ok t else .error e

def makeDirectories (t : FileTree) (path : FilePath) : Except FileFault FileTree :=
  t.makeDirectoriesUp path.reverse

/-- Removes a file or a link. -/
def removeFile (t : FileTree) (path : FilePath) : Except FileFault FileTree :=
  match t.walk false path with
  | .ok (.found _ .directory) => .error .isADirectory
  | .ok (.found p _) => .ok (t.erase p)
  | .ok (.free _) => .error .notFound
  | .error e => .error e

end FileTree
end ProfileKit

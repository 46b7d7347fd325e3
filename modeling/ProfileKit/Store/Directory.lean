import ProfileKit.FileTree
import ProfileKit.Id
import ProfileKit.Store

/-!
# Store in a directory

One file for each profile, in a directory for its kind, named by its id with an extension.

| here | `store` of glossa-core |
| --- | --- |
| `DirectoryStore`, `store` | `DirProfileStore` and its four functions |
| `kindPath`, `filePath` | `kind_dir`, `profile_path` |
| `storedFiles` | `stored_ids` |
| `checkFree` | the test for a conflict in `save` |
| `errorOf`, `profileError` | `GlossaError::from`, and the cases around it in `load` and `delete` |
-/

namespace ProfileKit

/-- A directory of profiles. -/
structure DirectoryStore where
  root : FilePath
  extension : String
deriving DecidableEq, Repr

namespace DirectoryStore

/-- What is told when a file is not there. -/
def missingFile : String := "No such file or directory (os error 2)"

/-- The error of a fault. -/
def errorOf (f : FileFault) : ProfileError := f.toError missingFile

/-- The error of a fault with the file of a profile. -/
def profileError (k : Kind) (id : String) : FileFault → ProfileError
  | .notFound => .notFound (Key.render ⟨k, id⟩)
  | f => errorOf f

def kindPath (d : DirectoryStore) (k : Kind) : FilePath := d.root ++ [k.name]

/-- The file of a profile below the root. -/
def fileName (d : DirectoryStore) (k : Kind) (id : String) : Except ProfileError String :=
  (Id.check id).map fun _ => k.name ++ "/" ++ id ++ "." ++ d.extension

/-- The file of a profile; an id that is not valid has none. -/
def filePath (d : DirectoryStore) (k : Kind) (id : String) : Except ProfileError FilePath :=
  (Id.check id).map fun _ => d.kindPath k ++ FilePath.parts (id ++ "." ++ d.extension)

/-- The ids for which there is a file, and the names of the files, by id in increasing order. -/
def storedFiles (d : DirectoryStore) (k : Kind) (t : FileTree) : List (String × String) :=
  let dir := d.kindPath k
  let files := (t.names dir).filterMap fun name =>
    let (stem, extension) := FilePath.splitExtension name
    if t.isFile (dir ++ [name]) && extension == some d.extension && Id.isValid stem then
      some (stem, name)
    else none
  files.mergeSort fun a b => !decide (b.1 < a.1)

def list (d : DirectoryStore) (k : Kind) (t : FileTree) : Except ProfileError (List Summary) :=
  (d.storedFiles k t).mapM fun (id, name) =>
    match t.readText (d.kindPath k ++ [name]) with
    | .ok text => .ok (.ofText k id text)
    | .error f => .error (errorOf f)

/-- The text of a profile. -/
def readText (d : DirectoryStore) (k : Kind) (id : String) (t : FileTree) :
    Except ProfileError String := do
  (t.readText (← d.filePath k id)).mapError (profileError k id)

def load (d : DirectoryStore) (k : Kind) (id : String) (t : FileTree) :
    Except ProfileError StoredProfile := do
  StoredProfile.ofText k (← d.readText k id t)

/-- Refuses to replace a file. -/
def checkFree (path : FilePath) (k : Kind) (id : String) (overwrite : Bool) (t : FileTree) :
    Except ProfileError Unit :=
  if overwrite then .ok ()
  else
    match t.exists? path with
    | .ok true => .error (.conflict (Key.render ⟨k, id⟩))
    | .ok false => .ok ()
    | .error f => .error (errorOf f)

def save (d : DirectoryStore) (k : Kind) (id text : String) (overwrite : Bool) (t : FileTree) :
    Except ProfileError (List String) × FileTree :=
  match d.filePath k id with
  | .error e => (.error e, t)
  | .ok path =>
    match checkFree path k id overwrite t with
    | .error e => (.error e, t)
    | .ok () =>
      match t.makeDirectories (d.kindPath k) with
      | .error f => (.error (errorOf f), t)
      | .ok t' =>
        match t'.writeText path text with
        | .error f => (.error (errorOf f), t')
        | .ok t'' => (.ok [], t'')

def delete (d : DirectoryStore) (k : Kind) (id : String) (t : FileTree) :
    Except ProfileError Unit × FileTree :=
  match d.filePath k id with
  | .error e => (.error e, t)
  | .ok path =>
    match t.removeFile path with
    | .error f => (.error (profileError k id f), t)
    | .ok t' => (.ok (), t')

/-- The store. -/
def store (d : DirectoryStore) : Store FileTree where
  list k := .inspect (d.list k)
  load k id := .inspect (d.load k id)
  save k id text overwrite := .ofFunction (d.save k id text overwrite)
  delete k id := .ofFunction (d.delete k id)

end DirectoryStore
end ProfileKit

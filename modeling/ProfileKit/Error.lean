/-!
# Errors

What can go wrong with a profile or the place where it is kept.

| here | `error` of glossa-core |
| --- | --- |
| `ProfileError`, `ProfileError.storage` | `GlossaError`, `GlossaError::Io` |
| `message`, `label` | how an error is displayed, the name of its variant |
| `validationCodes` | `validation_codes` |
| `FileFault.toError` | how `GlossaError` is made from an error of the file system |
-/

namespace ProfileKit

/-- A failed operation of the library. -/
inductive ProfileError where
  /-- There is a profile under this key already. -/
  | conflict (key : String)
  | invalidDocument (why : String)
  | invalidId (id : String)
  | storage (why : String)
  | notFound (what : String)
  | permissionDenied
  /-- A text of settings or a document could not be read or written. -/
  | serialization (why : String)
  /-- The profile has errors, with these codes. -/
  | validation (codes : List String)
deriving DecidableEq, Repr

namespace ProfileError

/-- The error as it is told. -/
def message : ProfileError → String
  | .conflict key => "Profile already exists: " ++ key
  | .invalidDocument why => "Invalid profile document: " ++ why
  | .invalidId id => "Invalid profile id '" ++ id ++ "'"
  | .storage why => "File System error: " ++ why
  | .notFound what => "Item Not Found: " ++ what
  | .permissionDenied => "You do not have permission to access this resource"
  | .serialization why => "(De)Serialization error: " ++ why
  | .validation codes => "Profile failed validation: " ++ ", ".intercalate codes

/-- The name of the kind of error. -/
def label : ProfileError → String
  | .conflict _ => "Conflict"
  | .invalidDocument _ => "InvalidDocument"
  | .invalidId _ => "InvalidId"
  | .storage _ => "Io"
  | .notFound _ => "NotFound"
  | .permissionDenied => "PermissionDenied"
  | .serialization _ => "Serialization"
  | .validation _ => "Validation"

/-- The codes of a failed validation; no other error has any. -/
def validationCodes : ProfileError → List String
  | .validation codes => codes
  | _ => []

end ProfileError

/-- Why an operation on files failed. -/
inductive FileFault where
  | notFound
  | permissionDenied
  | alreadyExists
  | notADirectory
  | isADirectory
  | invalidData
  /-- Links lead in a circle. -/
  | tooManyLinks
deriving DecidableEq, Repr

namespace FileFault

/-- The fault in words. -/
def describe : FileFault → String
  | .notFound => "entity not found"
  | .permissionDenied => "permission denied"
  | .alreadyExists => "entity already exists"
  | .notADirectory => "not a directory"
  | .isADirectory => "is a directory"
  | .invalidData => "invalid data"
  | .tooManyLinks => "filesystem loop or indirection limit (e.g. symlink loop)"

/-- The error of an operation that met a fault; `detail` is what the file system says. -/
def toError (f : FileFault) (detail : String) : ProfileError :=
  match f with
  | .notFound => .notFound detail
  | .permissionDenied => .permissionDenied
  | f => .storage ("IOError: " ++ f.describe)

end FileFault
end ProfileKit

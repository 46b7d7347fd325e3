import ProfileKit.Error
import ProfileKit.Unicode.Decomposition

/-!
# Ids

An id is safe as a file name: letters, digits and underscores of ASCII, and after the first
character also points and dashes, but no two points in a row. An id can be made up from a display
name, and numbered where it is taken.

| here | `properties` of glossa-core |
| --- | --- |
| `isValid`, `check` | `is_valid_id`, `check_id` |
| `isStart`, `isPart`, `hasDots` | the two classes of `PROFILE_ID_RE`, and the test for `..` beside it |
| `derive` | `derive_id`; its loop is `squash`, where `pending` is `pending_sep` |
| `unique` | `unique_id`; its loop is `firstFree`, which ends after enough tries |
-/

namespace ProfileKit.Id

/-- A character that may start an id. -/
def isStart (c : Char) : Bool := c.isAlphanum || c == '_'

/-- A further character of an id. -/
def isPart (c : Char) : Bool := isStart c || c == '.' || c == '-'

/-- Two points in a row occur. -/
def hasDots : List Char → Bool
  | '.' :: '.' :: _ => true
  | _ :: cs => hasDots cs
  | [] => false

/-- Whether a text is a valid id. -/
def isValidChars : List Char → Bool
  | [] => false
  | c :: cs => isStart c && cs.all isPart && !hasDots (c :: cs)

def isValid (id : String) : Bool := isValidChars id.toList

/-- Refuses an id that is not valid. -/
def check (id : String) : Except ProfileError Unit :=
  if isValid id then .ok () else .error (.invalidId id)

/-! ## Ids from names -/

/-- How a character of a decomposed name counts: it is kept, it separates, or it is a mark that is
left out. -/
inductive Role where
  | kept
  | separator
  | mark
deriving DecidableEq

def roleOf (c : Char) : Role :=
  if c.isAlphanum || c == '-' then .kept
  else if 0x80 ≤ c.toNat && !Unicode.alphanumeric.contains c.toNat then .mark
  else .separator

/-- The characters of an id from those of a name; `started` tells that there are some before, and
`pending` that a separator came since. A run of separators becomes one underscore, but none at
either end. -/
def squash (started pending : Bool) : List Char → List Char
  | [] => []
  | c :: cs =>
    match roleOf c with
    | .kept =>
      let rest := c.toLower :: squash true false cs
      if pending && started then '_' :: rest else rest
    | .separator => squash started true cs
    | .mark => squash started pending cs

/-- A stem for what could not be an id: an empty one, or one that starts with a dash. -/
def withStem (cs : List Char) : List Char :=
  if cs.isEmpty || cs.head? == some '-' then "profile".toList ++ cs else cs

/-- The id for a display name. -/
def derive (name : String) : String :=
  String.ofList (withStem (squash false false (Unicode.decompose name.toList)))

/-! ## Numbered ids -/

/-- The id with a number after it. -/
def numbered (base : String) (n : Nat) : String := base ++ "_" ++ toString n

/-- Tries numbers from `n` on until one is free; after as many tries as there are taken ids one has
to be. -/
def firstFree (base : String) (taken : List String) : (tries n : Nat) → String
  | 0, n => numbered base n
  | tries + 1, n =>
    if taken.contains (numbered base n) then firstFree base taken tries (n + 1) else numbered base n

/-- The id itself if it is free, otherwise the id with the least free number from 2 on. -/
def unique (base : String) (taken : List String) : String :=
  if taken.contains base then firstFree base taken taken.length 2 else base

end ProfileKit.Id

import ProfileKit.Json.Printer

/-!
# Fields of a mapping

How the value of one key is read into a typed field and written back. What a field cannot take is a
fault, told apart from the reading, so that the first faulty key of a mapping decides its error.
Numbers that people write by hand are lenient: a value of another shape is kept as it is, for the
checks to name.

| here | `document` of glossa-core |
| --- | --- |
| `Lenient`, `Lenient.valid?` | `Lenient`, `valid` |
| `Field.looseText`, `Misread.notText` | `de_opt_string` and its error; other faults are told by the library |
| `Field.count`, `Field.ratio` | an optional field of type `Lenient`, for integers and for floats |
| `Field.options` | the `options` of `ParserProfile` and `ParserSpec` |
-/

namespace ProfileKit

/-- Why a mapping cannot be read. -/
inductive Misread where
  /-- A list or a mapping stands where a text was expected. -/
  | notText (found : Json)
  | unexpected (wanted : String)
  /-- A key occurs under both of its spellings. -/
  | duplicate (key : String)
deriving Repr

def Misread.message : Misread → String
  | .notText found => "expected a string, found " ++ found.kindName
  | .unexpected wanted => "invalid type, wanted " ++ wanted
  | .duplicate key => "duplicate field " ++ key

/-- A value of the expected shape, or what was found instead. -/
inductive Lenient (α : Type) where
  | valid (a : α)
  | invalid (found : Json)
deriving DecidableEq, Repr

namespace Lenient

def valid? {α : Type} : Lenient α → Option α
  | .valid a => some a
  | .invalid _ => none

def isInvalid {α : Type} : Lenient α → Bool
  | .valid _ => false
  | .invalid _ => true

end Lenient

/-- How the value of a key is taken: what is refused, how the rest is read, and how it is written.
A field that writes nothing is left out. -/
structure Field (α : Type) where
  fault? : Json → Option Misread
  read : Option Json → α
  write : α → Option Json

namespace Field

/-- The text that a string, a number or a truth value is written as. -/
def looseText? : Json → Option String
  | .string s => some s
  | .number n => some (n.render .signed)
  | .bool b => some (if b then "true" else "false")
  | _ => none

/-- A text, for which a number or a truth value may stand. -/
def looseText : Field (Option String) where
  fault?
    | .array xs => some (.notText (.array xs))
    | .object fs => some (.notText (.object fs))
    | _ => none
  read v := v.bind looseText?
  write s := s.map .string

/-- A text. -/
def text : Field (Option String) where
  fault?
    | .null => none
    | .string _ => none
    | _ => some (.unexpected "a string")
  read v := v.bind Json.asString?
  write s := s.map .string

/-- A truth value. -/
def flag : Field (Option Bool) where
  fault?
    | .null => none
    | .bool _ => none
    | _ => some (.unexpected "a boolean")
  read v := v.bind Json.asBool?
  write b := b.map .bool

/-- A value as a natural number. -/
def readCount : Json → Lenient Nat
  | .number (.natural n) => .valid n
  | v => .invalid v

/-- A value as a number of any kind. -/
def readRatio : Json → Lenient Binary64
  | .number n => .valid n.toBinary64
  | v => .invalid v

/-- A value unless it is null. -/
def present : Option Json → Option Json
  | some .null => none
  | v => v

/-- A natural number, leniently. -/
def count : Field (Option (Lenient Nat)) where
  fault? _ := none
  read v := (present v).map readCount
  write n := n.map fun
    | .valid n => .number (.natural n)
    | .invalid v => v

/-- A number, leniently; an integer counts as the float nearest to it. -/
def ratio : Field (Option (Lenient Binary64)) where
  fault? _ := none
  read v := (present v).map readRatio
  write x := x.map fun
    | .valid x => .number (.float x)
    | .invalid v => v

/-- Any value. -/
def anyValue : Field (Option Json) where
  fault? _ := none
  read := present
  write v := v

/-- A list of texts. -/
def texts : Field (Option (List String)) where
  fault?
    | .null => none
    | .array items =>
      if items.all fun v => v.asString?.isSome then none else some (.unexpected "a list of strings")
    | _ => some (.unexpected "a list")
  read
    | some (.array items) => some (items.filterMap Json.asString?)
    | _ => none
  write items := items.map fun xs => .array (xs.map .string)

/-- A mapping of any values; an empty one is left out. -/
def options : Field Mapping where
  fault?
    | .object _ => none
    | _ => some (.unexpected "a mapping")
  read
    | some (.object fields) => fields
    | _ => []
  write fields := if fields.isEmpty then none else some (.object fields)

end Field
end ProfileKit

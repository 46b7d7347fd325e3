import ProfileKit.Yaml.Node
import ProfileKit.Json

/-!
# Reading YAML text

A document is read as a JSON value. A plain scalar is null, a truth value, an integer or a float
when it is written like one, and a string otherwise; a quoted scalar or block is a string. The core
tags ask for one of these; every other tag of the core schema leaves a string, and a local tag is
refused. A float that is not finite is read as null, an integer beyond 64 bits is refused.

The keys of a mapping are scalars, and every scalar is a key by its text. The last of several
entries with one key counts.

`read?` is what `document::parse_yaml_value` reads a text with; `Yaml.Token`, `Yaml.Scalar`,
`Yaml.Scanner` and `Yaml.Node` are the steps before it.
-/

namespace ProfileKit.Yaml

/-- How deep collections may be nested. -/
def maxDepth : Nat := 128

/-- How often an alias may be met for each node of a document. -/
def aliasLimit : Nat := 100

/-! ## Scalars -/

def isNullWord (s : List Char) : Bool :=
  s == ['n', 'u', 'l', 'l'] || s == ['N', 'u', 'l', 'l'] || s == ['N', 'U', 'L', 'L'] || s == ['~']

def truthWord? (s : List Char) : Option Bool :=
  if s == "true".toList || s == "True".toList || s == "TRUE".toList then some true
  else if s == "false".toList || s == "False".toList || s == "FALSE".toList then some false
  else none

/-- The value of digits in a base of at most sixteen, of which there is at least one. -/
def digitsIn? (base : Nat) (ds : List Char) : Option Nat :=
  if ds.isEmpty then none
  else
    ds.foldlM (fun n d => do
      let v ← Json.Reader.hexValue? d
      if v < base then some (n * base + v) else none) 0

/-- Digits with a zero before them are no number. -/
def hasLeadingZero (s : List Char) : Bool :=
  let ds := match s with
    | '-' :: rest => rest
    | '+' :: rest => rest
    | _ => s
  match ds with
  | '0' :: d :: more => (d :: more).all Char.isDigit
  | _ => false

/-- The value of an integer without a sign: hexadecimal, octal or binary after its mark, or
decimal. -/
def magnitude? (s : List Char) : Option Nat :=
  match s with
  | '0' :: 'x' :: ds => digitsIn? 16 ds
  | '0' :: 'o' :: ds => digitsIn? 8 ds
  | '0' :: 'b' :: ds => digitsIn? 2 ds
  | _ => if hasLeadingZero s then none else digitsIn? 10 s

/-- The integer that a scalar is written as: its sign and its magnitude. -/
def integer? (s : List Char) : Option (Bool × Nat) :=
  match s with
  | '-' :: rest => (magnitude? rest).map (true, ·)
  | '+' :: rest => (magnitude? rest).map (false, ·)
  | _ => (magnitude? s).map (false, ·)

/-- What an integer is read as. -/
inductive IntegerSize where
  | fits (n : Json.Number)
  /-- Beyond 64 bits, but not beyond 128. -/
  | tooLarge
  /-- Beyond 128 bits: no integer. -/
  | beyond

def integerSize (negative : Bool) (n : Nat) : IntegerSize :=
  if negative then
    if n = 0 then .fits (.natural 0)
    else if n ≤ Nat.pow 2 63 then .fits (.negative (n - 1))
    else if n ≤ Nat.pow 2 127 then .tooLarge
    else .beyond
  else if n < Nat.pow 2 64 then .fits (.natural n)
  else if n < Nat.pow 2 128 then .tooLarge
  else .beyond

/-- A float that a scalar is written as; null stands for one that is not finite. -/
def float? (s : List Char) : Option Json :=
  let unsigned := match s with
    | '+' :: rest => rest
    | _ => s
  let infinite (w : List Char) : Bool := w == ".inf".toList || w == ".Inf".toList || w == ".INF".toList
  let negativeInfinite := match s with
    | '-' :: rest => infinite rest
    | _ => false
  if infinite unsigned || negativeInfinite then some .null
  else if s == ".nan".toList || s == ".NaN".toList || s == ".NAN".toList then some .null
  else if s.head? == some '+' && (unsigned.head? == some '+' || unsigned.head? == some '-') then none
  else (Binary64.ofText? unsigned).map fun x => .number (.float x)

/-- The value of an integer scalar; the outer option tells that it is one. -/
def readInteger? (s : List Char) : Option (Option Json) :=
  match integer? s with
  | none => none
  | some (negative, n) =>
    match integerSize negative n with
    | .fits k => some (some (.number k))
    | .tooLarge => some none
    | .beyond => none

/-- The value of a plain scalar. -/
def readPlain (text : String) : Option Json :=
  let s := text.toList
  if s.isEmpty || isNullWord s then some .null
  else
    match truthWord? s with
    | some b => some (.bool b)
    | none =>
      match readInteger? s with
      | some v => v
      | none =>
        match (if hasLeadingZero s then none else float? s) with
        | some v => some v
        | none => some (.string text)

/-- The value of a scalar. -/
def readScalar (tag : Option String) (plain : Bool) (text : String) : Option Json :=
  match tag with
  | none => if plain then readPlain text else some (.string text)
  | some t =>
    if t.toList.head? == some '!' then none
    else if t = "tag:yaml.org,2002:bool" then (truthWord? text.toList).map .bool
    else if t = "tag:yaml.org,2002:int" then (readInteger? text.toList).join
    else if t = "tag:yaml.org,2002:float" then float? text.toList
    else if t = "tag:yaml.org,2002:null" then
      if isNullWord text.toList then some .null else none
    else some (.string text)

/-! ## Documents -/

/-- Whether a collection may have a tag: any but a local one. -/
def allowsTag (tag : Option String) : Bool := !tag.any fun t => t.toList.head? == some '!'

/-- The text of a key. -/
def readKey : Node → Option String
  | .scalar _ _ text => some text
  | _ => none

mutual
/-- The value of a node. -/
def readNode : Node → Option Json
  | .scalar tag plain text => readScalar tag plain text
  | .sequence tag items =>
    if allowsTag tag then (readItems items).map .array else none
  | .mapping tag entries =>
    if allowsTag tag then (readEntries [] entries).map .object else none

def readItems : List Node → Option (List Json)
  | [] => some []
  | n :: rest =>
    match readNode n with
    | none => none
    | some v => (readItems rest).map (v :: ·)

def readEntries (acc : Mapping) : List (Node × Node) → Option Mapping
  | [] => some acc
  | (k, n) :: rest =>
    match readKey k, readNode n with
    | some key, some v => readEntries (acc.insert key v) rest
    | _, _ => none
end

/-- Reads a whole text as one document; an empty text is null. -/
def read? (text : String) : Option Json := do
  match ← tree? text with
  | (none, _) => some .null
  | (some t, size) =>
    if maxDepth < t.depth || aliasLimit * size < t.aliases then none else readNode t.node

end ProfileKit.Yaml

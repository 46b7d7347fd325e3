import ProfileKit.Json
import ProfileKit.Decimal.Text

/-!
# Reading JSON text

The grammar is that of JSON without extensions. Arrays and objects may be nested `maxDepth` deep.
The last of several fields with one key counts. An integer that fits neither an unsigned nor a
signed 64-bit word is read as a float.

A decimal is read in two steps: its digits as a natural number below `2 ^ 64`, further digits
dropped, and then its power of ten, each step rounded to binary64. So the last bit of a number with
many digits may differ from the nearest one.

`read?` is what `document::parse_json_value`, `FieldCache::put_json` and the rules for JSON in
`ParserRule::apply` read a text with.
-/

namespace ProfileKit.Json

/-- How deep arrays and objects may be nested. -/
def maxDepth : Nat := 127

namespace Reader

/-- Drops the blanks of the grammar. -/
def skipBlanks : List Char → List Char
  | c :: cs => if c = ' ' ∨ c = '\n' ∨ c = '\t' ∨ c = '\r' then skipBlanks cs else c :: cs
  | [] => []

/-! ## Numbers -/

/-- The bound of the digits that are kept. -/
def digitsBound : Nat := Nat.pow 2 64

/-- Multiplies by a power of ten, by `10 ^ 308` at a time; nothing when the number grows too large. -/
def scaleByTen (fuel : Nat) (x : Binary64) (e : Int) : Option Binary64 :=
  match fuel with
  | 0 => some x
  | fuel + 1 =>
    let power (k : Nat) : Binary64 := (Binary64.ofRatio false (Nat.pow 10 k) 1).getD .zero
    if e.natAbs ≤ 308 then
      if 0 ≤ e then x.mul (power e.natAbs) else x.div (power e.natAbs)
    else if x.mantissa = 0 then some x
    else if 0 ≤ e then none
    else (x.div (power 308)).bind fun y => scaleByTen fuel y (e + 308)

/-- The float of some digits and a power of ten. -/
def floatOf (negative : Bool) (digits : Nat) (e : Int) : Option Number :=
  (scaleByTen 4 (.ofNat digits) e).map fun x => .float (if negative then x.neg else x)

/-- The bound of the digits of an exponent. -/
def exponentBound : Nat := Nat.pow 2 31

/-- Takes the digits of an exponent while their value stays below the bound; the flag tells that
they did. -/
def takeExponent : Nat → List Char → Nat × Bool
  | acc, [] => (acc, true)
  | acc, c :: cs =>
    let n := acc * 10 + (c.toNat - '0'.toNat)
    if n < exponentBound then takeExponent n cs else (acc, false)

/-- Clamps an exponent to a signed 32-bit word. -/
def clampExponent (e : Int) : Int := max (-(exponentBound : Int)) (min (exponentBound - 1) e)

/-- Reads what follows `e`. -/
def readExponent (negative : Bool) (digits : Nat) (start : Int) (cs : List Char) :
    Option (Number × List Char) :=
  let (down, cs) := Binary64.splitSign cs
  let (ds, rest) := Binary64.spanDigits cs
  if ds.isEmpty then none
  else
    let (n, inBound) := takeExponent 0 ds
    if inBound then
      (floatOf negative digits (clampExponent (if down then start - n else start + n))).map (·, rest)
    else if digits ≠ 0 ∧ ¬ down then none
    else
      let zero : Binary64 := .zero
      some (.float (if negative then zero.neg else zero), rest)

/-- Reads an optional exponent and finishes the number. -/
def readScale (negative : Bool) (digits : Nat) (e : Int) : List Char → Option (Number × List Char)
  | c :: cs =>
    if c = 'e' ∨ c = 'E' then readExponent negative digits e cs
    else (floatOf negative digits e).map (·, c :: cs)
  | [] => (floatOf negative digits e).map (·, [])

/-- Takes digits into `acc` while the value stays below the bound: the value, how many were taken,
and those left over. -/
def takeDigits : Nat → Nat → List Char → Nat × Nat × List Char
  | acc, taken, [] => (acc, taken, [])
  | acc, taken, c :: cs =>
    let n := acc * 10 + (c.toNat - '0'.toNat)
    if n < digitsBound then takeDigits n (taken + 1) cs else (acc, taken, c :: cs)

/-- Reads the digits after the point and the rest of the number. -/
def readPart (negative : Bool) (digits : Nat) (e : Int) (cs : List Char) :
    Option (Number × List Char) :=
  let (ds, rest) := Binary64.spanDigits cs
  if ds.isEmpty then none
  else
    let (n, taken, _) := takeDigits digits 0 ds
    readScale negative n (e - taken) rest

/-- An integer in the form that its size asks for; minus zero is a float. -/
def integer (negative : Bool) (n : Nat) : Number :=
  if !negative then .natural n
  else if n = 0 then .float Binary64.zero.neg
  else if n ≤ Nat.pow 2 63 then .negative (n - 1)
  else .float (Binary64.ofNat n).neg

/-- Reads a number whose sign has been taken. -/
def readUnsigned (negative : Bool) (cs : List Char) : Option (Number × List Char) :=
  let (ds, rest) := Binary64.spanDigits cs
  match ds with
  | [] => none
  | '0' :: _ :: _ => none
  | _ =>
    let (n, _, left) := takeDigits 0 0 ds
    let e : Int := left.length
    match rest with
    | '.' :: more => readPart negative n e more
    | _ =>
      if left.isEmpty && !(rest.head? == some 'e' || rest.head? == some 'E') then
        some (integer negative n, rest)
      else readScale negative n e rest

/-! ## Strings -/

def hexValue? (c : Char) : Option Nat :=
  if c.isDigit then some (c.toNat - '0'.toNat)
  else if 'a' ≤ c ∧ c ≤ 'f' then some (c.toNat - 'a'.toNat + 10)
  else if 'A' ≤ c ∧ c ≤ 'F' then some (c.toNat - 'A'.toNat + 10)
  else none

/-- The value of four hexadecimal digits. -/
def hexUnit (a b c d : Char) : Option Nat := do
  return ((← hexValue? a) * 16 + (← hexValue? b)) * 256 + (← hexValue? c) * 16 + (← hexValue? d)

/-- The character of a short escape. -/
def shortEscape? : Char → Option Char
  | '"' => some '"'
  | '\\' => some '\\'
  | '/' => some '/'
  | 'b' => some '\x08'
  | 'f' => some '\x0c'
  | 'n' => some '\n'
  | 'r' => some '\r'
  | 't' => some '\t'
  | _ => none

/-- Reads a string after its opening quote. A surrogate is accepted only as half of a pair. -/
def readString (acc : List Char) : List Char → Option (String × List Char)
  | [] => none
  | '"' :: cs => some (String.ofList acc.reverse, cs)
  | '\\' :: 'u' :: a :: b :: c :: d :: '\\' :: 'u' :: e :: f :: g :: h :: cs =>
    match hexUnit a b c d with
    | none => none
    | some hi =>
      if 0xD800 ≤ hi ∧ hi ≤ 0xDBFF then
        match hexUnit e f g h with
        | none => none
        | some lo =>
          if 0xDC00 ≤ lo ∧ lo ≤ 0xDFFF then
            readString (Char.ofNat (0x10000 + (hi - 0xD800) * 0x400 + (lo - 0xDC00)) :: acc) cs
          else none
      else if 0xDC00 ≤ hi ∧ hi ≤ 0xDFFF then none
      else readString (Char.ofNat hi :: acc) ('\\' :: 'u' :: e :: f :: g :: h :: cs)
  | '\\' :: 'u' :: a :: b :: c :: d :: cs =>
    match hexUnit a b c d with
    | none => none
    | some n => if 0xD800 ≤ n ∧ n ≤ 0xDFFF then none else readString (Char.ofNat n :: acc) cs
  | '\\' :: c :: cs =>
    match shortEscape? c with
    | some e => readString (e :: acc) cs
    | none => none
  | c :: cs => if c.toNat < 0x20 || c = '\\' then none else readString (c :: acc) cs
termination_by cs => cs.length

/-! ## Values -/

/-- Reads a word of the grammar. -/
def readWord (word : List Char) (value : Json) (cs : List Char) : Option (Json × List Char) :=
  if word.isPrefixOf cs then some (value, cs.drop word.length) else none

mutual
/-- Reads a value, blanks before it included. -/
def readValue : (fuel depth : Nat) → List Char → Option (Json × List Char)
  | 0, _, _ => none
  | fuel + 1, depth, cs =>
    match skipBlanks cs with
    | '"' :: cs => (readString [] cs).map fun (s, rest) => (.string s, rest)
    | '[' :: cs =>
      match depth with
      | 0 => none
      | depth + 1 =>
        match skipBlanks cs with
        | ']' :: rest => some (.array [], rest)
        | cs => (readItems fuel depth [] cs).map fun (items, rest) => (.array items, rest)
    | '\x7b' :: cs =>
      match depth with
      | 0 => none
      | depth + 1 =>
        match skipBlanks cs with
        | '\x7d' :: rest => some (.object [], rest)
        | cs => (readFields fuel depth [] cs).map fun (fields, rest) => (.object fields, rest)
    | '-' :: cs => (readUnsigned true cs).map fun (n, rest) => (.number n, rest)
    | cs@('n' :: _) => readWord ['n', 'u', 'l', 'l'] .null cs
    | cs@('t' :: _) => readWord ['t', 'r', 'u', 'e'] (.bool true) cs
    | cs@('f' :: _) => readWord ['f', 'a', 'l', 's', 'e'] (.bool false) cs
    | cs => (readUnsigned false cs).map fun (n, rest) => (.number n, rest)

/-- Reads the items of an array up to its closing bracket. -/
def readItems : (fuel depth : Nat) → List Json → List Char → Option (List Json × List Char)
  | 0, _, _, _ => none
  | fuel + 1, depth, acc, cs =>
    match readValue fuel depth cs with
    | none => none
    | some (v, rest) =>
      match skipBlanks rest with
      | ',' :: rest => readItems fuel depth (v :: acc) rest
      | ']' :: rest => some ((v :: acc).reverse, rest)
      | _ => none

/-- Reads the fields of an object up to its closing brace. -/
def readFields : (fuel depth : Nat) → Mapping → List Char → Option (Mapping × List Char)
  | 0, _, _, _ => none
  | fuel + 1, depth, acc, cs =>
    match skipBlanks cs with
    | '"' :: cs =>
      match readString [] cs with
      | none => none
      | some (key, rest) =>
        match skipBlanks rest with
        | ':' :: rest =>
          match readValue fuel depth rest with
          | none => none
          | some (v, rest) =>
            let acc := acc.insert key v
            match skipBlanks rest with
            | ',' :: rest => readFields fuel depth acc rest
            | '\x7d' :: rest => some (acc, rest)
            | _ => none
        | _ => none
    | _ => none
end

end Reader

/-- Reads a whole text as one value. -/
def read? (text : String) : Option Json :=
  let cs := text.toList
  match Reader.readValue (cs.length + 1) maxDepth cs with
  | some (v, rest) => if (Reader.skipBlanks rest).isEmpty then some v else none
  | none => none

end ProfileKit.Json

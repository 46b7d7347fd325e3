import ProfileKit.Decimal.Shortest

/-!
# Decimal text

How a number is written, given its shortest digits, and how a decimal is read. The two written
formats of the library differ in one point only, the sign of a positive exponent.

`ofText?` reads the floats of YAML, and what was typed in the last try of `sync::forms::put_number`.
-/

namespace ProfileKit.Binary64

/-- The choices of a written form: which decimal exponents are written positionally, and whether a
positive exponent carries its sign. -/
structure Layout where
  leastPositional : Int
  greatestPositional : Int
  plusSign : Bool

/-- From `10 ^ -5` up to below `10 ^ 16` positionally, otherwise `1e+16`. -/
def Layout.signed : Layout := ⟨-5, 15, true⟩

/-- From `10 ^ -5` up to below `10 ^ 16` positionally, otherwise `1e16`. -/
def Layout.unsigned : Layout := ⟨-5, 15, false⟩

def zeros (n : Nat) : List Char := List.replicate n '0'

/-- The digits with a point after the first `whole` of them, padded with zeros on either side; there
is always a digit before and after the point. -/
def positional (digits : List Char) (whole : Int) : List Char :=
  if whole ≤ 0 then ['0', '.'] ++ zeros (-whole).toNat ++ digits
  else
    let w := whole.toNat
    if digits.length ≤ w then digits ++ zeros (w - digits.length) ++ ['.', '0']
    else digits.take w ++ ['.'] ++ digits.drop w

/-- The digits with a point after the first one, and the exponent. -/
def scientific (layout : Layout) (digits : List Char) (e : Int) : List Char :=
  let mantissa := match digits with
    | [] => []
    | [d] => [d]
    | d :: rest => d :: '.' :: rest
  let sign := if e < 0 then ['-'] else if layout.plusSign then ['+'] else []
  mantissa ++ 'e' :: sign ++ Nat.toDigits 10 e.natAbs

/-- The written form of a number. -/
def render (layout : Layout) (x : Binary64) : String :=
  let (c, k) := x.shortest
  let digits := Nat.toDigits 10 c
  let e := (digits.length : Int) + k - 1
  let body :=
    if layout.leastPositional ≤ e ∧ e ≤ layout.greatestPositional then positional digits (e + 1)
    else scientific layout digits e
  String.ofList (if x.negative then '-' :: body else body)

/-- The value of a run of decimal digits read after `acc`. -/
def digitsValue (acc : Nat) (ds : List Char) : Nat :=
  ds.foldl (fun n c => n * 10 + (c.toNat - '0'.toNat)) acc

/-- Splits off the decimal digits at the front. -/
def spanDigits (cs : List Char) : List Char × List Char :=
  (cs.takeWhile Char.isDigit, cs.dropWhile Char.isDigit)

/-- Splits off a sign. -/
def splitSign : List Char → Bool × List Char
  | '-' :: cs => (true, cs)
  | '+' :: cs => (false, cs)
  | cs => (false, cs)

/-- The exponent part of a decimal: nothing, or `e` with an optional sign and some digits. -/
def readExponent : List Char → Option Int
  | [] => some 0
  | c :: cs =>
    if c = 'e' ∨ c = 'E' then
      let (negative, cs) := splitSign cs
      let (ds, rest) := spanDigits cs
      if ds.isEmpty || !rest.isEmpty then none
      else
        let n : Int := digitsValue 0 ds
        some (if negative then -n else n)
    else none

/-- Reads a whole text as a decimal, correctly rounded: an optional sign, digits with an optional
point of which there is at least one, and an optional exponent. A decimal beyond the finite numbers
is refused. -/
def ofText? (text : List Char) : Option Binary64 :=
  let (negative, cs) := splitSign text
  let (whole, cs) := spanDigits cs
  let (part, cs) := match cs with
    | '.' :: rest => spanDigits rest
    | _ => ([], cs)
  if whole.isEmpty && part.isEmpty then none
  else do
    let e ← readExponent cs
    ofDecimal negative (digitsValue 0 (whole ++ part)) (e - part.length)

end ProfileKit.Binary64

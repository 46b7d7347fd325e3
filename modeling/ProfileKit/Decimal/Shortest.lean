import ProfileKit.Decimal.Binary64

/-!
# Shortest decimal digits

The digits by which a binary64 number is written: the fewest that read back as the same number, and
of those the nearest to it. A number reads back exactly when it lies in the interval of reals that
round to it, so the search tests, for one digit, two digits and so on, the two neighbours of the
number on the decimal grid of that many digits.
-/

namespace ProfileKit.Binary64

/-- The reals that round to a number, as numerators over one denominator, with the number itself;
the ends belong to the interval when `closed` holds. -/
structure RoundingInterval where
  low : Nat
  value : Nat
  high : Nat
  den : Nat
  closed : Bool

/-- Half the distance to either neighbour lies inside; below a power of two the lower neighbour is
twice as near. -/
def roundingInterval (x : Binary64) : RoundingInterval :=
  let below := if x.mantissa = Nat.pow 2 52 ∧ x.exponent ≠ minExponent then 1 else 2
  let (scale, den) := match x.exponent - 2 with
    | .ofNat k => (Nat.pow 2 k, 1)
    | .negSucc k => (1, Nat.pow 2 (k + 1))
  { low := (4 * x.mantissa - below) * scale
    value := 4 * x.mantissa * scale
    high := (4 * x.mantissa + 2) * scale
    den := den
    closed := x.mantissa % 2 == 0 }

/-- Whether `n / d` lies in the interval. -/
def RoundingInterval.contains (i : RoundingInterval) (n d : Nat) : Bool :=
  let l := i.low * d
  let v := n * i.den
  let h := i.high * d
  if i.closed then l ≤ v && v ≤ h else l < v && v < h

/-- `c · 10 ^ k` as a ratio. -/
def gridPoint (c : Nat) (k : Int) : Nat × Nat :=
  match k with
  | .ofNat j => (c * Nat.pow 10 j, 1)
  | .negSucc j => (c, Nat.pow 10 (j + 1))

/-- The power of ten at or below `n / d`, searched upward from a guess that is not too large. -/
def decimalMagnitude (n d : Nat) : Nat → Int → Int
  | 0, k => k
  | fuel + 1, k =>
    let (a, b) := gridPoint 1 (k + 1)
    if a * d ≤ n * b then decimalMagnitude n d fuel (k + 1) else k

/-- The multiple of `10 ^ k` that reads back as the number, if a neighbour of it on that grid
does: of two the nearer, of two equally near the even one. -/
def hitOnGrid (i : RoundingInterval) (k : Int) : Option Nat :=
  let (a, b) := gridPoint 1 k
  let c := (i.value * b) / (i.den * a)
  let inside (c : Nat) : Bool := let (n, d) := gridPoint c k; i.contains n d
  match inside c, inside (c + 1) with
  | false, false => none
  | true, false => some c
  | false, true => some (c + 1)
  | true, true =>
    let r := (i.value * b) % (i.den * a)
    let whole := i.den * a
    if 2 * r < whole || (2 * r == whole && c % 2 == 0) then some c else some (c + 1)

/-- Searches the grids of `size`, `size + 1`, … digits. -/
def searchGrids (i : RoundingInterval) (magnitude : Int) : Nat → Nat → Nat × Int
  | 0, _ => (i.value / i.den, 0)
  | fuel + 1, size =>
    let k := magnitude - (size : Int) + 1
    match hitOnGrid i k with
    | some c => (c, k)
    | none => searchGrids i magnitude fuel (size + 1)

/-- Drops the zeros at the end of a digit count, raising the exponent. -/
def stripZeros : Nat → Nat → Int → Nat × Int
  | 0, c, k => (c, k)
  | fuel + 1, c, k => if c ≠ 0 ∧ c % 10 = 0 then stripZeros fuel (c / 10) (k + 1) else (c, k)

/-- The shortest digits `c` and exponent `k` with `c · 10 ^ k` nearest to the number's absolute
value; zero has the digit `0`. -/
def shortest (x : Binary64) : Nat × Int :=
  if x.mantissa = 0 then (0, 0)
  else
    let i := x.roundingInterval
    let guess := ((i.value.log2 : Int) - (i.den.log2 : Int) - 1) * 30103 / 100000 - 2
    let magnitude := decimalMagnitude i.value i.den 8 guess
    let (c, k) := searchGrids i magnitude 17 1
    stripZeros 20 c k

end ProfileKit.Binary64

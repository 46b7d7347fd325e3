/-!
# Finite binary64 numbers

A number is a sign, a mantissa and a binary exponent in the one canonical form that the 64-bit
format has for it, so equal numbers of one sign are equal values. All rounding is done on exact
ratios of natural numbers: to the nearest number of the format, a tie to the even mantissa.
-/

namespace ProfileKit

/-- The finite number `± mantissa · 2 ^ exponent`. In canonical form the mantissa has 53 bits, or
fewer when the exponent is the least one, `-1074`. -/
structure Binary64 where
  negative : Bool
  mantissa : Nat
  exponent : Int
deriving DecidableEq, Repr

namespace Binary64

/-- The least exponent of a mantissa. -/
def minExponent : Int := -1074

/-- The greatest exponent of a mantissa. -/
def maxExponent : Int := 971

def zero : Binary64 := ⟨false, 0, minExponent⟩

instance : Inhabited Binary64 := ⟨zero⟩

/-- The natural number nearest to `n / d`, a tie going to the even one. -/
def roundDiv (n d : Nat) : Nat :=
  let k := n / d
  let r := n % d
  if d < 2 * r || (2 * r == d && k % 2 == 1) then k + 1 else k

/-- `n / d` scaled by `2 ^ (-q)`, as a ratio. -/
def scaleRatio (n d : Nat) (q : Int) : Nat × Nat :=
  match q with
  | .ofNat k => (n, d * Nat.pow 2 k)
  | .negSucc k => (n * Nat.pow 2 (k + 1), d)

/-- The exponent at which `n / d` has a mantissa of 53 bits, cut off below at the least one. -/
def exponentOf (n d : Nat) : Int :=
  let q := (n.log2 : Int) - (d.log2 : Int) - 53
  let (a, b) := scaleRatio n d q
  max minExponent (if Nat.pow 2 53 ≤ a / b then q + 1 else q)

/-- The number nearest to `n / d`, or nothing when it lies beyond the greatest finite one. -/
def ofRatio (negative : Bool) (n d : Nat) : Option Binary64 :=
  if n = 0 then some ⟨negative, 0, minExponent⟩
  else
    let q := exponentOf n d
    let (a, b) := scaleRatio n d q
    let m := roundDiv a b
    let (m, q) := if m = Nat.pow 2 53 then (Nat.pow 2 52, q + 1) else (m, q)
    if maxExponent < q then none else some ⟨negative, m, q⟩

/-- The number nearest to a natural number below `2 ^ 64`. -/
def ofNat (n : Nat) : Binary64 := (ofRatio false n 1).getD zero

def neg (x : Binary64) : Binary64 := { x with negative := !x.negative }

/-- The absolute value as a ratio of natural numbers. -/
def toRatio (x : Binary64) : Nat × Nat :=
  match x.exponent with
  | .ofNat k => (x.mantissa * Nat.pow 2 k, 1)
  | .negSucc k => (x.mantissa, Nat.pow 2 (k + 1))

/-- The product, rounded once. -/
def mul (x y : Binary64) : Option Binary64 :=
  let (a, b) := x.toRatio
  let (c, d) := y.toRatio
  ofRatio (x.negative != y.negative) (a * c) (b * d)

/-- The quotient by a number that is not zero, rounded once. -/
def div (x y : Binary64) : Option Binary64 :=
  let (a, b) := x.toRatio
  let (c, d) := y.toRatio
  ofRatio (x.negative != y.negative) (a * d) (b * c)

/-- The number nearest to `digits · 10 ^ e`, or nothing when it lies beyond the greatest finite
one. Exponents far outside the format's range are settled without computing the power. -/
def ofDecimal (negative : Bool) (digits : Nat) (e : Int) : Option Binary64 :=
  let size : Int := (Nat.toDigits 10 digits).length
  if digits = 0 || size + e < -400 then some ⟨negative, 0, minExponent⟩
  else if 400 < size + e then none
  else
    match e with
    | .ofNat k => ofRatio negative (digits * Nat.pow 10 k) 1
    | .negSucc k => ofRatio negative digits (Nat.pow 10 (k + 1))

/-- Equality of numbers: the two zeros are the same number. -/
def agrees (x y : Binary64) : Bool :=
  x == y || (x.mantissa == 0 && y.mantissa == 0)

/-- The number is above zero and at most one. -/
def isProperShare (x : Binary64) : Bool :=
  let (a, b) := x.toRatio
  !x.negative && 0 < a && a ≤ b

theorem agrees_refl (x : Binary64) : x.agrees x = true := by simp [agrees]

end Binary64
end ProfileKit

/-!
# Punycode

The ASCII form of labels with other characters: the ASCII characters of the label, a dash, and then
the others as numbers that tell how far on the next insertion is, counted over all places and code
points. Numbers are written with digits in base 36 and thresholds that adapt to their size.
-/

namespace ProfileKit.Url.Punycode

/-- The value of a digit. -/
def digit? (c : Char) : Option Nat :=
  if 'a' ≤ c ∧ c ≤ 'z' then some (c.toNat - 'a'.toNat)
  else if 'A' ≤ c ∧ c ≤ 'Z' then some (c.toNat - 'A'.toNat)
  else if '0' ≤ c ∧ c ≤ '9' then some (26 + (c.toNat - '0'.toNat))
  else none

/-- How often a distance has to be divided before it is small. -/
def shrink : (fuel k delta : Nat) → Nat × Nat
  | 0, k, delta => (k, delta)
  | fuel + 1, k, delta => if 455 < delta then shrink fuel (k + 36) (delta / 35) else (k, delta)

/-- The bias after an insertion. -/
def adapt (delta size : Nat) (first : Bool) : Nat :=
  let delta := if first then delta / 700 else delta / 2
  let (k, delta) := shrink 32 0 (delta + delta / size)
  k + 36 * delta / (delta + 38)

/-- Reads one number: what was read so far, the weight of the next digit and its place. -/
def readNumber (bias : Nat) : (value weight k : Nat) → List Char → Option (Nat × List Char)
  | _, _, _, [] => none
  | value, weight, k, c :: cs => do
    let d ← digit? c
    let value := value + d * weight
    let t := if k ≤ bias then 1 else if bias + 26 ≤ k then 26 else k - bias
    if Nat.pow 2 32 ≤ value then none
    else if d < t then some (value, cs)
    else if Nat.pow 2 32 ≤ weight * (36 - t) then none
    else readNumber bias value (weight * (36 - t)) (k + 36) cs

/-- Inserts a value at a place. -/
def insertAt {α : Type} (i : Nat) (a : α) (xs : List α) : List α := xs.take i ++ a :: xs.drop i

/-- Reads the insertions after the ASCII characters of a label. -/
def readInsertions : (fuel n i bias : Nat) → (out : List Nat) → List Char → Option (List Nat)
  | _, _, _, _, out, [] => some out
  | 0, _, _, _, _, _ :: _ => none
  | fuel + 1, n, i, bias, out, c :: cs => do
    let (value, rest) ← readNumber bias 0 1 36 (c :: cs)
    let size := out.length + 1
    let i' := i + value
    let n := n + i' / size
    if n.isValidChar then
      let place := i' % size
      readInsertions fuel n (place + 1) (adapt value size (i == 0)) (insertAt place n out) rest
    else none

/-- Splits at the last dash. -/
def splitBasic (cs : List Char) : List Char × List Char :=
  let tail := (cs.reverse.takeWhile (· ≠ '-')).reverse
  if tail.length = cs.length then ([], cs) else (cs.take (cs.length - tail.length - 1), tail)

/-- The characters of a label that is written in ASCII. -/
def decode? (cs : List Char) : Option (List Char) :=
  let (basic, tail) := splitBasic cs
  (readInsertions tail.length 128 0 72 (basic.map Char.toNat) tail).map (·.map Char.ofNat)

end ProfileKit.Url.Punycode

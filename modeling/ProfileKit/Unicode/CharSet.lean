/-!
# Sets of characters

A set of code points is a sequence of ranges in increasing order, no two of which touch. The set
operations keep that form; membership is a binary search.
-/

namespace ProfileKit.Unicode

/-- A set of code points as inclusive ranges, in increasing order and apart from each other. -/
structure CharSet where
  ranges : Array (Nat × Nat)
deriving DecidableEq, Repr

namespace CharSet

/-- The greatest code point. -/
def maxCodePoint : Nat := 0x10FFFF

def empty : CharSet := ⟨#[]⟩

instance : Inhabited CharSet := ⟨empty⟩

/-- Binary search among the ranges from `lo` up to but not including `hi`. -/
def search (ranges : Array (Nat × Nat)) (n : Nat) : (fuel lo hi : Nat) → Bool
  | 0, _, _ => false
  | fuel + 1, lo, hi =>
    if hi ≤ lo then false
    else
      let mid := (lo + hi) / 2
      let (a, b) := ranges.getD mid (0, 0)
      if n < a then search ranges n fuel lo mid
      else if b < n then search ranges n fuel (mid + 1) hi
      else true

def contains (s : CharSet) (n : Nat) : Bool := search s.ranges n 32 0 s.ranges.size

def isEmpty (s : CharSet) : Bool := s.ranges.isEmpty

/-- The union of ranges given in any order. -/
def ofRanges (ranges : List (Nat × Nat)) : CharSet :=
  let sorted := ranges.mergeSort fun x y => x.1 < y.1 || (x.1 == y.1 && y.2 ≤ x.2)
  let step (acc : List (Nat × Nat)) (r : Nat × Nat) : List (Nat × Nat) :=
    match acc with
    | [] => [r]
    | (a, b) :: more => if r.1 ≤ b + 1 then (a, max b r.2) :: more else r :: (a, b) :: more
  ⟨(sorted.foldl step []).reverse.toArray⟩

def single (n : Nat) : CharSet := ⟨#[(n, n)]⟩

def range (a b : Nat) : CharSet := if a ≤ b then ⟨#[(a, b)]⟩ else empty

def union (s t : CharSet) : CharSet := ofRanges (s.ranges.toList ++ t.ranges.toList)

/-- The gaps between ranges, from `start` on. -/
def gaps (start : Nat) : List (Nat × Nat) → List (Nat × Nat)
  | [] => if start ≤ maxCodePoint then [(start, maxCodePoint)] else []
  | (a, b) :: rest => if start < a then (start, a - 1) :: gaps (b + 1) rest else gaps (b + 1) rest

/-- All code points outside the set. -/
def complement (s : CharSet) : CharSet := ⟨(gaps 0 s.ranges.toList).toArray⟩

def inter (s t : CharSet) : CharSet := (s.complement.union t.complement).complement

def diff (s t : CharSet) : CharSet := s.inter t.complement

/-- The code points in exactly one of two sets. -/
def symmDiff (s t : CharSet) : CharSet := (s.union t).diff (s.inter t)

def ascii : CharSet := range 0 0x7F

def any : CharSet := range 0 maxCodePoint

end CharSet

/-! ## Tables

A table is a text of words. A word is a range of hexadecimal code points, `41-5A` or `AA`, or a name
followed by a colon, under which the ranges after it stand. -/

/-- Splits a text at blanks. -/
def words (text : String) : List (List Char) :=
  let step (acc : List (List Char) × List Char) (c : Char) : List (List Char) × List Char :=
    if c.isWhitespace then (if acc.2.isEmpty then acc else (acc.2.reverse :: acc.1, []))
    else (acc.1, c :: acc.2)
  let (done, last) := text.toList.foldl step ([], [])
  (if last.isEmpty then done else last.reverse :: done).reverse

/-- The value of hexadecimal digits. -/
def hexValue (ds : List Char) : Nat :=
  ds.foldl (fun n c => n * 16 + (if c.isDigit then c.toNat - 48 else c.toNat - 55)) 0

/-- A range word. -/
def readRange (w : List Char) : Nat × Nat :=
  let a := w.takeWhile (· ≠ '-')
  let b := (w.dropWhile (· ≠ '-')).drop 1
  (hexValue a, if b.isEmpty then hexValue a else hexValue b)

/-- The ranges of a table without names. -/
def readRanges (text : String) : CharSet := .ofRanges ((words text).map readRange)

/-- The named sets of a table. -/
def readTable (text : String) : List (String × List (Nat × Nat)) :=
  let step (acc : List (String × List (Nat × Nat))) (w : List Char) :=
    if w.getLast? = some ':' then (String.ofList w.dropLast, []) :: acc
    else
      match acc with
      | [] => []
      | (name, ranges) :: rest => (name, readRange w :: ranges) :: rest
  ((words text).foldl step []).reverse

/-- The union of the sets of a table whose names satisfy `p`. -/
def selectRanges (table : List (String × List (Nat × Nat))) (p : String → Bool) : CharSet :=
  .ofRanges ((table.filter fun e => p e.1).flatMap (·.2))

/-- The code points of a word of dotted hexadecimal numbers. -/
def readDotted (w : List Char) : List Nat :=
  let step (acc : List Nat × List Char) (c : Char) : List Nat × List Char :=
    if c = '.' then (hexValue acc.2.reverse :: acc.1, []) else (acc.1, c :: acc.2)
  let (done, last) := w.foldl step ([], [])
  (hexValue last.reverse :: done).reverse

end ProfileKit.Unicode

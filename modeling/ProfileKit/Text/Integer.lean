/-!
# Integer text

Integers as people type them: decimal digits after an optional sign, within 64 bits.

`natural?` reads what is typed for a number in `sync::forms::put_number`, the segments in
`parser::json::resolve_path`, the group in `parser::rule::capture_group`, and the tags of tagged
lines; `negative?` is the second try of `put_number`.
-/

namespace ProfileKit.Text

/-- The value of a text that is decimal digits and nothing else, of which there is one at least. -/
def digits? (cs : List Char) : Option Nat :=
  if cs.isEmpty || !cs.all Char.isDigit then none
  else some (cs.foldl (fun n c => n * 10 + (c.toNat - '0'.toNat)) 0)

/-- Keeps a number below a limit. -/
def below? (limit : Nat) (n : Nat) : Option Nat := if n < limit then some n else none

/-- A natural number below `2 ^ 64`, after an optional plus sign. -/
def natural? : List Char → Option Nat
  | '+' :: cs => (digits? cs).bind (below? (Nat.pow 2 64))
  | cs => (digits? cs).bind (below? (Nat.pow 2 64))

/-- The magnitude of a number not below `-2 ^ 63`, after a minus sign. -/
def negative? : List Char → Option Nat
  | '-' :: cs => (digits? cs).bind (below? (Nat.pow 2 63 + 1))
  | _ => none

end ProfileKit.Text

/-!
# Blank text

The blank characters of Unicode, and texts without the blanks at their ends.

`nonBlank?` is `document::non_empty` of glossa-core on a text that is there.
-/

namespace ProfileKit.Text

/-- A blank: one of the characters with the property White_Space. -/
def isBlank (c : Char) : Bool :=
  let n := c.toNat
  (0x09 ≤ n && n ≤ 0x0D) || n == 0x20 || n == 0x85 || n == 0xA0 || n == 0x1680
    || (0x2000 ≤ n && n ≤ 0x200A) || n == 0x2028 || n == 0x2029 || n == 0x202F || n == 0x205F
    || n == 0x3000

/-- Drops the characters with a property from the end. -/
def dropWhileEnd (p : Char → Bool) (cs : List Char) : List Char :=
  (cs.reverse.dropWhile p).reverse

/-- Drops the blanks at both ends. -/
def trimChars (cs : List Char) : List Char := dropWhileEnd isBlank (cs.dropWhile isBlank)

/-- The text without the blanks at its ends. -/
def trim (s : String) : String := String.ofList (trimChars s.toList)

/-- The text has no character but blanks. -/
def isBlankText (s : String) : Bool := s.toList.all isBlank

/-- The text without blanks at its ends, if anything is left. -/
def nonBlank? (s : String) : Option String := if isBlankText s then none else some (trim s)

/-- A text occurs inside another. -/
def occurs (part : List Char) : List Char → Bool
  | [] => part.isEmpty
  | c :: cs => part.isPrefixOf (c :: cs) || occurs part cs

end ProfileKit.Text

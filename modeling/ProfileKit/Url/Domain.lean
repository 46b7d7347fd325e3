import ProfileKit.Text.Lines
import ProfileKit.Unicode.Decomposition
import ProfileKit.Unicode.Direction
import ProfileKit.Unicode.Joining
import ProfileKit.Unicode.Lowercase
import ProfileKit.Url.Punycode

/-!
# Domain names

A domain name is mapped to a normal form, in lower case and without compatibility characters, and
then checked label by label: a label has no characters that names may not hold, does not start with
a mark, uses joiners only where they have an effect, and, if any label of the name is written from
right to left, keeps to one direction. A label in ASCII form has to be what a label with other
characters is written as.
-/

namespace ProfileKit.Url.Domain

open Unicode (CharSet)

/-! ## Mapping -/

/-- Characters that are left out. -/
def ignored : CharSet :=
  .ofRanges [(0xAD, 0xAD), (0x34F, 0x34F), (0x180B, 0x180D), (0x180F, 0x180F), (0x200B, 0x200B),
    (0x2060, 0x2060), (0x2064, 0x2064), (0xFE00, 0xFE0F), (0xFEFF, 0xFEFF), (0x1BCA0, 0x1BCA3),
    (0xE0100, 0xE01EF)]

/-- Characters that are kept although they have a compatible form: the sharp s, the final sigma and
the joiners, and signs whose parts stand for themselves in ASCII only. -/
def kept : CharSet :=
  .ofRanges [(0xDF, 0xDF), (0x3C2, 0x3C2), (0x200C, 0x200D), (0x2260, 0x2260), (0x226E, 0x226F)]

/-- Characters that no name may hold: controls, formats, private and unassigned characters,
separators of lines, and some fillers. -/
def disallowed : CharSet :=
  let classes := ["Cc", "Cf", "Cn", "Co", "Cs", "Zl", "Zp"].map Unicode.GeneralCategory.charSet
  let fillers := CharSet.ofRanges [(0x115F, 0x1160), (0x1680, 0x1680), (0x17B4, 0x17B5),
    (0x2FF0, 0x2FFF), (0x3164, 0x3164), (0xFFA0, 0xFFA0), (0xFFFC, 0xFFFD)]
  (classes.foldl CharSet.union fillers).diff CharSet.ascii

/-- What a character is mapped to. The full stops of other scripts separate labels; a character of
which only a part is a full stop is refused. -/
def mapChar? (c : Char) : Option (List Char) :=
  if c.toNat < 0x80 then some [c.toLower]
  else if ignored.contains c.toNat then some []
  else if kept.contains c.toNat then some [c]
  else if c = '\u3002' ∨ c = '\uff0e' ∨ c = '\uff61' then some ['.']
  else if disallowed.contains c.toNat then none
  else
    let parts := (Unicode.decomposeChar c).flatMap Unicode.lowercaseChar
    if parts.contains '.' then none else some parts

/-! ## Labels -/

/-- ASCII characters that separate the parts of an address, or cannot be seen. -/
def isForbidden (c : Char) : Bool :=
  c.toNat ≤ 0x20 || c.toNat == 0x7F
    || ['%', '#', '/', ':', '<', '>', '?', '@', '[', '\\', ']', '^', '\x60', '\x7b', '|',
      '\x7d'].contains c

def isAscii (cs : List Char) : Bool := cs.all fun c => c.toNat < 0x80

def marks : CharSet := Unicode.GeneralCategory.charSet "M"

/-- A non-joiner has an effect between letters that would join. -/
def separatesLetters (before after : List Char) : Bool :=
  let seen (cs : List Char) := cs.dropWhile fun c => Unicode.Joining.transparent.contains c.toNat
  match (seen before).head?, (seen after).head? with
  | some a, some b =>
    Unicode.Joining.toNext.contains a.toNat && Unicode.Joining.toPrevious.contains b.toNat
  | _, _ => false

/-- Joiners stand where they have an effect; `before` is what came before, the last character
first. -/
def joinersFit (before : List Char) : List Char → Bool
  | [] => true
  | c :: cs =>
    let afterVirama := match before with
      | b :: _ => Unicode.Joining.virama.contains b.toNat
      | [] => false
    (if c = '\u200d' then afterVirama
      else if c = '\u200c' then afterVirama || separatesLetters before cs
      else true) && joinersFit (c :: before) cs

/-- A label is written in one direction. -/
def keepsDirection (cs : List Char) : Bool :=
  let isIn (s : CharSet) (c : Char) := s.contains c.toNat
  let last := (cs.reverse.dropWhile (isIn Unicode.Direction.mark)).head?
  let endsIn (classes : List CharSet) := match last with
    | some c => classes.any fun s => isIn s c
    | none => false
  match cs.head? with
  | none => true
  | some c =>
    if isIn Unicode.Direction.right c then
      !cs.any (isIn Unicode.Direction.left)
        && endsIn [Unicode.Direction.right, Unicode.Direction.europeanNumber,
          Unicode.Direction.arabicNumber]
        && !(cs.any (isIn Unicode.Direction.europeanNumber)
          && cs.any (isIn Unicode.Direction.arabicNumber))
    else if isIn Unicode.Direction.left c then
      !cs.any (isIn Unicode.Direction.right) && !cs.any (isIn Unicode.Direction.arabicNumber)
        && endsIn [Unicode.Direction.left, Unicode.Direction.europeanNumber]
    else false

/-- A label holds what a label may hold. -/
def isLabel (cs : List Char) : Bool :=
  !cs.any isForbidden
    && (match cs.head? with
      | some c => !marks.contains c.toNat
      | none => true)
    && joinersFit [] cs

/-! ## Labels in ASCII form -/

def asciiMark : List Char := ['x', 'n', '-', '-']

/-- Characters of presentation forms, which never stand in a normal form. -/
def presentationForms : CharSet := .ofRanges [(0xFB00, 0xFDFF), (0xFE70, 0xFEFF)]

/-- A character that mapping leaves alone, or only takes apart into a letter and its marks. -/
def isStable (c : Char) : Bool :=
  match mapChar? c with
  | none => false
  | some parts =>
    parts == [c]
      || ((Unicode.lowercaseChar c == [c]) && !presentationForms.contains c.toNat
        && ((0xAC00 ≤ c.toNat && c.toNat ≤ 0xD7A3)
          || (match parts with
            | a :: b :: rest =>
              !marks.contains a.toNat && (b :: rest).all fun d => marks.contains d.toNat
            | _ => false)))

/-- A character and the one after it are the parts of another character. -/
def composes (a b : Char) : Bool :=
  let parts := (Unicode.decomposeChar a ++ [b]).map Char.toNat
  Unicode.decompositions.any (·.2 == parts)

def hasComposable : List Char → Bool
  | a :: b :: rest => (marks.contains b.toNat && composes a b) || hasComposable (b :: rest)
  | _ => false

/-- The characters of a label, which may be in ASCII form. -/
def readLabel (cs : List Char) : Option (List Char) :=
  if !asciiMark.isPrefixOf cs then some cs
  else
    let rest := cs.drop asciiMark.length
    if !isAscii rest || rest.getLast? == some '-' then none
    else do
      let label ← Punycode.decode? rest
      if isAscii label || !label.all isStable || hasComposable label then none else some label

/-! ## Names -/

/-- The labels of a domain name, or nothing if it is none. -/
def labels? (name : List Char) : Option (List (List Char)) := do
  let mapped ← name.mapM mapChar?
  let labels ← (Text.splitAt (· == '.') mapped.flatten).mapM readLabel
  let rightToLeft := labels.any fun l => l.any fun c =>
    Unicode.Direction.right.contains c.toNat || Unicode.Direction.arabicNumber.contains c.toNat
  if labels.all isLabel && (!rightToLeft || labels.all keepsDirection) then some labels else none

end ProfileKit.Url.Domain

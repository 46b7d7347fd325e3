/-!
# Tokens of YAML

The tokens that a stream of characters is cut into, and the classes of characters that decide where
it is cut. The indentation of the block style has become tokens of its own: a block collection
starts and ends with one.
-/

namespace ProfileKit.Yaml

/-- A token. A scalar holds its value, with escapes and folded lines worked out; `plain` tells that
it was written without quotes and not as a block. -/
inductive Token where
  | streamEnd
  | versionDirective (major minor : Nat)
  | tagDirective (handle stem : String)
  | documentStart
  | documentEnd
  | blockSequenceStart
  | blockMappingStart
  | blockEnd
  | flowSequenceStart
  | flowSequenceEnd
  | flowMappingStart
  | flowMappingEnd
  | blockEntry
  | flowEntry
  | key
  | value
  | alias (name : String)
  | anchor (name : String)
  | tag (handle suffix : String)
  | scalar (text : String) (plain : Bool)
deriving DecidableEq, Repr

/-- A line break. -/
def isBreak (c : Char) : Bool :=
  c == '\n' || c == '\r' || c == '\u0085' || c == '\u2028' || c == '\u2029'

/-- A blank within a line. -/
def isSpace (c : Char) : Bool := c == ' ' || c == '\t'

/-- A letter of names: of anchors, tag handles and directives. -/
def isNameChar (c : Char) : Bool := c.isAlphanum || c == '_' || c == '-'

/-- A character that may stand in a stream. -/
def isAllowed (c : Char) : Bool :=
  let n := c.toNat
  n == 0x09 || n == 0x0A || n == 0x0D || (0x20 ≤ n && n ≤ 0x7E) || n == 0x85
    || (0xA0 ≤ n && n ≤ 0xD7FF) || (0xE000 ≤ n && n ≤ 0xFFFD) || 0x10000 ≤ n

/-- The byte order mark, which may start a line. -/
def isByteOrderMark (c : Char) : Bool := c == '\ufeff'

/-- A place in a stream: the characters from there on, how many came before, and the place in lines
and columns. -/
structure Cursor where
  rest : List Char
  index : Nat
  line : Nat
  column : Nat

namespace Cursor

def peek (c : Cursor) : Option Char := c.rest.head?

def peekAt (c : Cursor) (k : Nat) : Option Char := c.rest[k]?

/-- Whether the character `k` places on satisfies `p`; none does at the end of the stream. -/
def looksAt (c : Cursor) (p : Char → Bool) (k : Nat) : Bool := (c.peekAt k).any p

/-- Whether the character `k` places on is a blank, a break or the end of the stream. -/
def isGapAt (c : Cursor) (k : Nat) : Bool :=
  match c.peekAt k with
  | none => true
  | some d => isSpace d || isBreak d

/-- Whether the character here is a break, or the end of the stream. -/
def isLineEnd (c : Cursor) : Bool :=
  match c.peek with
  | none => true
  | some d => isBreak d

/-- Moves on by `n` characters of one line. -/
def skipBy (c : Cursor) (n : Nat) : Cursor :=
  { c with rest := c.rest.drop n, index := c.index + n, column := c.column + n }

def skip (c : Cursor) : Cursor := c.skipBy 1

/-- Reads a line break: its text in the value of a scalar, and the place after it. -/
def takeBreak (c : Cursor) : List Char × Cursor :=
  let next (n : Nat) : Cursor :=
    { rest := c.rest.drop n, index := c.index + n, line := c.line + 1, column := 0 }
  match c.rest with
  | '\r' :: '\n' :: _ => (['\n'], next 2)
  | '\u2028' :: _ => (['\u2028'], next 1)
  | '\u2029' :: _ => (['\u2029'], next 1)
  | d :: _ => if isBreak d then (['\n'], next 1) else ([], c)
  | [] => ([], c)

/-- Moves past a line break. -/
def skipBreak (c : Cursor) : Cursor := c.takeBreak.2

/-- Reads the characters of one line as long as they satisfy `p`. -/
def takeWhile (c : Cursor) (p : Char → Bool) : List Char × Cursor :=
  let taken := c.rest.takeWhile p
  (taken, c.skipBy taken.length)

def skipWhile (c : Cursor) (p : Char → Bool) : Cursor := (c.takeWhile p).2

/-- Moves past blanks, and a comment if one follows. -/
def skipToLineEnd (c : Cursor) : Cursor :=
  let c := c.skipWhile isSpace
  if c.peek == some '#' then c.skipWhile (fun d => !isBreak d) else c

/-- Whether a line starts here with three times `d` and then a gap. -/
def isDocumentMarker (c : Cursor) (d : Char) : Bool :=
  c.column == 0 && c.peekAt 0 == some d && c.peekAt 1 == some d && c.peekAt 2 == some d && c.isGapAt 3

end Cursor
end ProfileKit.Yaml

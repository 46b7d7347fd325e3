import ProfileKit.Yaml.Reader
import ProfileKit.Json.Printer

/-!
# Writing YAML text

A value is written in the block style, two spaces to a level; sequences in a mapping are not
indented, and only empty collections use the flow style. A string of several lines is a literal
block. Another string is plain where it would be read back as the same string, in single quotes
where that is not so, and in double quotes where it holds what only an escape can write.

`render` is how `ProfileDocument::to_yaml` and `SyncEngine::to_document` write a mapping.
-/

namespace ProfileKit.Yaml

/-! ## The form of a string -/

/-- A character that is written as itself. -/
def isPrintable (c : Char) : Bool :=
  let n := c.toNat
  n == 0x0A || (0x20 ≤ n && n ≤ 0x7E) || (0xA0 ≤ n && n ≤ 0xD7FF)
    || (0xE000 ≤ n && n ≤ 0xFFFD && n != 0xFEFF) || 0x10000 ≤ n

/-- A character that makes a string start like something else than a plain scalar. -/
def isStartIndicator (c : Char) : Bool :=
  c == '#' || isFlowIndicator c || c == '&' || c == '*' || c == '!' || c == '|' || c == '>'
    || c == '\'' || c == '"' || c == '%' || c == '@' || c == '\x60'

def isGap (c : Char) : Bool := isSpace c || isBreak c

/-- Whether the characters start with a gap or are at an end. -/
def startsGap : List Char → Bool
  | [] => true
  | c :: _ => isGap c

/-- Whether an indicator of the block style occurs after the first character; `spaced` tells that a
gap comes before. -/
def hasInnerIndicator (spaced : Bool) : List Char → Bool
  | [] => false
  | c :: cs =>
    (c == ':' && startsGap cs) || (c == '#' && spaced) || hasInnerIndicator (isGap c) cs

/-- Whether the string has an indicator of the block style. -/
def hasIndicator : List Char → Bool
  | [] => false
  | c :: cs =>
    ['-', '-', '-'].isPrefixOf (c :: cs) || ['.', '.', '.'].isPrefixOf (c :: cs)
      || isStartIndicator c || ((c == '?' || c == ':' || c == '-') && startsGap cs)
      || hasInnerIndicator (isGap c) cs

/-- Whether a character of the first kind is followed by one of the second. -/
def hasPair (p q : Char → Bool) : List Char → Bool
  | a :: b :: cs => (p a && q b) || hasPair p q (b :: cs)
  | _ => false

/-- What a string allows. -/
structure Forms where
  multiline : Bool
  plain : Bool
  singleQuoted : Bool
  literal : Bool

/-- The forms in which a string can be written in the block style. -/
def formsOf (cs : List Char) : Forms :=
  let isBlank (c : Char) : Bool := c == ' '
  let multiline := cs.any isBreak
  let special := !cs.all isPrintable
  let breakSpace := hasPair isBreak isBlank cs
  let spaceBreak := hasPair isBlank isBreak cs
  let edge (c : Option Char) : Bool := c.any fun c => isBlank c || isBreak c
  if cs.isEmpty then ⟨false, true, true, false⟩
  else
    { multiline
      plain := !(edge cs.head? || edge cs.getLast? || breakSpace || spaceBreak || special
        || multiline || hasIndicator cs)
      singleQuoted := !(breakSpace || spaceBreak || special)
      literal := !(cs.getLast? == some ' ' || spaceBreak || special) }

/-- How a scalar is written. -/
inductive Style where
  | plain
  | single
  | double
  | literal
deriving DecidableEq

/-- Whether a plain scalar with this text would not be read as a string, or looks like a number. -/
def needsQuotes (s : String) : Bool :=
  hasLeadingZero s.toList ||
    match s.toList.isEmpty, readPlain s with
    | true, _ => true
    | _, some (.string _) => false
    | _, _ => true

/-- The style of a string, as a key on the line of its value or elsewhere. -/
def styleOf (simpleKey : Bool) (s : String) : Style :=
  let forms := formsOf s.toList
  let wished :=
    if s.toList.contains '\n' then .literal
    else if needsQuotes s then .single
    else Style.plain
  let wished := if simpleKey && forms.multiline then .double else wished
  match wished with
  | .plain =>
    if !forms.plain || (s.isEmpty && simpleKey) then
      if forms.singleQuoted then .single else .double
    else .plain
  | .single => if forms.singleQuoted then .single else .double
  | .literal => if !forms.literal || simpleKey then .double else .literal
  | .double => .double

/-! ## The text of a string -/

/-- The output so far, in reverse, with the column reached, whether only indentation stands before
it in its line, and whether it ends in a gap. -/
structure Output where
  text : List Char := []
  column : Nat := 0
  indented : Bool := true
  spaced : Bool := true

namespace Output

def char (o : Output) (c : Char) : Output :=
  { o with text := c :: o.text, column := o.column + 1, indented := false, spaced := false }

def chars (o : Output) (cs : List Char) : Output := cs.foldl char o

/-- A line break of the value: a line feed or a break of another kind, which is kept. -/
def lineBreak (o : Output) (c : Char) : Output :=
  { o with text := c :: o.text, column := 0, indented := true, spaced := true }

/-- Starts a line at an indentation, unless the output is there already. -/
def newLine (o : Output) (indent : Nat) : Output :=
  let o :=
    if !o.indented || indent < o.column || (o.column = indent && !o.spaced) then o.lineBreak '\n'
    else o
  let pad := indent - o.column
  { o with
    text := List.replicate pad ' ' ++ o.text, column := o.column + pad
    indented := true, spaced := true }

/-- An indicator, after a space where one is needed. -/
def indicator (o : Output) (cs : List Char) (needsSpace gap indention : Bool) : Output :=
  let wasIndented := o.indented
  let o := if needsSpace && !o.spaced then o.char ' ' else o
  let o := o.chars cs
  { o with spaced := gap, indented := wasIndented && indention }

end Output

/-- The characters of a scalar in single quotes. -/
def putSingle (indent : Nat) : List Char → (broken : Bool) → Output → Output
  | [], broken, o => if broken then o.newLine indent else o
  | c :: cs, broken, o =>
    if isBreak c then
      let o := if !broken && c == '\n' then o.lineBreak '\n' else o
      putSingle indent cs true (o.lineBreak c)
    else
      let o := if broken then o.newLine indent else o
      putSingle indent cs false (if c == '\'' then o.chars ['\'', '\''] else o.char c)

/-- Upper-case hexadecimal digits. -/
def hexDigits (width n : Nat) : List Char :=
  let ds := (Nat.toDigits 16 n).map Char.toUpper
  List.replicate (width - ds.length) '0' ++ ds

/-- A character in double quotes. -/
def escapeDouble (c : Char) : List Char :=
  let n := c.toNat
  if isPrintable c && !isBreak c && c != '"' && c != '\\' then [c]
  else if n = 0 then ['\\', '0']
  else if n = 0x07 then ['\\', 'a']
  else if n = 0x08 then ['\\', 'b']
  else if n = 0x09 then ['\\', 't']
  else if n = 0x0A then ['\\', 'n']
  else if n = 0x0B then ['\\', 'v']
  else if n = 0x0C then ['\\', 'f']
  else if n = 0x0D then ['\\', 'r']
  else if n = 0x1B then ['\\', 'e']
  else if n = 0x22 then ['\\', '"']
  else if n = 0x5C then ['\\', '\\']
  else if n = 0x85 then ['\\', 'N']
  else if n = 0xA0 then ['\\', '_']
  else if n = 0x2028 then ['\\', 'L']
  else if n = 0x2029 then ['\\', 'P']
  else if n ≤ 0xFF then '\\' :: 'x' :: hexDigits 2 n
  else if n ≤ 0xFFFF then '\\' :: 'u' :: hexDigits 4 n
  else '\\' :: 'U' :: hexDigits 8 n

/-- The lines of a literal block. -/
def putLines (indent : Nat) : List Char → (broken : Bool) → Output → Output
  | [], _, o => o
  | c :: cs, broken, o =>
    if isBreak c then putLines indent cs true (o.lineBreak c)
    else putLines indent cs false ((if broken then o.newLine indent else o).char c)

/-- The marks after the bar of a literal block: the indentation where the block starts with a gap,
and what becomes of its last breaks. -/
def blockHints (cs : List Char) : List Char :=
  let indentation := if cs.head?.any (fun c => c == ' ' || isBreak c) then ['2'] else []
  let chomping := match cs.reverse with
    | [] => ['-']
    | [c] => if isBreak c then ['+'] else ['-']
    | c :: d :: _ => if !isBreak c then ['-'] else if isBreak d then ['+'] else []
  indentation ++ chomping

/-- Writes a string; `indent` is the indentation of its further lines. -/
def putString (indent : Nat) (simpleKey : Bool) (s : String) (o : Output) : Output :=
  let cs := s.toList
  match styleOf simpleKey s with
  | .plain =>
    let o := if !o.spaced && !cs.isEmpty then o.char ' ' else o
    { o.chars cs with spaced := false, indented := false }
  | .single =>
    let o := o.indicator ['\''] true false false
    let o := putSingle indent cs false o
    { o.indicator ['\''] false false false with spaced := false, indented := false }
  | .double =>
    let o := o.indicator ['"'] true false false
    let o := o.chars (cs.flatMap escapeDouble)
    { o.indicator ['"'] false false false with spaced := false, indented := false }
  | .literal =>
    let o := o.indicator ['|'] true false false
    let o := o.chars (blockHints cs)
    putLines indent cs true (o.lineBreak '\n')

/-- Writes a word of the core schema or a number. -/
def putWord (w : String) (o : Output) : Output :=
  (if o.spaced then o else o.char ' ').chars w.toList

/-! ## Collections -/

/-- How many bytes a key may have on the line of its value. -/
def simpleKeyLimit : Nat := 128

/-- A key that stands on the line of its value: short, and of one line. -/
def isSimpleKey (key : String) : Bool :=
  !key.toList.any isBreak && key.utf8ByteSize ≤ simpleKeyLimit

mutual
/-- Writes a value that stands in a block at an indentation; at the root there is none. A sequence
right in a mapping keeps the indentation of the mapping. -/
def putValue (parent : Option Nat) (inMapping : Bool) : Json → Output → Output
  | .null, o => putWord "null" o
  | .bool true, o => putWord "true" o
  | .bool false, o => putWord "false" o
  | .number n, o => putWord (n.render .unsigned) o
  | .string s, o => putString ((parent.map (· + 2)).getD 2) false s o
  | .array [], o => (o.indicator ['['] true true false).indicator [']'] false false false
  | .object [], o =>
    (o.indicator ['\x7b'] true true false).indicator ['\x7d'] false false false
  | .array (v :: items), o =>
    let indent :=
      match parent with
      | none => 0
      | some n => if inMapping && !o.indented then n else n + 2
    putItems indent (v :: items) o
  | .object (f :: fields), o =>
    let indent := match parent with
      | none => 0
      | some n => n + 2
    putFields indent (f :: fields) o

def putItems (indent : Nat) : List Json → Output → Output
  | [], o => o
  | v :: rest, o =>
    let o := (o.newLine indent).indicator ['-'] true false true
    putItems indent rest (putValue (some indent) false v o)

def putFields (indent : Nat) : List (String × Json) → Output → Output
  | [], o => o
  | (k, v) :: rest, o =>
    let o := o.newLine indent
    let o :=
      if isSimpleKey k then (putString (indent + 2) true k o).indicator [':'] false false false
      else
        let o := o.indicator ['?'] true false true
        let o := (putString (indent + 2) false k o).newLine indent
        o.indicator [':'] true false true
    putFields indent rest (putValue (some indent) true v o)
end

/-- The text of a value as one document. -/
def render (v : Json) : String :=
  String.ofList ((putValue none false v {}).newLine 0).text.reverse

end ProfileKit.Yaml

import ProfileKit.Yaml.Scalar

/-!
# Cutting a stream into tokens

A key of the block style is known for a key only by the colon after it. So a place where a key may
start is remembered, with the number of the token that would be the key, until a colon confirms it,
the line ends, or 1024 characters have gone by; a confirmed key gets its tokens put in before it.
Every open flow collection has a place of its own to remember.
-/

namespace ProfileKit.Yaml

/-- A place where a key may have started. A required key has to be confirmed: it stands at the
indentation of the block around it. -/
structure PendingKey where
  required : Bool
  /-- How many tokens come before the key. -/
  position : Nat
  index : Nat
  line : Nat
  column : Nat

/-- How many characters a key may have. -/
def keyLimit : Nat := 1024

/-- The state of the cutting: the tokens so far, the open blocks, and the keys not yet confirmed. -/
structure Scanner where
  cursor : Cursor
  tokens : Array Token := #[]
  flowLevel : Nat := 0
  indent : Int := -1
  /-- The indentations of the blocks around the innermost one. -/
  outerIndents : List Int := []
  /-- The pending key of the innermost flow collection, then those around it. -/
  pending : List (Option PendingKey) := [none]
  /-- Whether a key may start here. -/
  keyAllowed : Bool := true

namespace Scanner

def push (s : Scanner) (t : Token) : Scanner := { s with tokens := s.tokens.push t }

/-- Puts a token in before the token at a position. -/
def insertAt (s : Scanner) (position : Nat) (t : Token) : Scanner :=
  { s with tokens := s.tokens.insertIdxIfInBounds position t }

/-- Opens a block at a column deeper than the innermost one. -/
def openBlock (s : Scanner) (column : Nat) (position : Option Nat) (t : Token) : Scanner :=
  if 0 < s.flowLevel || (column : Int) ≤ s.indent then s
  else
    let s := { s with outerIndents := s.indent :: s.outerIndents, indent := column }
    match position with
    | some i => s.insertAt i t
    | none => s.push t

/-- Closes the blocks that are deeper than a column. -/
def closeBlocksTo (column : Int) : (outer : List Int) → Scanner → Scanner
  | [], s => s
  | i :: outer, s =>
    if s.indent ≤ column then s
    else closeBlocksTo column outer { s.push .blockEnd with indent := i, outerIndents := outer }

def closeBlocks (s : Scanner) (column : Int) : Scanner :=
  if 0 < s.flowLevel then s else closeBlocksTo column s.outerIndents s

/-- Gives the innermost pending key up, unless it is required. -/
def dropKey (s : Scanner) : Option Scanner :=
  match s.pending with
  | some k :: rest => if k.required then none else some { s with pending := none :: rest }
  | _ => some s

/-- Remembers a place where a key may start. -/
def rememberKey (s : Scanner) : Option Scanner :=
  if !s.keyAllowed then some s
  else do
    let required := s.flowLevel = 0 && s.indent == (s.cursor.column : Int)
    let s ← s.dropKey
    let key : PendingKey :=
      ⟨required, s.tokens.size, s.cursor.index, s.cursor.line, s.cursor.column⟩
    some { s with pending := some key :: s.pending.drop 1 }

/-- Gives up the pending keys of earlier lines and those that have grown too long. -/
def expireKeys (s : Scanner) : Option Scanner := do
  let pending ← s.pending.mapM fun
    | none => some none
    | some k =>
      if k.line < s.cursor.line || k.index + keyLimit < s.cursor.index then
        if k.required then none else some none
      else some (some k)
  some { s with pending }

/-- Moves on to the next token: past blanks, comments and breaks. A tab is no blank where it could
be indentation; a break allows a key in the block style. -/
def toNextToken : (fuel : Nat) → Scanner → Scanner
  | 0, s => s
  | fuel + 1, s =>
    let c := s.cursor
    let c := if c.column = 0 && c.peek.any isByteOrderMark then c.skip else c
    let tabs := 0 < s.flowLevel || !s.keyAllowed
    let c := c.skipWhile fun d => d == ' ' || (tabs && d == '\t')
    let c := if c.peek == some '#' then c.skipWhile (fun d => !isBreak d) else c
    if c.peek.any isBreak then
      toNextToken fuel
        { s with cursor := c.skipBreak, keyAllowed := s.keyAllowed || s.flowLevel = 0 }
    else { s with cursor := c }

/-! ## Tags and directives -/

/-- A character of a tag; the last three only between angle brackets and in directives. -/
def isTagChar (wide : Bool) (c : Char) : Bool :=
  isNameChar c || c == ';' || c == '/' || c == '?' || c == ':' || c == '@' || c == '&' || c == '='
    || c == '+' || c == '$' || c == '.' || c == '%' || c == '!' || c == '~' || c == '*' || c == '\''
    || c == '(' || c == ')' || (wide && (c == ',' || c == '[' || c == ']'))

/-- The octets of a percent escape. -/
def percentOctets : (fuel : Nat) → List Char → Option (List UInt8 × List Char)
  | 0, cs => some ([], cs)
  | fuel + 1, cs =>
    match cs with
    | '%' :: a :: b :: rest => do
      let hi ← Json.Reader.hexValue? a
      let lo ← Json.Reader.hexValue? b
      let (more, rest) ← percentOctets fuel rest
      some (UInt8.ofNat (hi * 16 + lo) :: more, rest)
    | '%' :: _ => none
    | _ => some ([], cs)

/-- Works the percent escapes of a tag out. -/
def unescapeTag : (fuel : Nat) → List Char → Option (List Char)
  | 0, _ => some []
  | fuel + 1, cs =>
    match cs with
    | [] => some []
    | '%' :: _ => do
      let (octets, rest) ← percentOctets cs.length cs
      let text ← String.fromUTF8? ⟨octets.toArray⟩
      return text.toList ++ (← unescapeTag fuel rest)
    | c :: rest => return c :: (← unescapeTag fuel rest)

/-- Reads the characters of a tag after `stem`; there has to be at least one in all. -/
def takeTagText (wide : Bool) (stem : List Char) (c : Cursor) : Option (List Char × Cursor) := do
  let (raw, c) := c.takeWhile (isTagChar wide)
  if raw.isEmpty && stem.isEmpty then none
  else
    let text ← unescapeTag (raw.length + 1) raw
    some (stem.drop 1 ++ text, c)

/-- Reads a handle: `!`, `!!` or `!name!`. What follows the first mark without a second one is the
start of a suffix, unless a directive asks for a whole handle. -/
def takeTagHandle (directive : Bool) (c : Cursor) : Option (List Char × Cursor) :=
  if c.peek ≠ some '!' then none
  else
    let (name, next) := c.skip.takeWhile isNameChar
    if next.peek == some '!' then some ('!' :: name ++ ['!'], next.skip)
    else if directive && !name.isEmpty then none
    else some ('!' :: name, next)

/-- Reads a tag. -/
def takeTag (flow : Bool) (c : Cursor) : Option (Token × Cursor) := do
  let (handle, suffix, c) ←
    if c.peekAt 1 == some '<' then do
      let (text, c) ← takeTagText true [] (c.skipBy 2)
      if c.peek == some '>' then some (([] : List Char), text, c.skip) else none
    else do
      let (handle, c) ← takeTagHandle false c
      if 1 < handle.length && handle.getLast? == some '!' then
        let (text, c) ← takeTagText false [] c
        some (handle, text, c)
      else
        let (text, c) ← takeTagText false handle c
        if text.isEmpty then some (([] : List Char), ['!'], c) else some (['!'], text, c)
  if c.isGapAt 0 || (flow && c.peek == some ',') then
    some (.tag (String.ofList handle) (String.ofList suffix), c)
  else none

/-- Reads a number of a version. -/
def takeVersionNumber (c : Cursor) : Option (Nat × Cursor) :=
  let (ds, c) := c.takeWhile Char.isDigit
  if ds.isEmpty || 9 < ds.length then none else some (Binary64.digitsValue 0 ds, c)

/-- Reads a directive, with the rest of its line. -/
def takeDirective (c : Cursor) : Option (Token × Cursor) := do
  let (name, c) := c.skip.takeWhile isNameChar
  if name.isEmpty || !c.isGapAt 0 then none
  else
    let (token, c) ←
      if name = ['Y', 'A', 'M', 'L'] then do
        let (major, c) ← takeVersionNumber (c.skipWhile isSpace)
        if c.peek ≠ some '.' then none
        else
          let (minor, c) ← takeVersionNumber c.skip
          some (Token.versionDirective major minor, c)
      else if name = ['T', 'A', 'G'] then do
        let (handle, c) ← takeTagHandle true (c.skipWhile isSpace)
        if !c.looksAt isSpace 0 then none
        else
          let (stem, c) ← takeTagText true [] (c.skipWhile isSpace)
          if c.isGapAt 0 then
            some (Token.tagDirective (String.ofList handle) (String.ofList stem), c)
          else none
      else none
    let c := c.skipToLineEnd
    if c.isLineEnd then some (token, c.skipBreak) else none

/-! ## Tokens -/

/-- Reads a token that is no part of a block structure and may be a key. -/
def takeKeyLike (s : Scanner) (read : Cursor → Option (Token × Cursor)) : Option Scanner := do
  let s ← s.rememberKey
  let (t, c) ← read s.cursor
  some { s.push t with cursor := c, keyAllowed := false }

/-- The name after the mark of an anchor or alias. -/
def takeName (make : String → Token) (c : Cursor) : Option (Token × Cursor) :=
  let (name, c) := c.skip.takeWhile isNameChar
  let ends := c.isGapAt 0 || c.looksAt (fun d => d == '?' || d == ':' || d == ',' || d == ']'
    || d == '\x7d' || d == '%' || d == '@' || d == '\x60') 0
  if name.isEmpty || !ends then none else some (make (String.ofList name), c)

/-- Starts a document or ends one. -/
def takeDocumentMarker (s : Scanner) (t : Token) : Option Scanner := do
  let s ← (s.closeBlocks (-1)).dropKey
  some { s.push t with cursor := s.cursor.skipBy 3, keyAllowed := false }

/-- The end of the stream. -/
def finish (s : Scanner) : Option Scanner := do
  let s ← (s.closeBlocks (-1)).dropKey
  some (s.push .streamEnd)

def openFlow (s : Scanner) (t : Token) : Option Scanner := do
  let s ← s.rememberKey
  some { s.push t with
    cursor := s.cursor.skip, keyAllowed := true, flowLevel := s.flowLevel + 1,
    pending := none :: s.pending }

def closeFlow (s : Scanner) (t : Token) : Option Scanner := do
  let s ← s.dropKey
  let pending := if 0 < s.flowLevel then s.pending.drop 1 else s.pending
  some { s.push t with
    cursor := s.cursor.skip, keyAllowed := false, flowLevel := s.flowLevel - 1, pending }

def takeFlowEntry (s : Scanner) : Option Scanner := do
  let s ← s.dropKey
  some { s.push .flowEntry with cursor := s.cursor.skip, keyAllowed := true }

def takeBlockEntry (s : Scanner) : Option Scanner := do
  let s ←
    if 0 < s.flowLevel then some s
    else if s.keyAllowed then some (s.openBlock s.cursor.column none .blockSequenceStart)
    else none
  let s ← s.dropKey
  some { s.push .blockEntry with cursor := s.cursor.skip, keyAllowed := true }

def takeKey (s : Scanner) : Option Scanner := do
  let s ←
    if 0 < s.flowLevel then some s
    else if s.keyAllowed then some (s.openBlock s.cursor.column none .blockMappingStart)
    else none
  let s ← s.dropKey
  some { s.push .key with cursor := s.cursor.skip, keyAllowed := s.flowLevel = 0 }

def takeValue (s : Scanner) : Option Scanner := do
  let s ←
    match s.pending with
    | some k :: rest =>
      let s := (s.insertAt k.position .key).openBlock k.column (some k.position) .blockMappingStart
      some { s with pending := none :: rest, keyAllowed := false }
    | _ =>
      if 0 < s.flowLevel then some { s with keyAllowed := false }
      else if s.keyAllowed then
        some { s.openBlock s.cursor.column none .blockMappingStart with keyAllowed := true }
      else none
  some { s.push .value with cursor := s.cursor.skip }

def takeBlockScalar (s : Scanner) (literal : Bool) : Option Scanner := do
  let s ← s.dropKey
  let (text, c) ← takeBlock literal s.indent s.cursor.skip
  some { s.push (.scalar text false) with cursor := c, keyAllowed := true }

def takeQuotedScalar (s : Scanner) (single : Bool) : Option Scanner :=
  s.takeKeyLike fun c => do
    let (text, c) ← takeQuoted single (c.rest.length + 1) c.skip []
    some (.scalar (String.ofList text.reverse) false, c)

def takePlainScalar (s : Scanner) : Option Scanner := do
  let s ← s.rememberKey
  let c := s.cursor
  let (text, c, broken) ←
    takePlain (0 < s.flowLevel) (s.indent + 1) (c.rest.length + 1) c {} []
  some { s.push (.scalar (String.ofList text.reverse) true) with cursor := c, keyAllowed := broken }

/-- Whether a character cannot start a plain scalar, `-`, `?` and `:` left aside. -/
def isIndicator (d : Char) : Bool :=
  isFlowIndicator d || d == '#' || d == '&' || d == '*' || d == '!' || d == '|' || d == '>'
    || d == '\'' || d == '"' || d == '%' || d == '@' || d == '\x60'

/-- Reads the next token, or several where blocks end; the flag tells that more follow. -/
def step (s : Scanner) : Option (Scanner × Bool) := do
  let s := s.toNextToken (s.cursor.rest.length + 1)
  let s ← s.expireKeys
  let s := s.closeBlocks s.cursor.column
  let c := s.cursor
  let flow := 0 < s.flowLevel
  match c.peek with
  | none => return (← s.finish, false)
  | some d =>
    let s ←
      if c.column = 0 && d == '%' then do
        let s ← (s.closeBlocks (-1)).dropKey
        let (t, c) ← takeDirective s.cursor
        some { s.push t with cursor := c, keyAllowed := false }
      else if c.isDocumentMarker '-' then s.takeDocumentMarker .documentStart
      else if c.isDocumentMarker '.' then s.takeDocumentMarker .documentEnd
      else if d == '[' then s.openFlow .flowSequenceStart
      else if d == '\x7b' then s.openFlow .flowMappingStart
      else if d == ']' then s.closeFlow .flowSequenceEnd
      else if d == '\x7d' then s.closeFlow .flowMappingEnd
      else if d == ',' then s.takeFlowEntry
      else if d == '-' && c.isGapAt 1 then s.takeBlockEntry
      else if d == '?' && (flow || c.isGapAt 1) then s.takeKey
      else if d == ':' && (flow || c.isGapAt 1) then s.takeValue
      else if d == '*' then s.takeKeyLike (takeName .alias)
      else if d == '&' then s.takeKeyLike (takeName .anchor)
      else if d == '!' then s.takeKeyLike (takeTag flow)
      else if d == '|' && !flow then s.takeBlockScalar true
      else if d == '>' && !flow then s.takeBlockScalar false
      else if d == '\'' then s.takeQuotedScalar true
      else if d == '"' then s.takeQuotedScalar false
      else if (!isIndicator d && !isSpace d && d != '-' && d != '?' && d != ':')
          || (d == '-' && !c.looksAt isSpace 1)
          || (!flow && (d == '?' || d == ':') && !c.isGapAt 1) then
        s.takePlainScalar
      else none
    return (s, true)

/-- Reads all tokens. Every step but the last one moves on by a character at least. -/
def run : (fuel : Nat) → Scanner → Option (Array Token)
  | 0, _ => none
  | fuel + 1, s => do
    let (s, more) ← s.step
    if more then run fuel s else some s.tokens

end Scanner

/-- The tokens of a text, if it can be cut into tokens. A byte order mark at its start is not part of
it. -/
def tokens? (text : String) : Option (List Token) :=
  let cs := match text.toList with
    | c :: cs => if isByteOrderMark c then cs else c :: cs
    | [] => []
  if cs.all isAllowed then
    (Scanner.run (cs.length + 2) { cursor := ⟨cs, 0, 0, 0⟩ }).map Array.toList
  else none

end ProfileKit.Yaml

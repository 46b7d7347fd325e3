import ProfileKit.Yaml.Token
import ProfileKit.Json.Reader

/-!
# Scalars of YAML

How the value of a scalar is read from its written form: plain, in quotes, or as a block of lines.
Line breaks inside a plain or quoted scalar are folded: one break becomes a space, and of several
the first is dropped. In a folded block the same holds between lines that start at the indentation.
-/

namespace ProfileKit.Yaml

/-- Text read so far, in reverse. -/
abbrev Buffer := List Char

def Buffer.append (b : Buffer) (cs : List Char) : Buffer := cs.reverse ++ b

/-- The text for a run of breaks between two lines, of which `first` is the first one. -/
def foldBreaks (first trailing : List Char) : List Char :=
  if first.head? == some '\n' then (if trailing.isEmpty then [' '] else trailing)
  else first ++ trailing

/-- Blanks and breaks inside a plain or quoted scalar. -/
structure Gap where
  /-- Blanks before the first break. -/
  spaces : List Char := []
  /-- Whether a break was seen. -/
  broken : Bool := false
  first : List Char := []
  trailing : List Char := []

/-- What a gap contributes to the value. -/
def Gap.text (g : Gap) : List Char :=
  if g.broken then foldBreaks g.first g.trailing else g.spaces

/-- Reads blanks and breaks. In a plain scalar a tab must not stand where the indentation belongs. -/
def takeGap (tabLimit : Option Int) : (fuel : Nat) → Cursor → Gap → Option (Gap × Cursor)
  | 0, c, g => some (g, c)
  | fuel + 1, c, g =>
    match c.peek with
    | none => some (g, c)
    | some d =>
      if isSpace d then
        if g.broken && d == '\t' && tabLimit.any (fun limit => (c.column : Int) < limit) then none
        else
          let g := if g.broken then g else { g with spaces := g.spaces ++ [d] }
          takeGap tabLimit fuel c.skip g
      else if isBreak d then
        let (text, next) := c.takeBreak
        let g :=
          if g.broken then { g with trailing := g.trailing ++ text }
          else { g with spaces := [], broken := true, first := text }
        takeGap tabLimit fuel next g
      else some (g, c)

/-! ## Plain scalars -/

/-- Whether a character ends a plain scalar when a flow collection is open. -/
def isFlowIndicator (d : Char) : Bool :=
  d == ',' || d == '[' || d == ']' || d == '\x7b' || d == '\x7d'

/-- Reads the characters of a plain scalar up to a gap or to its end. In a flow collection a colon
must not stand before an indicator. -/
def takePlainWord (flow : Bool) : (fuel : Nat) → Cursor → Buffer → Option (Buffer × Cursor)
  | 0, c, b => some (b, c)
  | fuel + 1, c, b =>
    match c.peek with
    | none => some (b, c)
    | some d =>
      if isSpace d || isBreak d then some (b, c)
      else if flow && d == ':' && c.looksAt (fun e => isFlowIndicator e || e == '?') 1 then none
      else if (d == ':' && c.isGapAt 1) || (flow && isFlowIndicator d) then some (b, c)
      else takePlainWord flow fuel c.skip (d :: b)

/-- Reads a plain scalar whose lines are indented by at least `indent`; the flag tells that a break
follows it. -/
def takePlain (flow : Bool) (indent : Int) :
    (fuel : Nat) → Cursor → Gap → Buffer → Option (Buffer × Cursor × Bool)
  | 0, c, g, b => some (b, c, g.broken)
  | fuel + 1, c, g, b =>
    if c.isDocumentMarker '-' || c.isDocumentMarker '.' || c.peek == some '#' then
      some (b, c, g.broken)
    else do
      let (word, next) ← takePlainWord flow (fuel + 1) c []
      let (b, g) := if word.isEmpty then (b, g) else (word ++ b.append g.text, ({} : Gap))
      if next.isGapAt 0 && next.peek.isSome then
        let (g', after) ← takeGap (some indent) (fuel + 1) next g
        if !flow && (after.column : Int) < indent then some (b, after, g'.broken)
        else takePlain flow indent fuel after g' b
      else some (b, next, g.broken)

/-! ## Quoted scalars -/

/-- The character of a short escape. -/
def shortEscape? : Char → Option Char
  | '0' => some '\x00'
  | 'a' => some '\x07'
  | 'b' => some '\x08'
  | 't' => some '\t'
  | '\t' => some '\t'
  | 'n' => some '\n'
  | 'v' => some '\x0b'
  | 'f' => some '\x0c'
  | 'r' => some '\r'
  | 'e' => some '\x1b'
  | ' ' => some ' '
  | '"' => some '"'
  | '/' => some '/'
  | '\\' => some '\\'
  | 'N' => some '\u0085'
  | '_' => some '\u00a0'
  | 'L' => some '\u2028'
  | 'P' => some '\u2029'
  | _ => none

/-- How many hexadecimal digits follow an escape. -/
def escapeLength? : Char → Option Nat
  | 'x' => some 2
  | 'u' => some 4
  | 'U' => some 8
  | _ => none

/-- The character of some hexadecimal digits. -/
def escapedChar? (ds : List Char) : Option Char := do
  let n ← ds.foldlM (fun n d => (Json.Reader.hexValue? d).map (n * 16 + ·)) 0
  if (0xD800 ≤ n ∧ n ≤ 0xDFFF) ∨ 0x10FFFF < n then none else some (Char.ofNat n)

/-- Reads the characters of a quoted scalar up to a gap or to the closing quote; the flag tells that
an escaped break ended them. -/
def takeQuotedWord (single : Bool) : (fuel : Nat) → Cursor → Buffer → Option (Buffer × Cursor × Bool)
  | 0, _, _ => none
  | fuel + 1, c, b =>
    match c.rest with
    | [] => some (b, c, false)
    | d :: more =>
      if isSpace d || isBreak d then some (b, c, false)
      else if single then
        if d == '\'' then
          if more.head? == some '\'' then takeQuotedWord single fuel (c.skipBy 2) ('\'' :: b)
          else some (b, c, false)
        else takeQuotedWord single fuel c.skip (d :: b)
      else if d == '"' then some (b, c, false)
      else if d == '\\' then
        match more with
        | [] => none
        | e :: digits =>
          if isBreak e then some (b, c.skip.skipBreak, true)
          else
            match escapeLength? e with
            | some n =>
              if digits.length < n then none
              else
                match escapedChar? (digits.take n) with
                | some f => takeQuotedWord single fuel (c.skipBy (2 + n)) (f :: b)
                | none => none
            | none =>
              match shortEscape? e with
              | some f => takeQuotedWord single fuel (c.skipBy 2) (f :: b)
              | none => none
      else takeQuotedWord single fuel c.skip (d :: b)

/-- Reads a quoted scalar after its opening quote. A document must not start or end inside. -/
def takeQuoted (single : Bool) : (fuel : Nat) → Cursor → Buffer → Option (Buffer × Cursor)
  | 0, _, _ => none
  | fuel + 1, c, b =>
    if c.isDocumentMarker '-' || c.isDocumentMarker '.' || c.peek.isNone then none
    else do
      let (b, c, escapedBreak) ← takeQuotedWord single (fuel + 1) c b
      if c.peek == some (if single then '\'' else '"') then some (b, c.skip)
      else
        let (g, c) ← takeGap none (fuel + 1) c { broken := escapedBreak }
        takeQuoted single fuel c (b.append g.text)

/-! ## Block scalars -/

/-- What happens to the breaks at the end of a block scalar. -/
inductive Chomping where
  | strip
  | clip
  | keep
deriving DecidableEq

/-- The indicators after the mark of a block scalar: chomping and a digit of indentation, in either
order. -/
def takeBlockHeader (c : Cursor) : Option (Chomping × Nat × Cursor) :=
  let chomping? (c : Cursor) : Option (Chomping × Cursor) :=
    match c.peek with
    | some '+' => some (.keep, c.skip)
    | some '-' => some (.strip, c.skip)
    | _ => none
  let digit? (c : Cursor) : Option (Nat × Cursor) :=
    match c.peek with
    | some d => if d.isDigit then some (d.toNat - '0'.toNat, c.skip) else none
    | none => none
  let header : Chomping × Option Nat × Cursor :=
    match chomping? c with
    | some (m, c) =>
      match digit? c with
      | some (n, c) => (m, some n, c)
      | none => (m, none, c)
    | none =>
      match digit? c with
      | some (n, c) =>
        match chomping? c with
        | some (m, c) => (m, some n, c)
        | none => (.clip, some n, c)
      | none => (.clip, none, c)
  match header with
  | (_, some 0, _) => none
  | (m, n, c) => some (m, n.getD 0, c)

/-- Reads the empty lines before a line of a block scalar. Without an indentation yet, the deepest
of them and the indentation of what surrounds the scalar set it. -/
def takeBlockBreaks (parent : Int) :
    (fuel : Nat) → Cursor → (indent deepest : Nat) → List Char → Option (List Char × Nat × Cursor)
  | 0, c, indent, _, breaks => some (breaks, indent, c)
  | fuel + 1, c, indent, deepest, breaks =>
    let pad := c.rest.takeWhile (· == ' ')
    let width := if indent = 0 then pad.length else min pad.length (indent - c.column)
    let c := c.skipBy width
    let deepest := max deepest c.column
    if (indent = 0 || c.column < indent) && c.peek == some '\t' then none
    else if c.peek.any isBreak then
      let (text, next) := c.takeBreak
      takeBlockBreaks parent fuel next indent deepest (breaks ++ text)
    else
      let found := max (max deepest (parent + 1).toNat) 1
      some (breaks, if indent = 0 then found else indent, c)

/-- The lines of a block scalar read so far. -/
structure BlockLines where
  text : Buffer := []
  /-- The break after the last line. -/
  lastBreak : List Char := []
  /-- The breaks of the empty lines after it. -/
  trailing : List Char := []
  /-- Whether the last line starts with a blank, so that it is not folded. -/
  indented : Bool := false

/-- Reads the lines of a block scalar. -/
def takeBlockLines (literal : Bool) (parent : Int) (indent : Nat) :
    (fuel : Nat) → Cursor → BlockLines → Option (BlockLines × Cursor)
  | 0, c, ls => some (ls, c)
  | fuel + 1, c, ls =>
    if c.column ≠ indent || c.peek.isNone then some (ls, c)
    else do
      let indented := c.peek.any isSpace
      let folds := !literal && ls.lastBreak.head? == some '\n' && !ls.indented && !indented
      let join :=
        if folds then (if ls.trailing.isEmpty then [' '] else ls.trailing)
        else ls.lastBreak ++ ls.trailing
      let (line, next) := c.takeWhile (fun d => !isBreak d)
      let (lastBreak, next) := next.takeBreak
      let (trailing, _, next) ← takeBlockBreaks parent (fuel + 1) next indent 0 []
      takeBlockLines literal parent indent fuel next
        { text := (ls.text.append join).append line, lastBreak, trailing, indented }

/-- Reads a block scalar after its mark, inside a block indented by `parent`. -/
def takeBlock (literal : Bool) (parent : Int) (c : Cursor) : Option (String × Cursor) := do
  let (chomping, increment, c) ← takeBlockHeader c
  let c := c.skipToLineEnd
  if !c.isLineEnd then none
  else
    let c := c.skipBreak
    let start : Nat := if increment = 0 then 0 else (max parent 0).toNat + increment
    let (trailing, indent, c) ← takeBlockBreaks parent (c.rest.length + 1) c start 0 []
    let (ls, c) ← takeBlockLines literal parent indent (c.rest.length + 1) c { trailing }
    let tail := match chomping with
      | .strip => []
      | .clip => ls.lastBreak
      | .keep => ls.lastBreak ++ ls.trailing
    some (String.ofList (ls.text.append tail).reverse, c)

end ProfileKit.Yaml

import ProfileKit.Pattern.Ast
import ProfileKit.Text.Blank
import ProfileKit.Unicode.Property
import ProfileKit.Json.Reader

/-!
# Reading patterns

The grammar has no look-around, no back-references and no recursion. In verbose mode blanks and
comments between the parts of a pattern are skipped; a group restores the mode at its end.
-/

namespace ProfileKit.Pattern

/-- How deep a pattern may be nested. -/
def nestLimit : Nat := 250

/-- What reading a pattern keeps track of. -/
structure Reading where
  rest : List Char
  verbose : Bool := false
  /-- How many capturing groups have been opened. -/
  groups : Nat := 0
  names : List String := []

abbrev Read := StateT Reading Option

namespace Read

/-- Skips blanks and comments. -/
def skipVerbose : (inComment : Bool) → List Char → List Char
  | _, [] => []
  | true, c :: cs => skipVerbose (c != '\n') cs
  | false, c :: cs =>
    if Text.isBlank c then skipVerbose false cs
    else if c = '#' then skipVerbose true cs
    else c :: cs

def rest : Read (List Char) := return (← get).rest

def setRest (cs : List Char) : Read Unit := modify fun s => { s with rest := cs }

/-- Skips what verbose mode skips. -/
def skipSpace : Read Unit := do
  let s ← get
  if s.verbose then setRest (skipVerbose false s.rest)

/-- Moves on by one character. -/
def bump : Read Unit := do setRest ((← rest).drop 1)

/-- Moves on by one character and what verbose mode skips; something has to follow. -/
def bumpOn : Read Unit := do
  bump
  skipSpace
  if (← rest).isEmpty then failure

def peek : Read (Option Char) := return (← rest).head?

/-- What follows the next character. -/
def peekAfter : Read (Option Char) := do
  let s ← get
  let cs := s.rest.drop 1
  return (if s.verbose then skipVerbose false cs else cs).head?

/-- Moves past a text if it comes next. -/
def takeIf (text : List Char) : Read Bool := do
  let cs ← rest
  if text.isPrefixOf cs then
    setRest (cs.drop text.length)
    return true
  else return false

/-- Moves past the first of some texts that comes next, if any does. -/
def takeAny : List (List Char) → Read Bool
  | [] => return false
  | text :: more => do
    if ← takeIf text then return true
    takeAny more

/-! ## Escapes -/

/-- A character with a meaning of its own, which a backslash takes away. -/
def isMeta (c : Char) : Bool :=
  ['\\', '.', '+', '*', '?', '(', ')', '|', '[', ']', '\x7b', '\x7d', '^', '$', '#', '&', '-', '~'].contains c

/-- A character that may stand after a backslash for itself: any of ASCII but letters, digits and
angle brackets. -/
def isEscapeable (c : Char) : Bool :=
  isMeta c || (c.toNat < 0x80 && !c.isAlphanum && c != '<' && c != '>')

def charOfCode (n : Nat) : Option Char :=
  if n.isValidChar then some (Char.ofNat n) else none

/-- The character of hexadecimal digits. -/
def readHex (ds : List Char) : Option Char := do
  if ds.isEmpty then none
  else
    let n ← ds.foldlM (fun n d => (Json.Reader.hexValue? d).map (n * 16 + ·)) 0
    charOfCode n

/-- Takes characters up to a closing brace, which is taken too. -/
def takeBraced : (fuel : Nat) → List Char → Read (List Char)
  | 0, _ => failure
  | fuel + 1, acc => do
    match ← peek with
    | none => failure
    | some '\x7d' =>
      bump
      return acc.reverse
    | some c =>
      bump
      skipSpace
      takeBraced fuel (c :: acc)

/-- Takes a number of characters. -/
def takeChars : (count : Nat) → List Char → Read (List Char)
  | 0, acc => return acc.reverse
  | n + 1, acc => do
    match ← peek with
    | none => failure
    | some c =>
      bump
      if n ≠ 0 then skipSpace
      takeChars n (c :: acc)

/-- A primitive: what may stand in a pattern, and partly also in a class. -/
inductive Primitive where
  | literal (c : Char) (octet : Bool)
  | dot
  | assertion (a : Assertion)
  | short (negated : Bool) (kind : ShortClass)
  | property (negated : Bool) (query : String)

/-- Reads a character given by its code, after `x`, `u` or `U`. -/
def readCode (digits : Nat) : Read Primitive := do
  bumpOn
  if (← peek) == some '\x7b' then
    bump
    skipSpace
    let ds ← takeBraced (← rest).length.succ []
    match readHex ds with
    | some c => return .literal c false
    | none => failure
  else
    let ds ← takeChars digits []
    match readHex ds with
    | some c => return .literal c (digits = 2)
    | none => failure

/-- Reads the name of a property, after `p` or `P`. -/
def readProperty (negated : Bool) : Read Primitive := do
  bumpOn
  match ← peek with
  | some '\x7b' =>
    bump
    skipSpace
    let name ← takeBraced (← rest).length.succ []
    return .property negated (String.ofList name)
  | some '\\' => failure
  | some c =>
    bump
    skipSpace
    return .property negated (String.ofList [c])
  | none => failure

/-- Takes letters and dashes. -/
def takeWord : (fuel : Nat) → List Char → Read (List Char)
  | 0, acc => return acc.reverse
  | fuel + 1, acc => do
    match ← peek with
    | some c =>
      if c.isAlpha || c == '-' then
        bump
        skipSpace
        takeWord fuel (c :: acc)
      else return acc.reverse
    | none => return acc.reverse

/-- Reads what may follow the escape of a word boundary: a kind of boundary in braces. Braces that
start with no letter or dash belong to a repetition. -/
def readBoundaryKind : Read Assertion := do
  let before ← rest
  if before.head? ≠ some '\x7b' then return .wordBoundary
  bumpOn
  match ← peek with
  | none => failure
  | some c =>
    if !(c.isAlpha || c == '-') then
      setRest before
      return .wordBoundary
    let word ← takeWord (← rest).length []
    if (← peek) ≠ some '\x7d' then failure
    bump
    if word = "start".toList then return .wordStart
    else if word = "end".toList then return .wordEnd
    else if word = "start-half".toList then return .wordStartHalf
    else if word = "end-half".toList then return .wordEndHalf
    else failure

/-- Reads an escape, its backslash included. -/
def readEscape : Read Primitive := do
  bump
  match ← peek with
  | none => failure
  | some c =>
    if c.isDigit then failure
    else if c = 'x' then readCode 2
    else if c = 'u' then readCode 4
    else if c = 'U' then readCode 8
    else if c = 'p' then readProperty false
    else if c = 'P' then readProperty true
    else
      bump
      if isEscapeable c then return .literal c false
      match c with
      | 'd' => return .short false .digit
      | 's' => return .short false .blank
      | 'w' => return .short false .word
      | 'D' => return .short true .digit
      | 'S' => return .short true .blank
      | 'W' => return .short true .word
      | 'a' => return .literal '\x07' false
      | 'f' => return .literal '\x0c' false
      | 't' => return .literal '\t' false
      | 'n' => return .literal '\n' false
      | 'r' => return .literal '\r' false
      | 'v' => return .literal '\x0b' false
      | 'A' => return .assertion .textStart
      | 'z' => return .assertion .textEnd
      | 'b' => return .assertion (← readBoundaryKind)
      | 'B' => return .assertion .notWordBoundary
      | '<' => return .assertion .wordStart
      | '>' => return .assertion .wordEnd
      | _ => failure

def Primitive.toAst : Primitive → Ast
  | .literal c octet => .literal c octet
  | .dot => .dot
  | .assertion a => .assertion a
  | .short negated kind => .charClass (.short negated kind)
  | .property negated query => .charClass (.property negated query)

/-! ## Classes -/

/-- A primitive as an item of a class. -/
def Primitive.toItem : Primitive → Read ClassNode
  | .literal c octet => return .literal c octet
  | .short negated kind => return .short negated kind
  | .property negated query => return .property negated query
  | _ => failure

/-- A primitive as an end of a range. -/
def Primitive.toBound : Primitive → Read Char
  | .literal c _ => return c
  | _ => failure

/-- The range between two primitives. -/
def Primitive.rangeTo (first last : Primitive) : Read ClassNode := do
  let a ← first.toBound
  let b ← last.toBound
  if a ≤ b then return .range a b else failure

def readClassPrimitive : Read Primitive := do
  match ← peek with
  | none => failure
  | some '\\' => readEscape
  | some c =>
    bump
    return .literal c false

/-- Reads on from the first sign of an item, which may start a range. A dash before the closing bracket
or before a dash makes no range. -/
def readRange (first : Primitive) : Read ClassNode := do
  skipSpace
  match ← peek with
  | none => failure
  | some c =>
    let after ← peekAfter
    if c ≠ '-' || after == some ']' || after == some '-' then first.toItem
    else
      bumpOn
      first.rangeTo (← readClassPrimitive)

/-- Reads a character or a range of them. -/
def readClassItem : Read ClassNode := do readRange (← readClassPrimitive)

/-- The classes that are named between colons. -/
def posixNames : List String :=
  ["alnum", "alpha", "ascii", "blank", "cntrl", "digit", "graph", "lower", "print", "punct", "space",
    "upper", "word", "xdigit"]

/-- Reads a class named between colons, if one starts here; otherwise nothing is taken. -/
def readPosix? : Read (Option ClassNode) := do
  let before ← rest
  match before with
  | '[' :: ':' :: cs =>
    let (negated, cs) := match cs with
      | '^' :: more => (true, more)
      | _ => (false, cs)
    let name := cs.takeWhile (· ≠ ':')
    let after := cs.dropWhile (· ≠ ':')
    if [':', ']'].isPrefixOf after && posixNames.contains (String.ofList name) then
      setRest (after.drop 2)
      return some (.posix negated (String.ofList name))
    else return none
  | _ => return none

/-- Takes the dashes at the start of a class. -/
def takeDashes : (fuel : Nat) → List ClassNode → Read (List ClassNode)
  | 0, items => return items
  | fuel + 1, items => do
    if (← peek) == some '-' then
      bumpOn
      takeDashes fuel (.literal '-' false :: items)
    else return items

/-- Joins what has been read of a class: the items since the last operator, in reverse, and what
stands before that operator. -/
def closeClass (pending : Option (SetOp × ClassNode)) (items : List ClassNode) : ClassNode :=
  let last := ClassNode.ofItems items.reverse
  match pending with
  | none => last
  | some (op, left) => .combine op left last

/-- Reads the items that belong to the opening of a class: dashes, or a bracket, which closes nothing
there. -/
def readFirstItems : Read (List ClassNode) := do
  let items ← takeDashes (← rest).length []
  if items.isEmpty && (← peek) == some ']' then
    bumpOn
    return [.literal ']' false]
  return items

/-- Reads the opening of a class: whether it is negated, and the items that belong to the opening. -/
def openClass : Read (Bool × List ClassNode) := do
  bumpOn
  let negated := (← peek) == some '^'
  if negated then bumpOn
  return (negated, ← readFirstItems)

mutual
/-- Reads a class from its opening bracket. -/
def readClass : (fuel : Nat) → Read ClassNode
  | 0 => failure
  | fuel + 1 => do
    let (negated, items) ← openClass
    readClassBody fuel negated none items

/-- Reads the rest of a class up to its closing bracket. -/
def readClassBody : (fuel : Nat) → (negated : Bool) → Option (SetOp × ClassNode) →
    List ClassNode → Read ClassNode
  | 0, _, _, _ => failure
  | fuel + 1, negated, pending, items => do
    skipSpace
    let operator (op : SetOp) : Read ClassNode := do
      bump
      bump
      readClassBody fuel negated (some (op, closeClass pending items)) []
    match ← rest with
    | [] => failure
    | '[' :: _ =>
      match ← readPosix? with
      | some c => readClassBody fuel negated pending (c :: items)
      | none =>
        let nested ← readClass fuel
        readClassBody fuel negated pending (nested :: items)
    | ']' :: _ =>
      bump
      return .bracketed negated (closeClass pending items)
    | '&' :: '&' :: _ => operator .intersection
    | '-' :: '-' :: _ => operator .difference
    | '~' :: '~' :: _ => operator .symmetricDifference
    | _ =>
      let item ← readClassItem
      readClassBody fuel negated pending (item :: items)
end

/-! ## Groups and repetitions -/

/-- The first character of a group's name. -/
def isNameStart (c : Char) : Bool :=
  if c.toNat < 0x80 then c == '_' || c.isAlpha else Unicode.alphabetic.contains c.toNat

/-- A further character of a group's name. -/
def isNamePart (c : Char) : Bool :=
  if c.toNat < 0x80 then c == '_' || c == '.' || c == '[' || c == ']' || c.isAlphanum
  else Unicode.alphanumeric.contains c.toNat

/-- A text that may name a group. -/
def isName : List Char → Bool
  | [] => false
  | c :: more => isNameStart c && more.all isNamePart

/-- Reads the name of a group and its closing bracket; a name is used once. -/
def readName : Read String := do
  let cs ← rest
  let name := cs.takeWhile (· ≠ '>')
  if !isName name || cs.length = name.length then failure
  setRest (cs.drop (name.length + 1))
  let s ← get
  if s.names.contains (String.ofList name) then failure
  set { s with names := String.ofList name :: s.names }
  return String.ofList name

def flag? : Char → Option Flag
  | 'i' => some .ignoreCase
  | 'm' => some .multiLine
  | 's' => some .dotAll
  | 'U' => some .swapGreed
  | 'u' => some .unicode
  | 'R' => some .crlf
  | 'x' => some .verbose
  | _ => none

/-- Reads flags up to a colon or a closing parenthesis. No flag occurs twice, and the mark that
switches flags off occurs once and not at the end. -/
def readFlags : (fuel : Nat) → List FlagItem → Read (List FlagItem)
  | 0, _ => failure
  | fuel + 1, acc => do
    match ← peek with
    | none => failure
    | some c =>
      if c = ':' || c = ')' then
        if acc.head? == some .negation then failure else return acc.reverse
      else
        let item ← if c = '-' then pure FlagItem.negation else
          match flag? c with
          | some f => pure (.flag f)
          | none => failure
        if acc.contains item then failure
        bump
        readFlags fuel (item :: acc)

/-- Whether flags switch one on or off. -/
def switch? (f : Flag) (items : List FlagItem) : Option Bool :=
  let on := items.takeWhile (· ≠ .negation)
  if on.contains (.flag f) then some true
  else if items.contains (.flag f) then some false
  else none

/-- Opens a capturing group. -/
def nextGroup : Read Nat := do
  let s ← get
  set { s with groups := s.groups + 1 }
  return s.groups + 1

/-- Reads a decimal number with blanks around it. -/
def readCount : Read (Option Nat) := do
  let cs := (← rest).dropWhile Text.isBlank
  setRest cs
  let ds ← takeCount cs.length []
  setRest ((← rest).dropWhile Text.isBlank)
  if ds.isEmpty then return none
  else
    let n := Binary64.digitsValue 0 ds
    if n < Nat.pow 2 32 then return some n else failure
where
  /-- Takes decimal digits. -/
  takeCount : (fuel : Nat) → List Char → Read (List Char)
    | 0, acc => return acc.reverse
    | fuel + 1, acc => do
      match ← peek with
      | some c =>
        if c.isDigit then
          bump
          skipSpace
          takeCount fuel (c :: acc)
        else return acc.reverse
      | none => return acc.reverse

/-- Takes a question mark, which makes a repetition lazy. -/
def takeLazy : Read Bool := do
  if (← peek) == some '?' then
    bump
    return true
  else return false

/-- Reads the bounds of a counted repetition: one number, or a least one and perhaps a greatest one. -/
def readLimits : Read (Nat × Option Nat) := do
  let least ← readCount
  match ← peek with
  | some ',' =>
    bumpOn
    match least with
    | none => failure
    | some n =>
      if (← peek) == some '\x7d' then return (n, none)
      else
        match ← readCount with
        | none => failure
        | some m => return (n, some m)
  | _ =>
    match least with
    | some n => return (n, some n)
    | none => failure

/-- Reads a counted repetition from its opening brace: its bounds and whether it is greedy. -/
def readBounds : Read (Nat × Option Nat × Bool) := do
  bumpOn
  let (min, max) ← readLimits
  if (← peek) ≠ some '\x7d' then failure
  bump
  skipSpace
  let lazy ← takeLazy
  if max.any (· < min) then failure
  return (min, max, !lazy)

/-- Repeats the last part read, which must not be missing or a change of flags. -/
def repeatLast (items : List Ast) (min : Nat) (max : Option Nat) (greedy : Bool) : Read (List Ast) :=
  match items with
  | [] | .empty :: _ | .flags _ :: _ => failure
  | a :: more => return .repetition min max greedy a :: more

/-- What an opening parenthesis begins: a group, or a change of flags. -/
inductive Opening where
  | group (kind : GroupKind)
  | flags (items : List FlagItem)

/-- The openings of look-around, which there is none of. -/
def lookAround : List (List Char) := [['?', '='], ['?', '!'], ['?', '<', '='], ['?', '<', '!']]

/-- The openings of a named group. -/
def namedOpenings : List (List Char) := [['?', 'P', '<'], ['?', '<']]

/-- Reads what follows an opening parenthesis up to the body of the group. A change of flags is read
up to its end. -/
def readOpening : Read Opening := do
  let verbose := (← get).verbose
  if ← takeAny lookAround then failure
  else if ← takeAny namedOpenings then
    let index ← nextGroup
    let name ← readName
    return .group (.capture index (some name))
  else if ← takeIf ['?'] then
    let items ← readFlags (← rest).length.succ []
    let closed := (← peek) == some ')'
    if closed && items.isEmpty then failure
    bump
    modify fun s => { s with verbose := (switch? .verbose items).getD verbose }
    return if closed then .flags items else .group (.plain items)
  else
    let index ← nextGroup
    return .group (.capture index none)

/-! ## Patterns -/

/-- Reads a repetition that is marked by a single character. -/
def readSimple (items : List Ast) (min : Nat) (max : Option Nat) : Read (List Ast) := do
  bump
  let lazy ← takeLazy
  repeatLast items min max !lazy

/-- A character that stands outside of classes and has not been escaped. -/
def signAst : Char → Ast
  | '.' => .dot
  | '^' => .assertion .lineStart
  | '$' => .assertion .lineEnd
  | c => .literal c false

/-- Reads the next part of a sequence, of which the first character is given, onto the parts before it. -/
def readPart (group : Read Ast) (items : List Ast) : Char → Read (List Ast)
  | '(' => return (← group) :: items
  | '[' => do
    let c ← readClass (2 * (← rest).length + 2)
    return .charClass c :: items
  | '?' => readSimple items 0 (some 1)
  | '*' => readSimple items 0 none
  | '+' => readSimple items 1 none
  | '\x7b' => do
    if items.isEmpty then failure
    let (min, max, greedy) ← readBounds
    repeatLast items min max greedy
  | '\\' => return (← readEscape).toAst :: items
  | c => do
    bump
    return signAst c :: items

mutual
/-- Reads a sequence up to a bar, a closing parenthesis or the end. -/
def readSequence : (fuel : Nat) → List Ast → Read Ast
  | 0, _ => failure
  | fuel + 1, items => do
    skipSpace
    match ← peek with
    | none | some '|' | some ')' => return .ofItems items.reverse
    | some c => readSequence fuel (← readPart (readGroup fuel) items c)

/-- Reads a group from its opening parenthesis, or a change of flags. -/
def readGroup : (fuel : Nat) → Read Ast
  | 0 => failure
  | fuel + 1 => do
    bump
    skipSpace
    let verbose := (← get).verbose
    match ← readOpening with
    | .flags items => return .flags items
    | .group kind =>
      let body ← readBranches fuel []
      if (← peek) ≠ some ')' then failure
      bump
      modify fun s => { s with verbose }
      return .group kind body

/-- Reads sequences with bars between them. -/
def readBranches : (fuel : Nat) → List Ast → Read Ast
  | 0, _ => failure
  | fuel + 1, branches => do
    let a ← readSequence fuel []
    if (← peek) == some '|' then
      bump
      readBranches fuel (a :: branches)
    else return .ofBranches (a :: branches).reverse
end

end Read

/-- Reads a whole pattern. -/
def Ast.read? (pattern : List Char) : Option Ast := do
  let (a, s) ← (Read.readBranches (3 * pattern.length + 4) []).run { rest := pattern }
  if s.rest.isEmpty && a.depth ≤ nestLimit then some a else none

end ProfileKit.Pattern

import ProfileKit.Decimal.Text
import ProfileKit.Text.Lines
import ProfileKit.Toml

/-!
# Reading TOML text

A document is lines: headers, and keys with their values. Strings and arrays may run over several
lines.
-/

namespace ProfileKit.Toml.Reader

/-- How deep values may be nested, and how many parts a key may have. -/
def depthLimit : Nat := 80

/-- A character that may stand in a comment. -/
def isCommentChar (c : Char) : Bool := c == '\t' || (0x20 ≤ c.toNat && c.toNat ≠ 0x7F)

def isSpace (c : Char) : Bool := c == ' ' || c == '\t'

def skipSpaces (cs : List Char) : List Char := cs.dropWhile isSpace

/-- Skips a comment, if there is one. -/
def skipComment : List Char → List Char
  | '#' :: cs => cs.dropWhile isCommentChar
  | cs => cs

/-- Skips a line end. -/
def lineEnd? : List Char → Option (List Char)
  | '\n' :: cs => some cs
  | '\r' :: '\n' :: cs => some cs
  | _ => none

/-- Skips blanks, comments and line ends. -/
def skipGaps : (fuel : Nat) → List Char → List Char
  | 0, cs => cs
  | fuel + 1, cs =>
    let rest := skipComment (skipSpaces cs)
    match lineEnd? rest with
    | some rest => skipGaps fuel rest
    | none => rest

/-- Skips what may stand after a value on its line, and the line end. -/
def endLine? (cs : List Char) : Option (List Char) :=
  match skipComment (skipSpaces cs) with
  | [] => some []
  | rest => lineEnd? rest

/-! ## Strings -/

def hexDigit? (c : Char) : Option Nat :=
  if c.isDigit then some (c.toNat - 48)
  else if 'a' ≤ c ∧ c ≤ 'f' then some (c.toNat - 87)
  else if 'A' ≤ c ∧ c ≤ 'F' then some (c.toNat - 55)
  else none

/-- The character of a code with so many digits. -/
def codePoint? (digits : List Char) (count : Nat) : Option Char := do
  if digits.length ≠ count then none
  else
    let n ← digits.foldlM (fun n c => (hexDigit? c).map (n * 16 + ·)) 0
    if n.isValidChar then some (Char.ofNat n) else none

/-- The character of an escape, without its backslash, and what follows. -/
def escape? : List Char → Option (Char × List Char)
  | 'b' :: cs => some ('\x08', cs)
  | 't' :: cs => some ('\t', cs)
  | 'n' :: cs => some ('\n', cs)
  | 'f' :: cs => some ('\x0c', cs)
  | 'r' :: cs => some ('\r', cs)
  | '"' :: cs => some ('"', cs)
  | '\\' :: cs => some ('\\', cs)
  | 'u' :: cs => (codePoint? (cs.take 4) 4).map (·, cs.drop 4)
  | 'U' :: cs => (codePoint? (cs.take 8) 8).map (·, cs.drop 8)
  | _ => none

/-- A character that stands for itself in a string. -/
def isPlain (c : Char) : Bool := isCommentChar c

/-- Reads a string up to its closing quote. -/
def basicString : (fuel : Nat) → (acc : List Char) → List Char → Option (String × List Char)
  | 0, _, _ => none
  | _ + 1, acc, '"' :: cs => some (String.ofList acc.reverse, cs)
  | fuel + 1, acc, '\\' :: cs => do
    let (c, rest) ← escape? cs
    basicString fuel (c :: acc) rest
  | fuel + 1, acc, c :: cs => if isPlain c then basicString fuel (c :: acc) cs else none
  | _ + 1, _, [] => none

/-- Reads a string without escapes up to its closing quote. -/
def literalString (acc : List Char) : List Char → Option (String × List Char)
  | '\'' :: cs => some (String.ofList acc.reverse, cs)
  | c :: cs => if isPlain c then literalString (c :: acc) cs else none
  | [] => none

/-- A string over several lines ends at three quotes; up to two more before them belong to it. -/
def closing? (quote : Char) (acc cs : List Char) : Option (String × List Char) :=
  let run := cs.takeWhile (· = quote)
  let n := min run.length 5
  if n < 3 then none
  else some (String.ofList (List.replicate (n - 3) quote ++ acc).reverse, cs.drop n)

/-- Skips the blanks and line ends after a backslash at the end of a line. -/
def lineContinuation? (cs : List Char) : Option (List Char) := do
  let rest ← lineEnd? (skipSpaces cs)
  let isGap (c : Char) := c == ' ' || c == '\t' || c == '\n'
  let rec skip : Nat → List Char → List Char
    | 0, cs => cs
    | fuel + 1, cs =>
      match cs with
      | '\r' :: '\n' :: more => skip fuel more
      | c :: more => if isGap c then skip fuel more else cs
      | [] => []
  some (skip rest.length rest)

/-- Reads a string over several lines. -/
def basicLines : (fuel : Nat) → (acc : List Char) → List Char → Option (String × List Char)
  | 0, _, _ => none
  | fuel + 1, acc, cs =>
    match closing? '"' acc cs with
    | some r => some r
    | none =>
      match cs with
      | '\\' :: rest =>
        match lineContinuation? rest with
        | some rest => basicLines fuel acc rest
        | none => do
          let (c, rest) ← escape? rest
          basicLines fuel (c :: acc) rest
      | '\n' :: rest => basicLines fuel ('\n' :: acc) rest
      | '\r' :: '\n' :: rest => basicLines fuel ('\n' :: acc) rest
      | c :: rest => if isPlain c then basicLines fuel (c :: acc) rest else none
      | [] => none

/-- Reads a string over several lines without escapes. -/
def literalLines : (fuel : Nat) → (acc : List Char) → List Char → Option (String × List Char)
  | 0, _, _ => none
  | fuel + 1, acc, cs =>
    match closing? '\'' acc cs with
    | some r => some r
    | none =>
      match cs with
      | '\n' :: rest => literalLines fuel ('\n' :: acc) rest
      | '\r' :: '\n' :: rest => literalLines fuel ('\n' :: acc) rest
      | c :: rest => if isPlain c then literalLines fuel (c :: acc) rest else none
      | [] => none

/-- Drops the line end right after the opening quotes. -/
def dropFirstBreak (cs : List Char) : List Char := (lineEnd? cs).getD cs

/-- Reads a string of any kind. -/
def string? (cs : List Char) : Option (String × List Char) :=
  let fuel := cs.length + 1
  match cs with
  | '"' :: '"' :: '"' :: rest => basicLines fuel [] (dropFirstBreak rest)
  | '"' :: rest => basicString fuel [] rest
  | '\'' :: '\'' :: '\'' :: rest => literalLines fuel [] (dropFirstBreak rest)
  | '\'' :: rest => literalString [] rest
  | _ => none

/-! ## Keys -/

def isBareKey (c : Char) : Bool := c.isAlphanum || c == '_' || c == '-'

/-- Reads one part of a key. -/
def simpleKey? (cs : List Char) : Option (String × List Char) :=
  match cs with
  | '"' :: rest => basicString (cs.length + 1) [] rest
  | '\'' :: rest => literalString [] rest
  | _ =>
    let name := cs.takeWhile isBareKey
    if name.isEmpty then none else some (String.ofList name, cs.dropWhile isBareKey)

/-- Reads a key and the blanks after it: the parts before the last one, and the last one. -/
def key? : (fuel : Nat) → List Char → Option ((List String × String) × List Char)
  | 0, _ => none
  | fuel + 1, cs => do
    let (name, rest) ← simpleKey? (skipSpaces cs)
    match skipSpaces rest with
    | '.' :: rest =>
      let ((path, last), rest) ← key? fuel rest
      some ((name :: path, last), rest)
    | rest => some (([], name), rest)

/-! ## Numbers and dates -/

/-- Digits between which there may be single underscores. -/
def digitGroups? (isDigit : Char → Bool) (cs : List Char) : Option (List Char) :=
  let parts := Text.splitAt (· == '_') cs
  if parts.all fun p => !p.isEmpty && p.all isDigit then some parts.flatten else none

def valueIn (base : Nat) (ds : List Char) : Nat :=
  ds.foldl (fun n c => n * base + (hexDigit? c).getD 0) 0

/-- A decimal number without a point: no zero stands before other digits. -/
def decimalDigits? (cs : List Char) : Option (List Char) := do
  let ds ← digitGroups? Char.isDigit cs
  match ds with
  | '0' :: _ :: _ => none
  | ds => some ds

/-- An integer of 64 bits. -/
def bounded? (n : Int) : Option Toml :=
  if -(Nat.pow 2 63) ≤ n ∧ n < Nat.pow 2 63 then some (.integer n) else none

def integer? (word : List Char) : Option Toml :=
  let based (base : Nat) (isDigit : Char → Bool) (ds : List Char) : Option Toml :=
    (digitGroups? isDigit ds).bind fun ds => bounded? (valueIn base ds)
  match word with
  | '0' :: 'x' :: ds => based 16 (fun c => (hexDigit? c).isSome) ds
  | '0' :: 'o' :: ds => based 8 (fun c => '0' ≤ c && c ≤ '7') ds
  | '0' :: 'b' :: ds => based 2 (fun c => c == '0' || c == '1') ds
  | _ =>
    let (negative, ds) := Binary64.splitSign word
    (decimalDigits? ds).bind fun ds =>
      let n : Int := valueIn 10 ds
      bounded? (if negative then -n else n)

/-- A number with a point or an exponent, or one of the words for what is not a number; one that is
too large is refused. -/
def float? (word : List Char) : Option Toml :=
  let (negative, cs) := Binary64.splitSign word
  if cs == "inf".toList || cs == "nan".toList then some .float
  else do
    let isExponentMark (c : Char) := c == 'e' || c == 'E'
    let mantissa := cs.takeWhile fun c => !isExponentMark c
    let exponent := cs.dropWhile fun c => !isExponentMark c
    let whole := mantissa.takeWhile (· ≠ '.')
    let part := mantissa.dropWhile (· ≠ '.')
    if part.isEmpty && exponent.isEmpty then none
    else
      let wholeDigits ← decimalDigits? whole
      let partDigits ← match part with
        | [] => some []
        | _ :: ds => digitGroups? Char.isDigit ds
      let power ← match exponent with
        | [] => some (0 : Int)
        | _ :: ds =>
          let (below, ds) := Binary64.splitSign ds
          (digitGroups? Char.isDigit ds).map fun ds =>
            let n : Int := valueIn 10 ds
            if below then -n else n
      let x := Binary64.ofDecimal negative (valueIn 10 (wholeDigits ++ partDigits))
        (power - partDigits.length)
      if x.isNone && !negative then none else some .float

/-- So many digits, with a value in a range. -/
def field? (count least greatest : Nat) (cs : List Char) : Option (Nat × List Char) :=
  let ds := cs.take count
  if ds.length = count && ds.all Char.isDigit && least ≤ valueIn 10 ds && valueIn 10 ds ≤ greatest then
    some (valueIn 10 ds, cs.drop count)
  else none

def mark? (c : Char) : List Char → Option (List Char)
  | d :: cs => if d = c then some cs else none
  | [] => none

def daysIn (year month : Nat) : Nat :=
  if month = 2 then
    if (year % 4 = 0 ∧ year % 100 ≠ 0) ∨ year % 400 = 0 then 29 else 28
  else if month = 4 ∨ month = 6 ∨ month = 9 ∨ month = 11 then 30
  else 31

def date? (cs : List Char) : Option (List Char) := do
  let (year, cs) ← field? 4 0 9999 cs
  let (month, cs) ← field? 2 1 12 (← mark? '-' cs)
  let (_, cs) ← field? 2 1 (daysIn year month) (← mark? '-' cs)
  some cs

def time? (cs : List Char) : Option (List Char) := do
  let (_, cs) ← field? 2 0 23 cs
  let (_, cs) ← field? 2 0 59 (← mark? ':' cs)
  let (_, cs) ← field? 2 0 60 (← mark? ':' cs)
  match cs with
  | '.' :: ds => if (ds.takeWhile Char.isDigit).isEmpty then none else some (ds.dropWhile Char.isDigit)
  | cs => some cs

/-- The offset of a time from the common one, which may be missing. -/
def offset? (cs : List Char) : Option (List Char) :=
  match cs with
  | 'Z' :: cs | 'z' :: cs => some cs
  | c :: rest =>
    if c = '+' ∨ c = '-' then do
      let (_, cs) ← field? 2 0 23 rest
      let (_, cs) ← field? 2 0 59 (← mark? ':' cs)
      some cs
    else some cs
  | [] => some []

/-- Reads a date, a time, or both. -/
def dateTime? (cs : List Char) : Option (List Char) :=
  match date? cs with
  | none => time? cs
  | some rest =>
    match rest with
    | c :: more =>
      if c = 'T' ∨ c = 't' ∨ c = ' ' then
        match time? more with
        | some rest => offset? rest
        | none => if c = ' ' then some rest else none
      else some rest
    | [] => some []

/-! ## Values -/

/-- A character of a number or a word. -/
def isWordChar (c : Char) : Bool := c.isAlphanum || c == '_' || c == '+' || c == '-' || c == '.'

/-- Reads a value that is no string, array or table. -/
def word? (cs : List Char) : Option (Toml × List Char) :=
  match dateTime? cs with
  | some rest => some (.date, rest)
  | none =>
    let word := cs.takeWhile isWordChar
    let rest := cs.dropWhile isWordChar
    let value :=
      if word == "true".toList then some (Toml.boolean true)
      else if word == "false".toList then some (.boolean false)
      else (integer? word).or (float? word)
    value.map (·, rest)

mutual
/-- Reads a value. -/
def value? : (fuel depth : Nat) → List Char → Option (Toml × List Char)
  | 0, _, _ => none
  | _ + 1, 0, _ => none
  | fuel + 1, depth + 1, cs =>
    match cs with
    | '[' :: rest => items? fuel depth [] (skipGaps rest.length rest)
    | '\x7b' :: rest =>
      match skipSpaces rest with
      | '\x7d' :: rest => some (.table .inline [], rest)
      | rest => fields? fuel depth (.table .inline []) rest
    | '"' :: _ | '\'' :: _ => (string? cs).map fun (s, rest) => (.string s, rest)
    | _ => word? cs

/-- Reads the items of an array and its closing bracket. -/
def items? : (fuel depth : Nat) → (done : List Toml) → List Char → Option (Toml × List Char)
  | 0, _, _, _ => none
  | _ + 1, _, done, ']' :: rest => some (.array done.reverse, rest)
  | fuel + 1, depth, done, cs => do
    let (v, rest) ← value? fuel depth cs
    match skipGaps rest.length rest with
    | ',' :: rest => items? fuel depth (v :: done) (skipGaps rest.length rest)
    | ']' :: rest => some (.array (v :: done).reverse, rest)
    | _ => none

/-- Reads the fields of a table between braces and the closing brace. -/
def fields? : (fuel depth : Nat) → (done : Toml) → List Char → Option (Toml × List Char)
  | 0, _, _, _ => none
  | fuel + 1, depth, done, cs => do
    let ((path, last), rest) ← key? (depthLimit + 1) cs
    let rest ← mark? '=' rest
    let (v, rest) ← value? fuel depth (skipSpaces rest)
    let done ← match done with
      | .table origin entries => putDotted path last v origin entries
      | _ => none
    match skipSpaces rest with
    | ',' :: rest => fields? fuel depth done rest
    | '\x7d' :: rest => some (done, rest)
    | _ => none
end

/-! ## Documents -/

/-- What was read of a document: its tables, and the path of the last header. -/
structure Progress where
  root : List (String × Toml)
  header : List String

/-- The entries of a table. -/
def entriesOf : Toml → List (String × Toml)
  | .table _ entries => entries
  | _ => []

/-- Puts a value into the table of the last header. -/
def putValue (p : Progress) (path : List String) (key : String) (v : Toml) : Option Progress :=
  (change false (putDotted path key v) p.header .header p.root).map fun t =>
    { p with root := entriesOf t }

/-- Reads the line that a document goes on with. -/
def line? (p : Progress) (cs : List Char) : Option (Progress × List Char) :=
  match cs with
  | '[' :: '[' :: rest => do
    let ((path, last), rest) ← key? (depthLimit + 1) rest
    let rest ← mark? ']' rest
    let rest ← mark? ']' rest
    let t ← openTables path last p.root
    some (⟨entriesOf t, path ++ [last]⟩, ← endLine? rest)
  | '[' :: rest => do
    let ((path, last), rest) ← key? (depthLimit + 1) rest
    let rest ← mark? ']' rest
    let t ← openTable path last p.root
    some (⟨entriesOf t, path ++ [last]⟩, ← endLine? rest)
  | _ => do
    let ((path, last), rest) ← key? (depthLimit + 1) cs
    let rest ← mark? '=' rest
    let (v, rest) ← value? (rest.length + 1) depthLimit (skipSpaces rest)
    some (← putValue p path last v, ← endLine? rest)

def lines? : (fuel : Nat) → Progress → List Char → Option Progress
  | 0, _, _ => none
  | fuel + 1, p, cs =>
    match skipGaps (cs.length + 1) cs with
    | [] => some p
    | rest => do
      let (p, rest) ← line? p rest
      lines? fuel p rest

end Reader

/-- Reads a whole document. -/
def read? (text : String) : Option (List (String × Toml)) :=
  let cs := match text.toList with
    | '\ufeff' :: cs => cs
    | cs => cs
  (Reader.lines? (cs.length + 1) ⟨[], []⟩ cs).map Reader.Progress.root

end ProfileKit.Toml

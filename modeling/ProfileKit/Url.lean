import ProfileKit.Url.Domain

/-!
# Web addresses

Whether a text is an address with the scheme `http` or `https` and a host. A host is a domain name,
four numbers, or an address of the sixth version between brackets. Slashes after the scheme may be
missing or be written as backslashes; the path and what follows it can be anything.

`isWebAddress` holds where `validate::rules::invalid_base_url` does not; hosts are read, here and in
`Url.Domain` and `Url.Punycode`, as by the library that it calls.
-/

namespace ProfileKit.Url

/-! ## Hosts of numbers -/

/-- A part of a host that is to be a number: decimal, octal after a zero, or hexadecimal after `0x`.
Nothing for a text that is no number. -/
def hostNumber? (cs : List Char) : Option Nat :=
  let value (base : Nat) (ds : List Char) : Option Nat :=
    ds.foldlM (fun n c => do
      let d ← if c.isDigit then some (c.toNat - 48)
        else if 'a' ≤ c ∧ c ≤ 'f' then some (c.toNat - 87)
        else if 'A' ≤ c ∧ c ≤ 'F' then some (c.toNat - 55)
        else none
      if d < base then some (n * base + d) else none) 0
  match cs with
  | [] => none
  | '0' :: 'x' :: ds | '0' :: 'X' :: ds => value 16 ds
  | '0' :: d :: ds => value 8 (d :: ds)
  | ds => value 10 ds

/-- The labels without an empty one at the end, unless it is the only one. -/
def dropFinalEmpty (labels : List (List Char)) : List (List Char) :=
  if labels.length > 1 && labels.getLast? == some [] then labels.dropLast else labels

/-- The last label is a number, so that the host has to be numbers only. -/
def endsInNumber (labels : List (List Char)) : Bool :=
  match (dropFinalEmpty labels).getLast? with
  | none => false
  | some [] => false
  | some l => l.all Char.isDigit || (hostNumber? l).isSome

/-- Up to four numbers of one byte each; the last one fills all the bytes that are left. -/
def isNumericHost (labels : List (List Char)) : Bool :=
  let parts := dropFinalEmpty labels
  match parts.mapM hostNumber? with
  | none => false
  | some ns =>
    ns.length ≤ 4 && ns.dropLast.all (· ≤ 255)
      && (match ns.getLast? with
        | some n => n < Nat.pow 256 (5 - ns.length)
        | none => false)

/-- Four decimal numbers of one byte each, without zeros before them. -/
def isDottedQuad (cs : List Char) : Bool :=
  let parts := Text.splitAt (· == '.') cs
  parts.length == 4 && parts.all fun p =>
    !p.isEmpty && p.all Char.isDigit && (p.length == 1 || p.head? != some '0')
      && p.length ≤ 3 && p.foldl (fun n c => n * 10 + (c.toNat - 48)) 0 ≤ 255

def isHexDigit (c : Char) : Bool :=
  c.isDigit || ('a' ≤ c && c ≤ 'f') || ('A' ≤ c && c ≤ 'F')

/-- How many pieces of 16 bits are written between colons; the last ones may be four decimal
numbers. Nothing if a piece is malformed. -/
def pieceCount? : List (List Char) → Option Nat
  | [] => some 0
  | [last] =>
    if last.contains '.' then if isDottedQuad last then some 2 else none
    else if !last.isEmpty && last.length ≤ 4 && last.all isHexDigit then some 1
    else none
  | p :: rest =>
    if !p.isEmpty && p.length ≤ 4 && p.all isHexDigit then (pieceCount? rest).map (· + 1) else none

/-- Splits at the first double colon. -/
def splitGap (before : List Char) : List Char → Option (List Char × List Char)
  | ':' :: ':' :: rest => some (before.reverse, rest)
  | c :: rest => splitGap (c :: before) rest
  | [] => none

/-- The pieces on one side of a double colon. -/
def sidePieces (cs : List Char) : List (List Char) :=
  if cs.isEmpty then [] else Text.splitAt (· == ':') cs

/-- An address of the sixth version: eight pieces, of which a double colon leaves out some. -/
def isSixthVersion (cs : List Char) : Bool :=
  match splitGap [] cs with
  | none => pieceCount? (sidePieces cs) == some 8
  | some (a, b) =>
    !a.contains '.'
      && match pieceCount? (sidePieces a), pieceCount? (sidePieces b) with
        | some m, some n => m + n ≤ 7
        | _, _ => false

/-! ## Hosts -/

/-- Replaces the bytes that are written as a percent sign and two hexadecimal digits. -/
def percentDecode : List UInt8 → List UInt8
  | 0x25 :: a :: b :: rest =>
    let digit (x : UInt8) : Option Nat :=
      let n := x.toNat
      if 48 ≤ n ∧ n ≤ 57 then some (n - 48)
      else if 65 ≤ n ∧ n ≤ 70 then some (n - 55)
      else if 97 ≤ n ∧ n ≤ 102 then some (n - 87)
      else none
    match digit a, digit b with
    | some m, some n => UInt8.ofNat (m * 16 + n) :: percentDecode rest
    | _, _ => 0x25 :: percentDecode (a :: b :: rest)
  | x :: rest => x :: percentDecode rest
  | [] => []

/-- The text of a host with all escapes replaced. -/
def hostText? (host : List Char) : Option (List Char) :=
  let bytes := percentDecode (String.ofList host).toUTF8.toList
  (String.fromUTF8? ⟨bytes.toArray⟩).map String.toList

def isHost (host : List Char) : Bool :=
  if host.head? == some '[' then
    host.getLast? == some ']' && host.length ≥ 2 && isSixthVersion (host.drop 1).dropLast
  else
    match (hostText? host).bind Domain.labels? with
    | none => false
    | some labels => labels != [[]] && (!endsInNumber labels || isNumericHost labels)

/-- What may stand after the colon of a host: nothing, or a number of 16 bits. -/
def isSocketNumber (cs : List Char) : Bool :=
  cs.all Char.isDigit && cs.foldl (fun n c => n * 10 + (c.toNat - 48)) 0 ≤ 65535

/-- Splits a host from its socket number, at the first colon that is not between brackets. -/
def splitHost (inBrackets : Bool) : List Char → List Char × List Char
  | [] => ([], [])
  | c :: cs =>
    if c = ':' ∧ !inBrackets then ([], cs)
    else
      let inside := if c = '[' then true else if c = ']' then false else inBrackets
      let (host, number) := splitHost inside cs
      (c :: host, number)

/-! ## Addresses -/

/-- The scheme in lower case and what stands after its colon. -/
def splitScheme? (cs : List Char) : Option (List Char × List Char) :=
  let isPart (c : Char) := c.isAlphanum || c == '+' || c == '-' || c == '.'
  let scheme := cs.takeWhile isPart
  match scheme, cs.dropWhile isPart with
  | first :: _, ':' :: rest => if first.isAlpha then some (scheme.map Char.toLower, rest) else none
  | _, _ => none

/-- Drops everything up to the last `@`. -/
def dropUser (authority : List Char) : List Char :=
  (authority.reverse.takeWhile (· ≠ '@')).reverse

/-- The text is an address on the web. -/
def isWebAddress (text : String) : Bool :=
  let isEdge (c : Char) := c.toNat ≤ 0x20
  let trimmed := ((text.toList.dropWhile isEdge).reverse.dropWhile isEdge).reverse
  let cs := trimmed.filter fun c => !(c == '\t' || c == '\n' || c == '\r')
  match splitScheme? cs with
  | none => false
  | some (scheme, rest) =>
    let isSlash (c : Char) := c == '/' || c == '\\'
    let authority := (rest.dropWhile isSlash).takeWhile fun c => !(isSlash c || c == '?' || c == '#')
    let (host, number) := splitHost false (dropUser authority)
    (scheme == "http".toList || scheme == "https".toList) && !host.isEmpty && isHost host
      && isSocketNumber number

end ProfileKit.Url

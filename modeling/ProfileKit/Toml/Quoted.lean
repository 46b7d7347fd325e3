/-!
# Quoted text of TOML

A text is written in the plainest of the four ways in which it needs no escapes: between quotes,
literally, over several lines, or literally over several lines. A text for which none of them will
do is written with escapes. A tab never decides between the ways, but is escaped where escapes are.
-/

namespace ProfileKit.Toml

/-- The longest run of a character. -/
def longestRun (c : Char) (cs : List Char) : Nat :=
  (cs.foldl (fun (acc : Nat × Nat) d =>
    let now := if d = c then acc.1 + 1 else 0
    (now, max acc.2 now)) (0, 0)).2

/-- A control character that can only be written as an escape. -/
def isControl (c : Char) : Bool :=
  (c.toNat ≤ 0x1F && c ≠ '\t' && c ≠ '\n') || c.toNat == 0x7F

def hexDigits (n : Nat) : List Char :=
  let ds := (Nat.toDigits 16 n).map Char.toUpper
  List.replicate (4 - ds.length) '0' ++ ds

/-- Writes characters with escapes. A line feed and up to `quotes` quotes in a row stand for
themselves where that is allowed; `run` counts the quotes right before. -/
def escapeChars (lines : Bool) (quotes run : Nat) : List Char → List Char
  | [] => []
  | '"' :: cs =>
    if run < quotes then '"' :: escapeChars lines quotes (run + 1) cs
    else '\\' :: '"' :: escapeChars lines quotes 0 cs
  | '\x08' :: cs => '\\' :: 'b' :: escapeChars lines quotes 0 cs
  | '\t' :: cs => '\\' :: 't' :: escapeChars lines quotes 0 cs
  | '\n' :: cs => (if lines then ['\n'] else ['\\', 'n']) ++ escapeChars lines quotes 0 cs
  | '\x0c' :: cs => '\\' :: 'f' :: escapeChars lines quotes 0 cs
  | '\r' :: cs => '\\' :: 'r' :: escapeChars lines quotes 0 cs
  | '\\' :: cs => '\\' :: '\\' :: escapeChars lines quotes 0 cs
  | c :: cs =>
    (if isControl c then ['\\', 'u'] ++ hexDigits c.toNat else [c]) ++ escapeChars lines quotes 0 cs

/-- The written form of a text. -/
def quote (s : String) : String :=
  let cs := s.toList
  let controls := cs.any isControl
  let backslash := cs.contains '\\'
  let newLine := cs.contains '\n'
  let singles := longestRun '\'' cs
  let doubles := longestRun '"' cs
  let basic := ['"'] ++ escapeChars false 0 0 cs ++ ['"']
  let basicLines := ['"', '"', '"', '\n'] ++ escapeChars true 2 0 cs ++ ['"', '"', '"']
  String.ofList <|
    if !controls && !backslash && doubles = 0 && !newLine then basic
    else if !controls && singles = 0 && !newLine then ['\''] ++ cs ++ ['\'']
    else if !controls && !backslash && doubles ≤ 2 then basicLines
    else if !controls && singles ≤ 2 then ['\'', '\'', '\'', '\n'] ++ cs ++ ['\'', '\'', '\'']
    else if newLine then basicLines
    else basic

end ProfileKit.Toml

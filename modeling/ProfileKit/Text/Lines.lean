/-!
# Lines

A text is split into lines at line feeds; a carriage return before one belongs to the line end.

| here | `parser` of glossa-core |
| --- | --- |
| `splitLines`, `joinLines` | the lines in `ParseOutput::from_text`, the text in `from_lines` |
| `dropFinalBreaks` | `trim_trailing_newlines` |
| `physicalLines` | `split_lines` |
-/

namespace ProfileKit.Text

/-- Splits at a character. There is always one part more than there are separators. -/
def splitAt (separator : Char → Bool) : List Char → List (List Char)
  | [] => [[]]
  | c :: cs =>
    if separator c then [] :: splitAt separator cs
    else
      match splitAt separator cs with
      | [] => [[c]]
      | part :: parts => (c :: part) :: parts

/-- The parts of a text between line feeds. -/
def splitLines (s : String) : List String := (splitAt (· == '\n') s.toList).map String.ofList

/-- A text without the line ends at its end. -/
def dropFinalBreaks (s : String) : String :=
  String.ofList (s.toList.reverse.dropWhile fun c => c == '\n' || c == '\r').reverse

/-- A line without the one carriage return at its end. -/
def dropReturn (line : List Char) : List Char :=
  if line.getLast? == some '\r' then line.dropLast else line

/-- The lines of a text, without the carriage returns that belong to line ends. -/
def physicalLines (s : String) : List String :=
  (splitAt (· == '\n') s.toList).map fun line => String.ofList (dropReturn line)

/-- Lines with line feeds between them. -/
def joinLines (lines : List String) : String := "\n".intercalate lines

end ProfileKit.Text

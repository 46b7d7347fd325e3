import ProfileKit.Json
import ProfileKit.Decimal.Text

/-!
# Writing JSON text

The compact form has no blanks; the indented form puts every item and field on a line of its own,
two spaces deeper than what holds it. Only quotes, backslashes and control characters are escaped.

`render` is how `parser::json::stringify` and `sync::forms::text_of` write a value, `renderIndented`
how `sync::forms::json_text_of` does.
-/

namespace ProfileKit.Json

/-- The text of an integer or float. -/
def Number.render (layout : Binary64.Layout) : Number → String
  | .natural n => toString n
  | .negative n => "-" ++ toString (n + 1)
  | .float x => x.render layout

def hexDigit (n : Nat) : Char :=
  if n < 10 then Char.ofNat ('0'.toNat + n) else Char.ofNat ('a'.toNat + (n - 10))

/-- A character of a string, escaped where it has to be. -/
def escape (c : Char) : List Char :=
  if c = '"' then ['\\', '"']
  else if c = '\\' then ['\\', '\\']
  else if c = '\n' then ['\\', 'n']
  else if c = '\r' then ['\\', 'r']
  else if c = '\t' then ['\\', 't']
  else if c = '\x08' then ['\\', 'b']
  else if c = '\x0c' then ['\\', 'f']
  else if c.toNat < 0x20 then ['\\', 'u', '0', '0', hexDigit (c.toNat / 16), hexDigit (c.toNat % 16)]
  else [c]

def quote (s : String) : String := "\"" ++ String.ofList (s.toList.flatMap escape) ++ "\""

/-- The text of a value that holds no other values. -/
def renderScalar : Json → String
  | .null => "null"
  | .bool true => "true"
  | .bool false => "false"
  | .number n => n.render .signed
  | .string s => quote s
  | .array _ => "[]"
  | .object _ => "\x7b\x7d"

mutual
/-- The compact text of a value. -/
def render : Json → String
  | .array items => "[" ++ renderItems items ++ "]"
  | .object fields => "\x7b" ++ renderFields fields ++ "\x7d"
  | v => renderScalar v

def renderItems : List Json → String
  | [] => ""
  | [v] => render v
  | v :: rest => render v ++ "," ++ renderItems rest

def renderFields : List (String × Json) → String
  | [] => ""
  | [(k, v)] => quote k ++ ":" ++ render v
  | (k, v) :: rest => quote k ++ ":" ++ render v ++ "," ++ renderFields rest
end

/-- A new line, indented. -/
def newLine (depth : Nat) : String := "\n" ++ String.ofList (List.replicate (2 * depth) ' ')

mutual
/-- The indented text of a value that stands `depth` levels deep. -/
def renderIndentedAt (depth : Nat) : Json → String
  | .array (v :: rest) =>
    "[" ++ renderIndentedItems (depth + 1) (v :: rest) ++ newLine depth ++ "]"
  | .object (f :: rest) =>
    "\x7b" ++ renderIndentedFields (depth + 1) (f :: rest) ++ newLine depth ++ "\x7d"
  | v => renderScalar v

def renderIndentedItems (depth : Nat) : List Json → String
  | [] => ""
  | [v] => newLine depth ++ renderIndentedAt depth v
  | v :: rest => newLine depth ++ renderIndentedAt depth v ++ "," ++ renderIndentedItems depth rest

def renderIndentedFields (depth : Nat) : List (String × Json) → String
  | [] => ""
  | [(k, v)] => newLine depth ++ quote k ++ ": " ++ renderIndentedAt depth v
  | (k, v) :: rest =>
    newLine depth ++ quote k ++ ": " ++ renderIndentedAt depth v ++ ","
      ++ renderIndentedFields depth rest
end

/-- The indented text of a value. -/
def renderIndented (v : Json) : String := renderIndentedAt 0 v

end ProfileKit.Json

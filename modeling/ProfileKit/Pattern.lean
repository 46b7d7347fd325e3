import ProfileKit.Pattern.Program

/-!
# Patterns

A pattern is compiled under options and then matched against texts. A match gives the text of every
group that took part in it; of several matches the leftmost one is taken, and of those the one that
the pattern prefers.

| here | `parser::pattern` of glossa-core |
| --- | --- |
| `compile?` | what `pattern::compile` asks of the library of patterns |
| `captures?`, `groupCount`, `names` | `captures`, `captures_len` and `capture_names` of what it gives |
-/

namespace ProfileKit

/-- A compiled pattern: the text it was written as, its program, and its groups. -/
structure Pattern where
  source : String
  program : Array Pattern.Instr
  /-- How many groups there are, the whole match included. -/
  groupCount : Nat
  /-- The names of groups with their numbers. -/
  names : List (String × Nat)
deriving Repr

namespace Pattern

/-- The greatest number of instructions of a program. It stands in for the limit that the library of
patterns sets in bytes, 10 MiB: an instruction is taken for 32 bytes, and a class counts as one
instruction, whatever its size. -/
def programLimit : Nat := 327680

/-- Compiles a pattern, unless its program is too long. -/
def compile? (options : Options) (source : String) : Option Pattern := do
  let a ← Ast.read? source.toList
  let (e, _) ← a.resolve options
  guard (e.codeLength ≤ programLimit)
  let groups := e.captures
  some {
    source
    program := e.program
    groupCount := groups.foldl (fun n g => max n (g.1 + 1)) 1
    names := groups.filterMap fun (i, name) => name.map (·, i) }

/-- The text of each group in a match, by number; nothing for a group that took no part. -/
abbrev Captures := List (Option String)

/-- The part of a text between two places. -/
def slice (text : Array Char) (first last : Nat) : String :=
  String.ofList ((text.toList.drop first).take (last - first))

/-- The groups of the leftmost match in a text. -/
def captures? (p : Pattern) (text : String) : Option Captures :=
  let cs := text.toList.toArray
  (search p.program (2 * p.groupCount) cs).map fun slots =>
    (List.range p.groupCount).map fun i =>
      match slots.getD (2 * i) none, slots.getD (2 * i + 1) none with
      | some a, some b => some (slice cs a b)
      | _, _ => none

/-- The number of a named group. -/
def groupNumber? (p : Pattern) (name : String) : Option Nat := p.names.lookup name

end Pattern
end ProfileKit

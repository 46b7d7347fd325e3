import ProfileKit.Pattern.Expr

/-!
# Matching by a program

An expression becomes a list of instructions, and a text is matched by following them from one place
to the next, the preferred one first. No instruction is followed twice at one place of the text: a
second time it could only fail as the first time did, or go round in a loop that does not move on.
So a run takes at most as many steps as there are pairs of an instruction and a place.
-/

namespace ProfileKit.Pattern

open Unicode (CharSet)

/-- One instruction. Addresses count from the start of the program. -/
inductive Instr where
  | accept
  | set (s : CharSet)
  | look (l : Look)
  /-- Notes the place in a slot. -/
  | save (slot : Nat)
  | jump (address : Nat)
  /-- Goes on at two addresses, preferably the first. -/
  | split (first second : Nat)
deriving Repr

instance : Inhabited Instr := ⟨.accept⟩

/-- A split that prefers the body of a repetition if it is greedy. -/
def Instr.optional (greedy : Bool) (body next : Nat) : Instr :=
  if greedy then .split body next else .split next body

/-- Code that depends on the address where it stands. -/
abbrev Code := Nat → List Instr

/-- Several copies of code of a length, one after the other. -/
def Code.times (code : Code) (length n : Nat) : Code := fun start =>
  (List.range n).flatMap fun i => code (start + i * length)

/-- One time or more. -/
def Code.oneOrMore (code : Code) (greedy : Bool) : Code := fun start =>
  let body := code start
  body ++ [.optional greedy start (start + body.length + 1)]

/-- Any number of times. A body that can match the empty text is made optional as a whole, so that
its first round is preferred as the expression says. -/
def Code.zeroOrMore (code : Code) (greedy nullable : Bool) : Code := fun start =>
  if nullable then
    let body := Code.oneOrMore code greedy (start + 1)
    .optional greedy (start + 1) (start + 1 + body.length) :: body
  else
    let body := code (start + 1)
    .optional greedy (start + 1) (start + body.length + 2) :: body ++ [.jump start]

/-- Up to `n` times, each time only after the one before. -/
def Code.optionals (code : Code) (length : Nat) (greedy : Bool) (n : Nat) : Code := fun start =>
  (List.range n).flatMap fun i =>
    let here := start + i * (length + 1)
    .optional greedy (here + 1) (start + n * (length + 1)) :: code (here + 1)

/-- A repetition within bounds. -/
def Code.repeated (code : Code) (length min : Nat) (max : Option Nat) (greedy nullable : Bool) :
    Code := fun start =>
  match max with
  | none =>
    match min with
    | 0 => Code.zeroOrMore code greedy nullable start
    | n + 1 =>
      Code.times code length n start ++ Code.oneOrMore code greedy (start + n * length)
  | some max =>
    Code.times code length min start
      ++ Code.optionals code length greedy (max - min) (start + min * length)

/-- The number of instructions of an expression. -/
def Expr.codeLength : Expr → Nat
  | .empty => 0
  | .set _ | .look _ => 1
  | .capture _ _ e => e.codeLength + 2
  | .sequence a b => a.codeLength + b.codeLength
  | .choice a b => a.codeLength + b.codeLength + 2
  | .repetition 0 none _ e => e.codeLength + 2
  | .repetition (n + 1) none _ e => (n + 1) * e.codeLength + 1
  | .repetition min (some max) _ e => min * e.codeLength + (max - min) * (e.codeLength + 1)

/-- The code of an expression. -/
def Expr.code : Expr → Code
  | .empty => fun _ => []
  | .set s => fun _ => [.set s]
  | .look l => fun _ => [.look l]
  | .capture index _ e => fun start =>
    .save (2 * index) :: e.code (start + 1) ++ [.save (2 * index + 1)]
  | .sequence a b => fun start =>
    let first := a.code start
    first ++ b.code (start + first.length)
  | .choice a b => fun start =>
    let first := a.code (start + 1)
    let second := b.code (start + first.length + 2)
    .split (start + 1) (start + first.length + 2) :: first
      ++ .jump (start + first.length + 2 + second.length) :: second
  | .repetition min max greedy e =>
    Code.repeated e.code e.codeLength min max greedy e.isNullable

/-- The program of an expression; the match itself is its group 0. -/
def Expr.program (e : Expr) : Array Instr :=
  let code : List Instr := .save 0 :: e.code 1 ++ [.save 1, .accept]
  code.toArray

/-! ## Running -/

/-- What is left to do: follow an instruction at a place, or take a note back. -/
inductive Job where
  | explore (address place : Nat)
  | restore (slot : Nat) (old : Option Nat)

/-- A run: the notes taken, and which instructions were followed at which places. -/
structure Run where
  slots : Array (Option Nat)
  visited : Array Bool

/-- A character that words are made of. -/
def isWordChar (unicode : Bool) (c : Char) : Bool :=
  c.isAlphanum || c == '_'
    || (unicode && 0x80 ≤ c.toNat && Unicode.wordCharacters.contains c.toNat)

/-- Whether a condition holds between two characters; there is none at the ends of the text. -/
def Look.holds (before after : Option Char) : Look → Bool
  | .textStart => before.isNone
  | .textEnd => after.isNone
  | .lineStart => before.all (· == '\n')
  | .lineEnd => after.all (· == '\n')
  | .lineStartCrlf => before.all fun b => b == '\n' || (b == '\r' && after != some '\n')
  | .lineEndCrlf => after.all fun a => a == '\r' || (a == '\n' && before != some '\r')
  | .word kind unicode =>
    let b := before.any (isWordChar unicode)
    let a := after.any (isWordChar unicode)
    match kind with
    | .wordBoundary => b != a
    | .notWordBoundary => b == a
    | .wordStart => !b && a
    | .wordEnd => b && !a
    | .wordStartHalf => !b
    | .wordEndHalf => !a
    | _ => true

/-- Does the jobs in order until one accepts. -/
def runJobs (program : Array Instr) (text : Array Char) :
    (fuel : Nat) → List Job → Run → Option (Array (Option Nat))
  | 0, _, _ => none
  | _ + 1, [], _ => none
  | fuel + 1, .restore slot old :: jobs, run =>
    runJobs program text fuel jobs { run with slots := run.slots.setIfInBounds slot old }
  | fuel + 1, .explore address place :: jobs, run =>
    let mark := address * (text.size + 1) + place
    if run.visited.getD mark true then runJobs program text fuel jobs run
    else
      let run := { run with visited := run.visited.setIfInBounds mark true }
      match program.getD address .accept with
      | .accept => some run.slots
      | .set s =>
        if text[place]?.any (fun c => s.contains c.toNat) then
          runJobs program text fuel (.explore (address + 1) (place + 1) :: jobs) run
        else runJobs program text fuel jobs run
      | .look l =>
        let before := if place = 0 then none else text[place - 1]?
        if l.holds before text[place]? then
          runJobs program text fuel (.explore (address + 1) place :: jobs) run
        else runJobs program text fuel jobs run
      | .save slot =>
        let jobs := .explore (address + 1) place :: .restore slot (run.slots.getD slot none) :: jobs
        runJobs program text fuel jobs
          { run with slots := run.slots.setIfInBounds slot (some place) }
      | .jump target => runJobs program text fuel (.explore target place :: jobs) run
      | .split first second =>
        runJobs program text fuel (.explore first place :: .explore second place :: jobs) run

/-- The notes of the leftmost match: a match is tried at every place in turn. -/
def search (program : Array Instr) (slotCount : Nat) (text : Array Char) :
    Option (Array (Option Nat)) :=
  let pairs := program.size * (text.size + 1)
  let starts := (List.range (text.size + 1)).map (Job.explore 0)
  runJobs program text (2 * pairs + text.size + 3) starts
    ⟨Array.replicate slotCount none, Array.replicate pairs false⟩

end ProfileKit.Pattern

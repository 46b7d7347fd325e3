import ProfileKit.Pattern.Reader
import ProfileKit.Unicode.CaseFolding
import ProfileKit.Unicode.Script

/-!
# Patterns with their classes worked out

What a pattern means: sets of characters, assertions, captures, repetitions and choices, with all
flags resolved and the names of classes looked up. A flag set inside a group holds up to the end of
the group, in later branches too.
-/

namespace ProfileKit.Pattern

open Unicode (CharSet)

/-- A condition on the place between two characters, with the flags that bear on it resolved. -/
inductive Look where
  | textStart
  | textEnd
  | lineStart
  | lineEnd
  | lineStartCrlf
  | lineEndCrlf
  | word (kind : Assertion) (unicode : Bool)
deriving DecidableEq, Repr

/-- The meaning of a pattern. -/
inductive Expr where
  | empty
  | set (s : CharSet)
  | look (l : Look)
  | capture (index : Nat) (name : Option String) (body : Expr)
  | sequence (first second : Expr)
  | choice (first second : Expr)
  | repetition (min : Nat) (max : Option Nat) (greedy : Bool) (body : Expr)
deriving Repr

instance : Inhabited Expr := ⟨.empty⟩

/-- The matching options in force. -/
structure Options where
  ignoreCase : Bool := false
  multiLine : Bool := false
  dotAll : Bool := false
  swapGreed : Bool := false
  unicode : Bool := true
  crlf : Bool := false
deriving DecidableEq, Repr

namespace Options

/-- Switches a flag. -/
def switch (o : Options) (on : Bool) : Flag → Options
  | .ignoreCase => { o with ignoreCase := on }
  | .multiLine => { o with multiLine := on }
  | .dotAll => { o with dotAll := on }
  | .swapGreed => { o with swapGreed := on }
  | .unicode => { o with unicode := on }
  | .crlf => { o with crlf := on }
  | .verbose => o

/-- Switches flags, those after the mark off. -/
def apply (o : Options) : (on : Bool) → List FlagItem → Options
  | _, [] => o
  | _, .negation :: rest => o.apply false rest
  | on, .flag f :: rest => (o.switch on f).apply on rest

end Options

/-! ## Classes -/

/-- The letters of a name that count: lower case, without separators and without a leading `is`. -/
def normalizeName (name : List Char) : String :=
  let kept := name.filter fun c => !(c == ' ' || c == '_' || c == '-') && c.toNat < 0x80
  let lower := kept.map Char.toLower
  let stem := match lower with
    | 'i' :: 's' :: rest => if lower == ['i', 's', 'c'] then lower else rest
    | _ => lower
  String.ofList stem

/-- The set of a name alone: a property, a category or a script. -/
def lookUpName (name : List Char) : Option CharSet :=
  let n := normalizeName name
  let property :=
    if n = "cf" || n = "sc" || n = "lc" then none else Unicode.Property.find? n
  match property with
  | some s => some s
  | none =>
    match Unicode.GeneralCategory.find? n with
    | some s => some s
    | none => (Unicode.Script.find? n).map Unicode.Script.charSet

/-- Splits a query at the first place where `mark` occurs. -/
def splitQuery (mark : List Char) : List Char → Option (List Char × List Char)
  | [] => none
  | c :: cs =>
    if mark.isPrefixOf (c :: cs) then some ([], (c :: cs).drop mark.length)
    else (splitQuery mark cs).map fun (a, b) => (c :: a, b)

/-- The set of a property with a value. -/
def lookUpValue (property value : List Char) : Option CharSet :=
  let p := normalizeName property
  let v := normalizeName value
  if p = "generalcategory" || p = "gc" then Unicode.GeneralCategory.find? v
  else if p = "script" || p = "sc" then (Unicode.Script.find? v).map Unicode.Script.charSet
  else if p = "scriptextensions" || p = "scx" then
    (Unicode.Script.find? v).map Unicode.Script.extension
  else none

/-- The set that a query between braces asks for. -/
def lookUpQuery (query : String) : Option CharSet :=
  let q := query.toList
  match splitQuery ['!', '='] q with
  | some (p, v) => (lookUpValue p v).map (·.complement)
  | none =>
    match splitQuery [':'] q with
    | some (p, v) => lookUpValue p v
    | none =>
      match splitQuery ['='] q with
      | some (p, v) => lookUpValue p v
      | none => lookUpName q

/-- The characters of a class named between colons. -/
def posixSet (name : String) : CharSet :=
  let r := CharSet.range
  .ofRanges <| List.flatten <| List.map (fun s => s.ranges.toList) <| match name with
    | "alnum" => [r 0x30 0x39, r 0x41 0x5A, r 0x61 0x7A]
    | "alpha" => [r 0x41 0x5A, r 0x61 0x7A]
    | "ascii" => [r 0 0x7F]
    | "blank" => [r 0x09 0x09, r 0x20 0x20]
    | "cntrl" => [r 0 0x1F, r 0x7F 0x7F]
    | "digit" => [r 0x30 0x39]
    | "graph" => [r 0x21 0x7E]
    | "lower" => [r 0x61 0x7A]
    | "print" => [r 0x20 0x7E]
    | "punct" => [r 0x21 0x2F, r 0x3A 0x40, r 0x5B 0x60, r 0x7B 0x7E]
    | "space" => [r 0x09 0x0D, r 0x20 0x20]
    | "upper" => [r 0x41 0x5A]
    | "word" => [r 0x30 0x39, r 0x41 0x5A, r 0x5F 0x5F, r 0x61 0x7A]
    | "xdigit" => [r 0x30 0x39, r 0x41 0x46, r 0x61 0x66]
    | _ => []

/-- The characters of a class with a one-letter name. -/
def shortSet (unicode : Bool) : ShortClass → CharSet
  | .digit => if unicode then Unicode.decimalDigits else posixSet "digit"
  | .blank => if unicode then Unicode.Property.charSet "White_Space" else posixSet "space"
  | .word => if unicode then Unicode.wordCharacters else posixSet "word"

def foldSet (o : Options) (s : CharSet) : CharSet :=
  if !o.ignoreCase then s else if o.unicode then s.foldCase else s.foldAsciiCase

/-- Closes a set under case where case is ignored, and then negates it. Without Unicode the
complement could match a part of a character only, so there is none. -/
def foldAndNegate (o : Options) (negated : Bool) (s : CharSet) : Option CharSet :=
  let s := foldSet o s
  if !negated then some s
  else if o.unicode then some s.complement
  else none

/-- A character that a class without Unicode can hold. -/
def admits (o : Options) (c : Char) : Bool := o.unicode || c.toNat < 0x80

mutual
/-- The characters of a class. -/
def ClassNode.resolve (o : Options) : ClassNode → Option CharSet
  | .empty => some .empty
  | .literal c _ => if admits o c then some (.single c.toNat) else none
  | .range a b => if admits o a && admits o b then some (.range a.toNat b.toNat) else none
  | .posix negated name => foldAndNegate o negated (posixSet name)
  | .short negated kind =>
    let s := shortSet o.unicode kind
    if !negated then some s else if o.unicode then some s.complement else none
  | .property negated query =>
    if o.unicode then (lookUpQuery query).bind (foldAndNegate o negated) else none
  | .bracketed negated body => (body.resolve o).bind (foldAndNegate o negated)
  | .union items => ClassNode.resolveAll o items
  | .combine op l r =>
    match l.resolve o, r.resolve o with
    | some l, some r =>
      let l := foldSet o l
      let r := foldSet o r
      some <| match op with
        | .intersection => l.inter r
        | .difference => l.diff r
        | .symmetricDifference => l.symmDiff r
    | _, _ => none

/-- The characters of several classes. -/
def ClassNode.resolveAll (o : Options) : List ClassNode → Option CharSet
  | [] => some .empty
  | c :: cs =>
    match c.resolve o, ClassNode.resolveAll o cs with
    | some s, some t => some (s.union t)
    | _, _ => none
end

/-! ## Lengths -/

/-- The number of characters that a match has at least; nothing for an expression that matches
nothing. -/
def Expr.minLength : Expr → Option Nat
  | .empty | .look _ => some 0
  | .set s => if s.isEmpty then none else some 1
  | .capture _ _ e => e.minLength
  | .sequence a b =>
    match a.minLength, b.minLength with
    | some m, some n => some (m + n)
    | _, _ => none
  | .choice a b =>
    match a.minLength, b.minLength with
    | some m, some n => some (min m n)
    | some m, none => some m
    | none, n => n
  | .repetition min _ _ e => e.minLength.map (· * min)

/-- Whether every match is empty. -/
def Expr.isEmptyOnly : Expr → Bool
  | .empty | .look _ => true
  | .set _ => false
  | .capture _ _ e => e.isEmptyOnly
  | .sequence a b | .choice a b => a.isEmptyOnly && b.isEmptyOnly
  | .repetition _ max _ e => e.isEmptyOnly || max == some 0

/-- Whether an expression can match without moving on. -/
def Expr.isNullable (e : Expr) : Bool := !e.minLength.any (0 < ·)

/-- A repetition. What matches the empty text only is matched once at most; no repetition at all
leaves nothing of the body, its captures included. -/
def Expr.repeated (min : Nat) (max : Option Nat) (greedy : Bool) (e : Expr) : Expr :=
  let (min, max) :=
    if e.isEmptyOnly then (Nat.min min 1, some ((max.map (Nat.min 1)).getD 1)) else (min, max)
  if min = 0 && max == some 0 then .empty
  else if min = 1 && max == some 1 then e
  else .repetition min max greedy e

/-! ## Patterns -/

def Assertion.resolve (o : Options) : Assertion → Look
  | .lineStart =>
    if !o.multiLine then .textStart else if o.crlf then .lineStartCrlf else .lineStart
  | .lineEnd => if !o.multiLine then .textEnd else if o.crlf then .lineEndCrlf else .lineEnd
  | .textStart => .textStart
  | .textEnd => .textEnd
  | a => .word a o.unicode

/-- What a dot stands for: any character but the end of a line, unless it stands for all. -/
def dotSet (o : Options) : CharSet :=
  if o.dotAll then .any
  else if o.crlf then (CharSet.ofRanges [(0x0A, 0x0A), (0x0D, 0x0D)]).complement
  else (CharSet.single 0x0A).complement

/-- A literal. Without Unicode one written as an octet stands for a byte, which has to be ASCII. -/
def literalExpr (o : Options) (c : Char) (octet : Bool) : Option Expr :=
  if !o.unicode && octet && 0x80 ≤ c.toNat then none else some (.set (foldSet o (.single c.toNat)))

mutual
/-- The meaning of a pattern under options, with the options in force after it. -/
def Ast.resolve (o : Options) : Ast → Option (Expr × Options)
  | .empty => some (.empty, o)
  | .literal c octet => (literalExpr o c octet).map (·, o)
  | .dot => if o.unicode then some (.set (dotSet o), o) else none
  | .assertion a => some (.look (a.resolve o), o)
  | .flags items => some (.empty, o.apply true items)
  | .charClass c => (c.resolve o).map fun s => (.set s, o)
  | .group kind body =>
    match kind with
    | .capture index name => (body.resolve o).map fun (e, _) => (.capture index name e, o)
    | .plain items => (body.resolve (o.apply true items)).map fun (e, _) => (e, o)
  | .repetition min max greedy body =>
    (body.resolve o).map fun (e, o) => (.repeated min max (greedy != o.swapGreed) e, o)
  | .alternation branches => Ast.resolveBranches o branches
  | .sequence items => Ast.resolveItems o items

/-- The meaning of branches, of which earlier ones are preferred. -/
def Ast.resolveBranches (o : Options) : List Ast → Option (Expr × Options)
  | [] => some (.set .empty, o)
  | [a] => a.resolve o
  | a :: more =>
    match a.resolve o with
    | none => none
    | some (e, o) => (Ast.resolveBranches o more).map fun (f, o) => (.choice e f, o)

/-- The meaning of a sequence. -/
def Ast.resolveItems (o : Options) : List Ast → Option (Expr × Options)
  | [] => some (.empty, o)
  | [a] => a.resolve o
  | a :: more =>
    match a.resolve o with
    | none => none
    | some (e, o) => (Ast.resolveItems o more).map fun (f, o) => (.sequence e f, o)
end

/-- The capturing groups that an expression still has, with their names. -/
def Expr.captures : Expr → List (Nat × Option String)
  | .capture index name e => (index, name) :: e.captures
  | .sequence a b | .choice a b => a.captures ++ b.captures
  | .repetition _ _ _ e => e.captures
  | _ => []

end ProfileKit.Pattern

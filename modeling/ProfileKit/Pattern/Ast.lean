/-!
# The grammar of patterns

A pattern as it is written: literals, classes, assertions, groups, repetitions and alternations,
with the places where flags change. Nothing is looked up here, so the names of classes may still be
unknown ones.

This module, `Pattern.Reader`, `Pattern.Expr` and `Pattern.Program` stand for the library that
`parser::pattern::compile` of glossa-core hands a pattern to.
-/

namespace ProfileKit.Pattern

/-- A matching option that a pattern can switch. -/
inductive Flag where
  | ignoreCase
  | multiLine
  | dotAll
  | swapGreed
  | unicode
  | crlf
  | verbose
deriving DecidableEq, Repr

/-- One sign of a list of flags: a flag, or the mark after which flags are switched off. -/
inductive FlagItem where
  | negation
  | flag (f : Flag)
deriving DecidableEq, Repr

/-- A condition on the place between two characters. -/
inductive Assertion where
  | lineStart
  | lineEnd
  | textStart
  | textEnd
  | wordBoundary
  | notWordBoundary
  | wordStart
  | wordEnd
  | wordStartHalf
  | wordEndHalf
deriving DecidableEq, Repr

/-- A class with a one-letter name. -/
inductive ShortClass where
  | digit
  | blank
  | word
deriving DecidableEq, Repr

/-- How two classes are combined inside brackets. -/
inductive SetOp where
  | intersection
  | difference
  | symmetricDifference
deriving DecidableEq, Repr

/-- What stands between brackets. -/
inductive ClassNode where
  | empty
  | literal (c : Char) (octet : Bool)
  | range (first last : Char)
  | posix (negated : Bool) (name : String)
  | short (negated : Bool) (kind : ShortClass)
  | property (negated : Bool) (query : String)
  | bracketed (negated : Bool) (body : ClassNode)
  | union (items : List ClassNode)
  | combine (op : SetOp) (left right : ClassNode)
deriving Repr

namespace ClassNode

mutual
/-- Equality of classes as they are written, as a Boolean. -/
def beq : ClassNode → ClassNode → Bool
  | .empty, .empty => true
  | .literal c octet, .literal d octet' => c == d && octet == octet'
  | .range first last, .range first' last' => first == first' && last == last'
  | .posix negated name, .posix negated' name' => negated == negated' && name == name'
  | .short negated kind, .short negated' kind' => negated == negated' && kind == kind'
  | .property negated query, .property negated' query' => negated == negated' && query == query'
  | .bracketed negated body, .bracketed negated' body' => negated == negated' && body.beq body'
  | .union items, .union items' => beqItems items items'
  | .combine op left right, .combine op' left' right' =>
    op == op' && left.beq left' && right.beq right'
  | _, _ => false

def beqItems : List ClassNode → List ClassNode → Bool
  | [], [] => true
  | c :: cs, d :: ds => c.beq d && beqItems cs ds
  | _, _ => false
end

mutual
theorem beq_iff : (c d : ClassNode) → (c.beq d = true ↔ c = d)
  | .empty, d | .literal _ _, d | .range _ _, d | .posix _ _, d | .short _ _, d
  | .property _ _, d => by cases d <;> simp [beq]
  | .bracketed _ body, d => by cases d <;> simp [beq, beq_iff body]
  | .union items, d => by cases d <;> simp [beq, beqItems_iff items]
  | .combine _ left right, d => by
    cases d <;> simp [beq, beq_iff left, beq_iff right, and_assoc]

theorem beqItems_iff : (cs ds : List ClassNode) → (beqItems cs ds = true ↔ cs = ds)
  | [], ds => by cases ds <;> simp [beqItems]
  | c :: cs, ds => by cases ds <;> simp [beqItems, beq_iff c, beqItems_iff cs]
end

instance : DecidableEq ClassNode := fun c d => decidable_of_iff _ (beq_iff c d)

end ClassNode

/-- What a pair of parentheses does: it captures under a number, and perhaps a name, or it only
groups, with flags of its own. -/
inductive GroupKind where
  | capture (index : Nat) (name : Option String)
  | plain (flags : List FlagItem)
deriving DecidableEq, Repr

/-- A pattern. An `octet` literal is one written as two hexadecimal digits. -/
inductive Ast where
  | empty
  | literal (c : Char) (octet : Bool)
  | dot
  | assertion (a : Assertion)
  | flags (items : List FlagItem)
  | charClass (c : ClassNode)
  | group (kind : GroupKind) (body : Ast)
  | repetition (min : Nat) (max : Option Nat) (greedy : Bool) (body : Ast)
  | alternation (branches : List Ast)
  | sequence (items : List Ast)
deriving Repr

instance : Inhabited Ast := ⟨.empty⟩

namespace Ast

mutual
/-- Equality of patterns as they are written, as a Boolean. -/
def beq : Ast → Ast → Bool
  | .empty, .empty | .dot, .dot => true
  | .literal c octet, .literal d octet' => c == d && octet == octet'
  | .assertion a, .assertion b => a == b
  | .flags items, .flags items' => items == items'
  | .charClass c, .charClass d => c == d
  | .group kind body, .group kind' body' => kind == kind' && body.beq body'
  | .repetition min max greedy body, .repetition min' max' greedy' body' =>
    min == min' && max == max' && greedy == greedy' && body.beq body'
  | .alternation branches, .alternation branches' => beqItems branches branches'
  | .sequence items, .sequence items' => beqItems items items'
  | _, _ => false

def beqItems : List Ast → List Ast → Bool
  | [], [] => true
  | a :: as, b :: bs => a.beq b && beqItems as bs
  | _, _ => false
end

mutual
theorem beq_iff : (a b : Ast) → (a.beq b = true ↔ a = b)
  | .empty, b | .literal _ _, b | .dot, b | .assertion _, b | .flags _, b | .charClass _, b => by
    cases b <;> simp [beq]
  | .group _ body, b => by cases b <;> simp [beq, beq_iff body]
  | .repetition _ _ _ body, b => by cases b <;> simp [beq, beq_iff body, and_assoc]
  | .alternation branches, b => by cases b <;> simp [beq, beqItems_iff branches]
  | .sequence items, b => by cases b <;> simp [beq, beqItems_iff items]

theorem beqItems_iff : (as bs : List Ast) → (beqItems as bs = true ↔ as = bs)
  | [], bs => by cases bs <;> simp [beqItems]
  | a :: as, bs => by cases bs <;> simp [beqItems, beq_iff a, beqItems_iff as]
end

instance : DecidableEq Ast := fun a b => decidable_of_iff _ (beq_iff a b)

end Ast

/-- The union of items, of which there may be none or one. -/
def ClassNode.ofItems : List ClassNode → ClassNode
  | [] => .empty
  | [c] => c
  | cs => .union cs

def Ast.ofItems : List Ast → Ast
  | [] => .empty
  | [a] => a
  | as => .sequence as

def Ast.ofBranches : List Ast → Ast
  | [a] => a
  | as => .alternation as

mutual
/-- How deep classes are nested. -/
def ClassNode.depth : ClassNode → Nat
  | .bracketed _ body => body.depth + 1
  | .union items => ClassNode.depths items + 1
  | .combine _ l r => max l.depth r.depth + 1
  | _ => 0

def ClassNode.depths : List ClassNode → Nat
  | [] => 0
  | c :: cs => max c.depth (ClassNode.depths cs)
end

mutual
/-- How deep a pattern is nested. -/
def Ast.depth : Ast → Nat
  | .charClass c => c.depth
  | .group _ body => body.depth + 1
  | .repetition _ _ _ body => body.depth + 1
  | .alternation branches => Ast.depths branches + 1
  | .sequence items => Ast.depths items + 1
  | _ => 0

def Ast.depths : List Ast → Nat
  | [] => 0
  | a :: as => max a.depth (Ast.depths as)
end

end ProfileKit.Pattern

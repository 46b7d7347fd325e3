import ProfileKit.Pattern.Reader
import ProfileKit.Proofs.Pattern.Respelling
import Mathlib.Data.List.Basic

/-!
# What a class holds

Conditions on the parts of a class, and how they grow while it is read: what is found among the items
read so far is found in the whole class.
-/

namespace ProfileKit.Pattern

mutual
/-- Whether a class or some part of it meets a condition. -/
def ClassNode.has (q : ClassNode → Bool) : ClassNode → Bool
  | .bracketed negated body => q (.bracketed negated body) || body.has q
  | .union items => q (.union items) || ClassNode.anyHas q items
  | .combine op left right => q (.combine op left right) || left.has q || right.has q
  | c => q c

/-- Whether some part of several classes meets a condition. -/
def ClassNode.anyHas (q : ClassNode → Bool) : List ClassNode → Bool
  | [] => false
  | c :: cs => c.has q || ClassNode.anyHas q cs
end

namespace ClassNode

/-- A class that is closed by a bracket of its own. -/
def isClass : ClassNode → Bool
  | .posix _ _ | .bracketed _ _ => true
  | _ => false

/-- A class in brackets with another class in it. -/
def isNested : ClassNode → Bool
  | .bracketed _ body => body.has isClass
  | _ => false

/-- A property that is asked for by a name with a sign in it respelling looks at. -/
def asksMarked : ClassNode → Bool
  | .property _ query => !decide (Unmarked query.toList)
  | _ => false

/-- The character that the text of an item ends in. -/
def last? : ClassNode → Option Char
  | .literal c _ | .range _ c => some c
  | _ => none

/-- A certain character, as an item. -/
def isLiteral (c : Char) : ClassNode → Bool
  | .literal d _ => d == c
  | _ => false

/-- Whether somewhere in a list of items the signs that open a named group stand in a row. -/
def spellsOpener : List ClassNode → Bool
  | x :: y :: z :: more =>
    (x.last? == some '(' && y.isLiteral '?' && z.isLiteral 'P') || spellsOpener (y :: z :: more)
  | _ => false

/-- An item that looks like the opening of a class or of a named group. -/
def misleads : ClassNode → Bool
  | .range _ last => last == '['
  | .union items => spellsOpener items
  | _ => false

/-- A condition that stays met as items are added to a class. -/
structure Grows (q : ClassNode → Bool) : Prop where
  empty : q .empty = false
  combine : ∀ op left right, q (.combine op left right) = false
  union : ∀ items c, q (.union items) = true → q (.union (items ++ [c])) = true

theorem grows_isClass : Grows isClass := ⟨rfl, fun _ _ _ => rfl, fun _ _ h => by cases h⟩

theorem grows_asksMarked : Grows asksMarked := ⟨rfl, fun _ _ _ => rfl, fun _ _ h => by cases h⟩

theorem spellsOpener_append (front : List ClassNode) {items : List ClassNode}
    (h : spellsOpener items = true) : spellsOpener (front ++ items) = true := by
  induction front with
  | nil => exact h
  | cons c front ih =>
    rw [List.cons_append]
    match front ++ items, ih with
    | _ :: _ :: _, ih => rw [spellsOpener, ih, Bool.or_true]

theorem grows_misleads : Grows misleads where
  empty := rfl
  combine _ _ _ := rfl
  union items c h := by
    induction items using spellsOpener.induct with
    | case1 x y z more ih =>
      simp only [misleads, List.cons_append, spellsOpener] at h ih ⊢
      rcases Bool.or_eq_true_iff.1 h with h | h
      · rw [h, Bool.true_or]
      · rw [ih h, Bool.or_true]
    | case2 items hshort =>
      rw [misleads, spellsOpener] at h
      · cases h
      · exact hshort

theorem anyHas_iff {q : ClassNode → Bool} {cs : List ClassNode} :
    anyHas q cs = true ↔ ∃ c ∈ cs, c.has q = true := by
  induction cs with
  | nil => simp [anyHas]
  | cons c cs ih => simp [anyHas, ih]

theorem has_of_self {q : ClassNode → Bool} {c : ClassNode} (h : q c = true) : c.has q = true := by
  cases c <;> simp [has, h]

theorem ofItems_eq_union {items : List ClassNode} (h : 2 ≤ items.length) : ofItems items = .union items := by
  match items, h with
  | _ :: _ :: _, _ => rfl

section Grows

variable {q : ClassNode → Bool}

theorem has_ofItems_of_mem {items : List ClassNode} {c : ClassNode} (hmem : c ∈ items) (hc : c.has q = true) :
    (ofItems items).has q = true := by
  match items, hmem with
  | [_], hmem => rwa [List.mem_singleton.1 hmem] at hc
  | x :: y :: more, hmem =>
    rw [ofItems, has, anyHas_iff.2 ⟨c, hmem, hc⟩, Bool.or_true]
    all_goals simp

theorem has_ofItems_append (hq : Grows q) {items : List ClassNode} (c : ClassNode)
    (h : (ofItems items).has q = true) : (ofItems (items ++ [c])).has q = true := by
  match items, h with
  | [], h => simp [ofItems, has, hq.empty] at h
  | [x], h => exact has_ofItems_of_mem (List.mem_append_left _ List.mem_cons_self) h
  | x :: y :: more, h =>
    rw [ofItems, has, Bool.or_eq_true] at h
    · rcases h with h | h
      · have hgrown := hq.union _ c h
        simp only [List.cons_append, ofItems, has] at hgrown ⊢
        rw [hgrown, Bool.true_or]
      · obtain ⟨d, hd, hhas⟩ := anyHas_iff.1 h
        exact has_ofItems_of_mem (List.mem_append_left _ hd) hhas
    all_goals simp

end Grows

end ClassNode

namespace Read

open ClassNode

variable {q : ClassNode → Bool} {pending : Option (SetOp × ClassNode)} {items : List ClassNode}

theorem has_closeClass_of_mem {c : ClassNode} (hmem : c ∈ items) (hc : c.has q = true) :
    (closeClass pending items).has q = true := by
  have hlast := has_ofItems_of_mem (List.mem_reverse.2 hmem) hc
  match pending with
  | none => exact hlast
  | some (op, left) => rw [closeClass, has, hlast, Bool.or_true]

theorem has_closeClass_cons (hq : Grows q) (c : ClassNode) (h : (closeClass pending items).has q = true) :
    (closeClass pending (c :: items)).has q = true := by
  match pending, h with
  | none, h =>
    rw [closeClass, List.reverse_cons]
    exact has_ofItems_append hq c h
  | some (op, left), h =>
    rw [closeClass, has, hq.combine, Bool.false_or] at h ⊢
    rcases Bool.or_eq_true_iff.1 h with h | h
    · rw [h, Bool.true_or]
    · rw [List.reverse_cons, has_ofItems_append hq c h, Bool.or_true]

theorem has_closeClass_operator (op : SetOp) (h : (closeClass pending items).has q = true) :
    (closeClass (some (op, closeClass pending items)) []).has q = true := by
  rw [closeClass, has, h, Bool.or_true, Bool.true_or]

/-- The signs that open a named group mislead when they are read one after the other. -/
theorem has_misleads_of_opener {x : ClassNode} (hx : x.last? = some '(') :
    (closeClass pending (.literal 'P' false :: .literal '?' false :: x :: items)).has misleads = true := by
  have hspelled : spellsOpener (items.reverse ++ [x, .literal '?' false, .literal 'P' false]) = true :=
    spellsOpener_append _ (by simp [spellsOpener, hx, isLiteral])
  have hlast : (ofItems (items.reverse ++ [x, .literal '?' false, .literal 'P' false])).has misleads = true := by
    rw [ofItems_eq_union (by simp), has, misleads, hspelled, Bool.true_or]
  have hreverse : (.literal 'P' false :: .literal '?' false :: x :: items).reverse =
      items.reverse ++ [x, .literal '?' false, .literal 'P' false] := by simp
  match pending with
  | none => rwa [closeClass, hreverse]
  | some (op, left) => rw [closeClass, hreverse, has, hlast, Bool.or_true]

end Read

end ProfileKit.Pattern

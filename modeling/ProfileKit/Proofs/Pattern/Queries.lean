import ProfileKit.Pattern.Expr
import ProfileKit.Proofs.Pattern.Sequences

/-!
# Queries for properties

A pattern that has a meaning asks for known properties only, and no known property has a name with a sign
in it that respelling looks at.
-/

namespace ProfileKit.Pattern

open ClassNode

variable {n : String} {name : List Char} {c : Char}

/-! ## Names -/

theorem mem_normalizeName (hc : isMark c = true) (hmem : c ∈ name) : c ∈ (normalizeName name).toList := by
  have hmark : c = '\\' ∨ c = '[' ∨ c = ']' ∨ c = '(' := by simpa [isMark, or_assoc] using hc
  have hkept : c ∈ name.filter fun c => !(c == ' ' || c == '_' || c == '-') && c.toNat < 0x80 := by
    refine List.mem_filter.2 ⟨hmem, ?_⟩
    rcases hmark with rfl | rfl | rfl | rfl <;> decide
  have hlower : c.toLower = c ∧ c ≠ 'i' ∧ c ≠ 's' := by
    rcases hmark with rfl | rfl | rfl | rfl <;> decide
  have hmem' := List.mem_map_of_mem (f := Char.toLower) hkept
  rw [hlower.1] at hmem'
  rw [normalizeName, String.toList_ofList]
  split
  · rename_i rest heq
    rw [heq] at hmem' ⊢
    split
    · exact hmem'
    · simpa [hlower.2] using hmem'
  · exact hmem'

theorem unmarked_of_normalizeName (h : Unmarked (normalizeName name).toList) : Unmarked name := by
  intro c hmem
  rw [← Bool.not_eq_true]
  exact fun hc => by simp [h c (mem_normalizeName hc hmem)] at hc

theorem unmarked_of_alias {aliases : List (String × String)} {a : String × String}
    (haliases : ∀ a ∈ aliases, Unmarked a.1.toList) (h : aliases.find? (·.1 == n) = some a) :
    Unmarked n.toList := by
  have hname : a.1 = n := by simpa using List.find?_some h
  exact hname ▸ haliases a (List.mem_of_find?_eq_some h)

theorem unmarked_of_property {s : Unicode.CharSet} (h : Unicode.Property.find? n = some s) : Unmarked n.toList := by
  obtain ⟨a, ha, -⟩ := Option.map_eq_some_iff.1 h
  exact unmarked_of_alias (by decide +kernel) ha

theorem unmarked_of_script {script : String} (h : Unicode.Script.find? n = some script) : Unmarked n.toList := by
  obtain ⟨a, ha, -⟩ := Option.map_eq_some_iff.1 h
  exact unmarked_of_alias (by decide +kernel) ha

theorem unmarked_of_category {s : Unicode.CharSet} (h : Unicode.GeneralCategory.find? n = some s) :
    Unmarked n.toList := by
  unfold Unicode.GeneralCategory.find? at h
  split at h
  · rename_i hn; rw [hn]; decide
  split at h
  · rename_i hn; rw [hn]; decide
  split at h
  · rename_i hn; rw [hn]; decide
  obtain ⟨a, ha, -⟩ := Option.map_eq_some_iff.1 h
  exact unmarked_of_alias (by decide +kernel) ha

/-! ## Queries -/

theorem unmarked_of_lookUpName {s : Unicode.CharSet} (h : lookUpName name = some s) : Unmarked name := by
  apply unmarked_of_normalizeName
  unfold lookUpName at h
  dsimp only at h
  split at h
  · rename_i hproperty
    split at hproperty
    · cases hproperty
    · exact unmarked_of_property hproperty
  split at h
  · rename_i hcategory
    exact unmarked_of_category hcategory
  · obtain ⟨script, hscript, -⟩ := Option.map_eq_some_iff.1 h
    exact unmarked_of_script hscript

theorem unmarked_of_lookUpValue {property value : List Char} {s : Unicode.CharSet}
    (h : lookUpValue property value = some s) : Unmarked property ∧ Unmarked value := by
  suffices Unmarked (normalizeName property).toList ∧ Unmarked (normalizeName value).toList from
    this.imp unmarked_of_normalizeName unmarked_of_normalizeName
  unfold lookUpValue at h
  dsimp only at h
  split at h
  · rename_i hproperty
    exact ⟨by rcases Bool.or_eq_true_iff.1 hproperty with h | h <;> rw [of_decide_eq_true h] <;> decide,
      unmarked_of_category h⟩
  split at h
  · rename_i hproperty
    obtain ⟨script, hscript, -⟩ := Option.map_eq_some_iff.1 h
    exact ⟨by rcases Bool.or_eq_true_iff.1 hproperty with h | h <;> rw [of_decide_eq_true h] <;> decide,
      unmarked_of_script hscript⟩
  split at h
  · rename_i hproperty
    obtain ⟨script, hscript, -⟩ := Option.map_eq_some_iff.1 h
    exact ⟨by rcases Bool.or_eq_true_iff.1 hproperty with h | h <;> rw [of_decide_eq_true h] <;> decide,
      unmarked_of_script hscript⟩
  · cases h

theorem eq_append_of_splitQuery {mark q a b : List Char} (h : splitQuery mark q = some (a, b)) :
    q = a ++ mark ++ b := by
  induction q generalizing a with
  | nil => cases h
  | cons c cs ih =>
    unfold splitQuery at h
    split at h
    · rename_i hmark
      cases h
      obtain ⟨more, hmore⟩ := List.isPrefixOf_iff_prefix.1 hmark
      rw [← hmore, List.drop_left, List.nil_append]
    · obtain ⟨⟨a', b'⟩, hsplit, hab⟩ := Option.map_eq_some_iff.1 h
      cases hab
      rw [ih hsplit]
      rfl

theorem unmarked_of_splitQuery {mark q a b : List Char} {s : Unicode.CharSet} (hmark : Unmarked mark)
    (hsplit : splitQuery mark q = some (a, b)) (h : lookUpValue a b = some s) : Unmarked q := by
  obtain ⟨ha, hb⟩ := unmarked_of_lookUpValue h
  rw [eq_append_of_splitQuery hsplit]
  intro c hc
  simp only [List.mem_append] at hc
  obtain (hc | hc) | hc := hc
  · exact ha c hc
  · exact hmark c hc
  · exact hb c hc

theorem unmarked_of_lookUpQuery {query : String} {s : Unicode.CharSet} (h : lookUpQuery query = some s) :
    Unmarked query.toList := by
  unfold lookUpQuery at h
  dsimp only at h
  split at h
  · rename_i hsplit
    obtain ⟨s, hvalue, -⟩ := Option.map_eq_some_iff.1 h
    exact unmarked_of_splitQuery (by decide) hsplit hvalue
  split at h
  · rename_i hsplit
    exact unmarked_of_splitQuery (by decide) hsplit h
  split at h
  · rename_i hsplit
    exact unmarked_of_splitQuery (by decide) hsplit h
  · exact unmarked_of_lookUpName h

/-! ## Patterns with a meaning -/

mutual

/-- A class with a meaning asks for known properties. -/
theorem ClassNode.asksMarked_of_resolve {o : Options} : (c : ClassNode) → {s : Unicode.CharSet} →
    c.resolve o = some s → c.has asksMarked = false
  | .empty, _, _ | .literal _ _, _, _ | .range _ _, _, _ | .posix _ _, _, _ | .short _ _, _, _ => rfl
  | .property negated query, s, h => by
    rw [ClassNode.resolve] at h
    split at h
    · obtain ⟨s, hs, -⟩ := Option.bind_eq_some_iff.1 h
      simp [has, asksMarked, unmarked_of_lookUpQuery hs]
    · cases h
  | .bracketed negated body, s, h => by
    rw [ClassNode.resolve] at h
    obtain ⟨s, hs, -⟩ := Option.bind_eq_some_iff.1 h
    simp [has, asksMarked, ClassNode.asksMarked_of_resolve body hs]
  | .union items, s, h => by
    rw [ClassNode.resolve] at h
    simp [has, asksMarked, ClassNode.asksMarked_of_resolveAll items h]
  | .combine op left right, s, h => by
    rw [ClassNode.resolve] at h
    split at h
    · rename_i l r hl hr
      simp [has, asksMarked, ClassNode.asksMarked_of_resolve left hl, ClassNode.asksMarked_of_resolve right hr]
    · cases h

theorem ClassNode.asksMarked_of_resolveAll {o : Options} : (cs : List ClassNode) → {s : Unicode.CharSet} →
    ClassNode.resolveAll o cs = some s → anyHas asksMarked cs = false
  | [], _, _ => rfl
  | c :: cs, s, h => by
    rw [ClassNode.resolveAll] at h
    split at h
    · rename_i hc hcs
      simp [anyHas, ClassNode.asksMarked_of_resolve c hc, ClassNode.asksMarked_of_resolveAll cs hcs]
    · cases h

end

mutual

/-- A pattern with a meaning asks for known properties. -/
theorem Ast.asksPlainly_of_resolve {o : Options} : (a : Ast) → {r : Expr × Options} →
    a.resolve o = some r → a.every asksPlainly = true
  | .empty, _, _ | .literal _ _, _, _ | .dot, _, _ | .assertion _, _, _ | .flags _, _, _ => rfl
  | .charClass c, r, h => by
    rw [Ast.resolve] at h
    obtain ⟨s, hs, -⟩ := Option.map_eq_some_iff.1 h
    simp [Ast.every, Ast.asksPlainly, ClassNode.asksMarked_of_resolve c hs]
  | .group (.capture index name) body, r, h | .group (.plain items) body, r, h => by
    rw [Ast.resolve] at h
    obtain ⟨r, hr, -⟩ := Option.map_eq_some_iff.1 h
    simp [Ast.every, Ast.asksPlainly, Ast.asksPlainly_of_resolve body hr]
  | .repetition min max greedy body, r, h => by
    rw [Ast.resolve] at h
    obtain ⟨r, hr, -⟩ := Option.map_eq_some_iff.1 h
    simp [Ast.every, Ast.asksPlainly, Ast.asksPlainly_of_resolve body hr]
  | .alternation branches, r, h => by
    rw [Ast.resolve] at h
    simp [Ast.every, Ast.asksPlainly, Ast.asksPlainly_of_resolveBranches branches h]
  | .sequence items, r, h => by
    rw [Ast.resolve] at h
    simp [Ast.every, Ast.asksPlainly, Ast.asksPlainly_of_resolveItems items h]

theorem Ast.asksPlainly_of_resolveBranches {o : Options} : (as : List Ast) → {r : Expr × Options} →
    Ast.resolveBranches o as = some r → Ast.allEvery asksPlainly as = true
  | [], _, _ => rfl
  | [a], r, h => by
    rw [Ast.resolveBranches] at h
    simp [Ast.allEvery, Ast.asksPlainly_of_resolve a h]
  | a :: b :: more, r, h => by
    rw [Ast.resolveBranches] at h
    split at h
    · cases h
    · rename_i ha
      obtain ⟨r, hr, -⟩ := Option.map_eq_some_iff.1 h
      rw [Ast.allEvery, Ast.asksPlainly_of_resolve a ha, Ast.asksPlainly_of_resolveBranches (b :: more) hr]
      rfl
    · simp

theorem Ast.asksPlainly_of_resolveItems {o : Options} : (as : List Ast) → {r : Expr × Options} →
    Ast.resolveItems o as = some r → Ast.allEvery asksPlainly as = true
  | [], _, _ => rfl
  | [a], r, h => by
    rw [Ast.resolveItems] at h
    simp [Ast.allEvery, Ast.asksPlainly_of_resolve a h]
  | a :: b :: more, r, h => by
    rw [Ast.resolveItems] at h
    split at h
    · cases h
    · rename_i ha
      obtain ⟨r, hr, -⟩ := Option.map_eq_some_iff.1 h
      rw [Ast.allEvery, Ast.asksPlainly_of_resolve a ha, Ast.asksPlainly_of_resolveItems (b :: more) hr]
      rfl
    · simp

end

end ProfileKit.Pattern

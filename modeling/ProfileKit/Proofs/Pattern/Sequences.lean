import ProfileKit.Proofs.Pattern.Classes
import ProfileKit.Proofs.Pattern.Groups

/-!
# Patterns in a respelled text

A pattern is read alike in a respelled text when verbose mode stays off, no name of a group has a sign in
it that respelling looks at, and no class that holds another class has items which look like an opening.
-/

namespace ProfileKit.Pattern

mutual
/-- Whether a pattern and all its parts meet a condition. -/
def Ast.every (p : Ast → Bool) : Ast → Bool
  | .group kind body => p (.group kind body) && body.every p
  | .repetition min max greedy body => p (.repetition min max greedy body) && body.every p
  | .alternation branches => p (.alternation branches) && Ast.allEvery p branches
  | .sequence items => p (.sequence items) && Ast.allEvery p items
  | a => p a

/-- Whether several patterns and all their parts meet a condition. -/
def Ast.allEvery (p : Ast → Bool) : List Ast → Bool
  | [] => true
  | a :: as => a.every p && Ast.allEvery p as
end

namespace Ast

variable {p q : Ast → Bool} {a : Ast} {items : List Ast}

theorem allEvery_iff : allEvery p items = true ↔ ∀ a ∈ items, a.every p = true := by
  induction items with
  | nil => simp [allEvery]
  | cons a items ih => simp [allEvery, ih]

theorem every_self (h : a.every p = true) : p a = true := by
  cases a <;> simp_all [every]

theorem every_of_ofItems (h : (ofItems items).every p = true) : ∀ a ∈ items, a.every p = true := by
  match items, h with
  | [], _ => simp
  | [_], h => exact fun a ha => by rw [List.mem_singleton.1 ha]; exact h
  | a :: a' :: more, h =>
    rw [ofItems, every, Bool.and_eq_true] at h
    · exact allEvery_iff.1 h.2
    all_goals simp

theorem every_of_ofBranches (h : (ofBranches items).every p = true) : ∀ a ∈ items, a.every p = true := by
  match items, h with
  | [], _ => simp
  | [_], h => exact fun a ha => by rw [List.mem_singleton.1 ha]; exact h
  | a :: a' :: more, h =>
    rw [ofBranches, every, Bool.and_eq_true] at h
    · exact allEvery_iff.1 h.2
    all_goals simp

/-- A part that respelling leaves to mean what it meant. -/
def isPlain : Ast → Bool
  | .flags items | .group (.plain items) _ => !items.contains (.flag .verbose)
  | .group (.capture _ (some name)) _ => decide (Unmarked name.toList)
  | .charClass c => !(c.isNested && c.has ClassNode.misleads)
  | _ => true

/-- A part that asks for no property by a name with a sign in it respelling looks at. -/
def asksPlainly : Ast → Bool
  | .charClass c => !c.has ClassNode.asksMarked
  | _ => true

/-- A part that is read alike in a respelled text. -/
def isKept (a : Ast) : Bool := a.isPlain && a.asksPlainly

end Ast

namespace Read

variable {p : Ast → Bool} {s t : Reading} {fuel : Nat} {items items' : List Ast} {a : Ast} {c : Char}

theorem every_of_repeatLast {min : Nat} {max : Option Nat} {greedy : Bool}
    (h : repeatLast items min max greedy s = some (items', t)) (hitems : ∀ a ∈ items', a.every p = true) :
    ∀ a ∈ items, a.every p = true := by
  unfold repeatLast at h
  split at h
  · cases h
  · cases h
  · cases h
  · cases h
    intro a ha
    rcases List.mem_cons.1 ha with rfl | ha
    · have hbody := hitems _ List.mem_cons_self
      rw [Ast.every, Bool.and_eq_true] at hbody
      exact hbody.2
    · exact hitems a (List.mem_cons_of_mem _ ha)

theorem every_of_readSimple {min : Nat} {max : Option Nat}
    (h : readSimple items min max s = some (items', t)) (hitems : ∀ a ∈ items', a.every p = true) :
    ∀ a ∈ items, a.every p = true := by
  rw [readSimple] at h
  obtain ⟨_, s₁, -, h⟩ := exists_of_bind h
  obtain ⟨lazy, s₂, -, h⟩ := exists_of_bind h
  exact every_of_repeatLast h hitems

theorem every_of_readPart {group : Read Ast} (h : readPart group items c s = some (items', t))
    (hitems : ∀ a ∈ items', a.every p = true) : ∀ a ∈ items, a.every p = true := by
  have hcons {x : Ast} {s₁ : Reading} (h : (pure (x :: items) : Read (List Ast)) s₁ = some (items', t)) :
      ∀ a ∈ items, a.every p = true := by
    cases h
    exact fun a ha => hitems a (List.mem_cons_of_mem _ ha)
  unfold readPart at h
  split at h
  · obtain ⟨x, s₁, -, h⟩ := exists_of_bind h
    exact hcons h
  · obtain ⟨text, s₁, -, h⟩ := exists_of_bind h
    obtain ⟨x, s₂, -, h⟩ := exists_of_bind h
    exact hcons h
  · exact every_of_readSimple h hitems
  · exact every_of_readSimple h hitems
  · exact every_of_readSimple h hitems
  · split at h
    · cases h
    · obtain ⟨bounds, s₁, -, h⟩ := exists_of_bind h
      exact every_of_repeatLast h hitems
  · obtain ⟨x, s₁, -, h⟩ := exists_of_bind h
    exact hcons h
  · obtain ⟨_, s₁, -, h⟩ := exists_of_bind h
    exact hcons h

/-- The parts read so far are parts of the whole pattern. -/
theorem every_of_readSequence (h : readSequence fuel items s = some (a, t)) (ha : a.every p = true) :
    ∀ a ∈ items, a.every p = true := by
  induction fuel generalizing s items with
  | zero => cases h
  | succ fuel ih =>
    rw [readSequence] at h
    obtain ⟨_, s₁, -, h⟩ := exists_of_bind h
    obtain ⟨o, s₂, -, h⟩ := exists_of_bind h
    split at h
    case h_4 =>
      obtain ⟨items', s₃, hpart, h⟩ := exists_of_bind h
      exact every_of_readPart hpart (ih h)
    all_goals
      cases h
      exact fun a h => Ast.every_of_ofItems ha a (List.mem_reverse.2 h)

theorem every_of_readBranches {branches : List Ast} (h : readBranches fuel branches s = some (a, t))
    (ha : a.every p = true) : ∀ a ∈ branches, a.every p = true := by
  induction fuel generalizing s branches with
  | zero => cases h
  | succ fuel ih =>
    rw [readBranches] at h
    obtain ⟨x, s₁, -, h⟩ := exists_of_bind h
    obtain ⟨o, s₂, -, h⟩ := exists_of_bind h
    split at h
    · obtain ⟨_, s₃, -, h⟩ := exists_of_bind h
      exact fun a hmem => ih h a (List.mem_cons_of_mem _ hmem)
    · cases h
      exact fun a hmem => Ast.every_of_ofBranches ha a (List.mem_reverse.2 (List.mem_cons_of_mem _ hmem))

theorem every_of_nextBranch {branches : List Ast} {branch : Ast}
    (h : (peek >>= fun o => if (o == some '|') = true then bump >>= fun _ => readBranches fuel (branch :: branches)
      else pure (.ofBranches (branch :: branches).reverse)) s = some (a, t)) (ha : a.every p = true) :
    branch.every p = true := by
  obtain ⟨o, s₁, -, h⟩ := exists_of_bind h
  split at h
  · obtain ⟨_, s₂, -, h⟩ := exists_of_bind h
    exact every_of_readBranches h ha branch List.mem_cons_self
  · cases h
    exact Ast.every_of_ofBranches ha branch (List.mem_reverse.2 List.mem_cons_self)

/-! ## Parts -/

variable {b : Bool}

theorem repeatLast_follows {min : Nat} {max : Option Nat} {greedy : Bool}
    (h : repeatLast items min max greedy s = some (items', t)) (hs : s.verbose = false) :
    Follows b (repeatLast items min max greedy) s items' b t := by
  unfold repeatLast at h ⊢
  split at h
  · cases h
  · cases h
  · cases h
  · exact follows_pure h hs

theorem readSimple_advances {min : Nat} {max : Option Nat}
    (h : readSimple items min max s = some (items', t)) (hs : s.verbose = false)
    (hhead : s.rest.head? = some c) (hc : isMark c = false) :
    Advances b (readSimple items min max) s items' b t := by
  rw [readSimple] at h ⊢
  obtain ⟨_, s₁, hbump, h⟩ := exists_of_bind h
  cases hbump
  refine (advances_bump (rest_respelled hhead hc) hs).bind fun hs => ?_
  obtain ⟨lazy, s₂, hlazy, h⟩ := exists_of_bind h
  exact (takeLazy_follows hlazy hs).bind fun hs => repeatLast_follows h hs

theorem unmarked_of_isKept {e : Primitive} (h : e.toAst.isKept = true) : e.Unmarked := by
  cases e with
  | literal | dot | assertion | short => trivial
  | property negated query =>
    rw [Primitive.Unmarked]
    simpa [Primitive.toAst, Ast.isKept, Ast.isPlain, Ast.asksPlainly, ClassNode.isNested, ClassNode.has,
      ClassNode.asksMarked] using h

/-- The next part of a sequence is read alike, if a group is. -/
theorem readPart_advances {group group' : Read Ast} (h : readPart group items c s = some (items', t))
    (hs : s.verbose = false) (hhead : s.rest.head? = some c)
    (hkept : ∀ a ∈ items', a.every Ast.isKept = true)
    (hgroup : ∀ {a t}, c = '(' → group s = some (a, t) → a.every Ast.isKept = true →
      Advances false group' s a false t) :
    Advances false (readPart group' items c) s items' false t := by
  unfold readPart at h
  split at h
  · obtain ⟨a, s₁, hread, h⟩ := exists_of_bind h
    cases h
    exact (hgroup rfl hread (hkept a List.mem_cons_self)).bind fun hs => follows_pure rfl hs
  · obtain ⟨text, s₁, hrest, h⟩ := exists_of_bind h
    cases hrest
    obtain ⟨c, s₁, hread, h⟩ := exists_of_bind h
    cases h
    obtain ⟨hplain, hasks⟩ := Bool.and_eq_true_iff.1 (Ast.every_self (hkept _ List.mem_cons_self))
    have hasked : c.has ClassNode.asksMarked = false := by simpa [Ast.asksPlainly] using hasks
    have hsuits : Suits (false = false) c := by
      simp only [Ast.isPlain, Bool.not_eq_true', Bool.and_eq_false_iff] at hplain
      exact hplain.imp_left fun hflat => ⟨rfl, hflat⟩
    have hclass := readClass_advances hread hs hhead hasked hsuits (Nat.le_add_right _ 2)
    refine ⟨⟨?_, hclass.verbose, hclass.suffix⟩, hclass.advance⟩
    rw [readPart, bind_apply, rest_apply, Option.bind_some, bind_apply, hclass.run]
    rfl
  · exact readSimple_advances h hs hhead (by decide)
  · exact readSimple_advances h hs hhead (by decide)
  · exact readSimple_advances h hs hhead (by decide)
  · split at h
    · cases h
    · rename_i hitems
      obtain ⟨bounds, s₁, hread, h⟩ := exists_of_bind h
      rw [readPart, if_neg hitems]
      exact (readBounds_advances hread hs hhead).bind fun hs => repeatLast_follows h hs
  · obtain ⟨e, s₁, hread, h⟩ := exists_of_bind h
    cases h
    have he := unmarked_of_isKept (Ast.every_self (hkept _ List.mem_cons_self))
    exact (readEscape_advances hread hs hhead he).bind fun hs => follows_pure rfl hs
  · rename_i hparen hopen hmark hstar hplus hbrace hescape
    obtain ⟨_, s₁, hbump, h⟩ := exists_of_bind h
    cases hbump
    rw [readPart.eq_8 _ _ _ hparen hopen hmark hstar hplus hbrace hescape]
    have hkeep : (s.respelled false).rest = c :: (s.next.respelled false).rest := by
      by_cases hclose : c = ']'
      · subst hclose
        exact rest_respelled_close hhead
      · refine rest_respelled hhead ?_
        simp only [isMark, Bool.or_eq_false_iff, beq_eq_false_iff_ne]
        exact ⟨⟨⟨hescape, hopen⟩, hclose⟩, hparen⟩
    exact (advances_bump hkeep hs).bind fun hs => follows_pure h hs

/-! ## Groups -/

/-- What follows an opening parenthesis is read alike after respelling, which may have taken the opener of
a named group together. -/
theorem readOpening_next {o : Opening} (h : readOpening s.next = some (o, t)) (hs : s.verbose = false)
    (hhead : s.rest.head? = some '(') (ho : o.isPlain = true) :
    readOpening (s.respelled false).next = some (o, t.respelled false) ∧ t.verbose = false ∧
      respell false t.rest <:+ (s.respelled false).next.rest := by
  obtain ⟨cs, hrest⟩ := List.head?_eq_some_iff.1 hhead
  by_cases hopener : ['?', 'P', '<'] <+: s.next.rest
  · obtain ⟨cs', hcs⟩ := hopener
    have hnext : s.next.rest = '?' :: 'P' :: '<' :: cs' := hcs.symm
    have hstate : (s.respelled false).next = { s.next with rest := '?' :: '<' :: respell false cs' } := by
      rw [Reading.next, Reading.respelled, hrest, ← rest_next hrest, hnext, respell_opener]
      rfl
    obtain ⟨hrun, hs, hsuffix⟩ := readOpening_of_opener h hs ho hnext
    rw [hstate]
    exact ⟨hrun, hs, hsuffix.trans ⟨['?', '<'], rfl⟩⟩
  · have hread := readOpening_follows (b := false) h hs ho
    rw [next_respelled (rest_respelled_paren hhead hopener)]
    exact ⟨hread.run, hread.verbose, hread.suffix⟩

/-- Reads a group on from what its parenthesis opens, and puts the mode back that was before. -/
def readGroupRest (fuel : Nat) (verbose : Bool) : Opening → Read Ast
  | .flags items => return .flags items
  | .group kind => do
    let body ← readBranches fuel []
    if (← peek) ≠ some ')' then failure
    bump
    modify fun s => { s with verbose }
    return .group kind body

theorem readGroup_apply (hs : s.verbose = false) :
    readGroup (fuel + 1) s = (readOpening >>= readGroupRest fuel false) s.next := by
  rw [readGroup, bind_apply, bump_apply, Option.bind_some, bind_apply, skipSpace_apply (s := s.next) hs,
    Option.bind_some, ← hs]
  refine congrArg (Option.bind (readOpening s.next)) (funext fun ⟨o, s₁⟩ => ?_)
  cases o <;> rfl

theorem isPlain_of_readGroupRest {verbose : Bool} {o : Opening}
    (h : readGroupRest fuel verbose o s = some (a, t)) (ha : a.every Ast.isKept = true) : o.isPlain = true := by
  have hplain := (Bool.and_eq_true_iff.1 (Ast.every_self ha)).1
  cases o with
  | flags items => cases h; exact hplain
  | group kind =>
    obtain ⟨body, s₁, -, h⟩ := exists_of_bind h
    obtain ⟨o, s₂, -, h⟩ := exists_of_bind h
    split at h
    · cases h
    · obtain ⟨_, s₃, -, h⟩ := exists_of_bind h
      obtain ⟨_, s₄, -, h⟩ := exists_of_bind h
      cases h
      cases kind with
      | plain items => exact hplain
      | capture index name => cases name <;> exact hplain

theorem readGroupRest_follows {m : Nat} {o : Opening} (h : readGroupRest fuel false o s = some (a, t))
    (hs : s.verbose = false) (ha : a.every Ast.isKept = true)
    (hbranches : ∀ {body u}, readBranches fuel [] s = some (body, u) → body.every Ast.isKept = true →
      Follows false (readBranches m []) s body false u) :
    Follows false (readGroupRest m false o) s a false t := by
  cases o with
  | flags items => exact follows_pure h hs
  | group kind =>
    rw [readGroupRest] at h ⊢
    obtain ⟨body, s₁, hbody, h⟩ := exists_of_bind h
    have hkept : body.every Ast.isKept = true := by
      obtain ⟨o, s₂, -, h⟩ := exists_of_bind h
      split at h
      · cases h
      · obtain ⟨_, s₃, -, h⟩ := exists_of_bind h
        obtain ⟨_, s₄, -, h⟩ := exists_of_bind h
        cases h
        exact (Bool.and_eq_true_iff.1 ha).2
    refine (hbranches hbody hkept).bind fun hs => follows_peek_bind h hs fun h => ?_
    refine follows_ite h (fun _ h => by cases h) fun hclose h => ?_
    refine follows_bump_bind h hs (not_not.1 hclose) (by decide) fun h => ?_
    cases h
    exact ⟨rfl, rfl, List.suffix_rfl⟩

/-! ## Whole patterns -/

mutual

theorem readSequence_follows {s t : Reading} {a : Ast} {items : List Ast} {m : Nat} : {fuel : Nat} →
    (h : readSequence fuel items s = some (a, t)) → (hs : s.verbose = false) →
    (ha : a.every Ast.isKept = true) → (hm : 3 * (s.respelled false).rest.length + 2 ≤ m) →
    Follows false (readSequence m items) s a false t
  | 0, h, _, _, _ => by cases h
  | fuel + 1, h, hs, ha, hm => by
    obtain ⟨m, rfl⟩ : ∃ n, m = n + 1 := ⟨m - 1, by omega⟩
    rw [readSequence] at h ⊢
    refine follows_skipSpace_bind h hs fun h => follows_peek_bind h hs fun h => ?_
    generalize hhead : s.rest.head? = o at h ⊢
    split at h
    case h_4 _ c hbar hparen =>
      obtain ⟨items', s₁, hpart, h⟩ := exists_of_bind h
      have hread : Advances false (readPart (readGroup m) items c) s items' false s₁ :=
        readPart_advances hpart hs hhead (every_of_readSequence h ha) fun hc hgroup ha =>
          readGroup_advances hgroup hs (hc ▸ hhead) ha (by omega)
      have hlength := hread.advance
      exact hread.toFollows.bind fun hs => readSequence_follows h hs ha (by omega)
    all_goals exact follows_pure h hs

theorem readGroup_advances {s t : Reading} {a : Ast} {m : Nat} : {fuel : Nat} →
    (h : readGroup fuel s = some (a, t)) → (hs : s.verbose = false) → (hhead : s.rest.head? = some '(') →
    (ha : a.every Ast.isKept = true) → (hm : 3 * (s.respelled false).rest.length + 1 ≤ m) →
    Advances false (readGroup m) s a false t
  | 0, h, _, _, _, _ => by cases h
  | fuel + 1, h, hs, hhead, ha, hm => by
    obtain ⟨m, rfl⟩ : ∃ n, m = n + 1 := ⟨m - 1, by omega⟩
    rw [readGroup_apply hs] at h
    obtain ⟨o, s₁, hopening, h⟩ := exists_of_bind h
    obtain ⟨hrun, hs₁, hsuffix⟩ := readOpening_next hopening hs hhead (isPlain_of_readGroupRest h ha)
    obtain ⟨cs, hrest⟩ := List.head?_eq_some_iff.1 ((head?_respelled (b := false)).trans hhead)
    have hlength := hsuffix.length_le
    rw [rest_next hrest] at hlength
    have hshorter : (s₁.respelled false).rest.length < (s.respelled false).rest.length := by
      rw [hrest]; exact Nat.lt_succ_of_le hlength
    have hread := readGroupRest_follows (m := m) h hs₁ ha fun hbody hkept =>
      readBranches_follows hbody hs₁ hkept (by omega)
    refine ⟨⟨?_, hread.verbose, hread.suffix.trans (hsuffix.trans (List.drop_suffix _ _))⟩, ?_⟩
    · rw [readGroup_apply (by exact hs), bind_apply, hrun]
      exact hread.run
    · exact Nat.lt_of_le_of_lt hread.length_le hshorter

theorem readBranches_follows {s t : Reading} {a : Ast} {branches : List Ast} {m : Nat} : {fuel : Nat} →
    (h : readBranches fuel branches s = some (a, t)) → (hs : s.verbose = false) →
    (ha : a.every Ast.isKept = true) → (hm : 3 * (s.respelled false).rest.length + 3 ≤ m) →
    Follows false (readBranches m branches) s a false t
  | 0, h, _, _, _ => by cases h
  | fuel + 1, h, hs, ha, hm => by
    obtain ⟨m, rfl⟩ : ∃ n, m = n + 1 := ⟨m - 1, by omega⟩
    rw [readBranches] at h ⊢
    obtain ⟨branch, s₁, hbranch, h⟩ := exists_of_bind h
    have hkept := every_of_nextBranch h ha
    refine (readSequence_follows hbranch hs hkept (by omega)).bind fun hs₁ => ?_
    refine follows_peek_bind h hs₁ fun h => follows_ite h (fun hbar h => ?_) fun _ h => follows_pure h hs₁
    refine follows_bump_bind h hs₁ (beq_iff_eq.1 hbar) (by decide) fun h => ?_
    have hlength := (advances_bump (rest_respelled (b := false) (beq_iff_eq.1 hbar) (by decide)) hs₁).advance
    have hlength' := (readSequence_follows hbranch hs hkept (Nat.le_refl _)).length_le
    exact readBranches_follows h hs₁ ha (by omega)

end

end Read

end ProfileKit.Pattern

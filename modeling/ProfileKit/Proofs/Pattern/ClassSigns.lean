import ProfileKit.Proofs.Pattern.ClassItems
import ProfileKit.Proofs.Pattern.Escapes

/-!
# The parts of a class in a respelled text

Items of a class, its opening, and classes named between colons. With the mark of an open class set they
are all passed through; without it an item may look like an opening to respelling, and the run strays.
-/

namespace ProfileKit.Pattern

namespace Read

open ClassNode

variable {s t : Reading} {b : Bool} {c : Char}

theorem rest_respelled_true (hhead : s.rest.head? = some c) (hescape : c ≠ '\\') (hclose : c ≠ ']') :
    (s.respelled true).rest = c :: (s.next.respelled true).rest := by
  obtain ⟨cs, hrest⟩ := List.head?_eq_some_iff.1 hhead
  rw [Reading.respelled, hrest, respell_true_cons hescape hclose, Reading.respelled, rest_next hrest]

theorem rest_respelled_close (hhead : s.rest.head? = some ']') :
    (s.respelled b).rest = ']' :: (s.next.respelled false).rest := by
  obtain ⟨cs, hrest⟩ := List.head?_eq_some_iff.1 hhead
  rw [Reading.respelled, hrest, respell_close, Reading.respelled, rest_next hrest]

theorem rest_respelled_paren (hhead : s.rest.head? = some '(') (h : ¬ ['?', 'P', '<'] <+: s.next.rest) :
    (s.respelled false).rest = '(' :: (s.next.respelled false).rest := by
  obtain ⟨cs, hrest⟩ := List.head?_eq_some_iff.1 hhead
  rw [rest_next hrest] at h
  rw [Reading.respelled, hrest, respell_paren h, Reading.respelled, rest_next hrest]

/-! ## Items -/

/-- A run that has taken an opening parenthesis where respelling takes the opener of a named group. -/
structure Strays (b : Bool) (t : Reading) : Prop where
  outside : b = false
  opener : ['?', 'P', '<'] <+: t.rest
  verbose : t.verbose = false

theorem readClassPrimitive_of_escape (hhead : s.rest.head? = some '\\') :
    readClassPrimitive s = readEscape s := by
  rw [readClassPrimitive, bind_apply, peek_apply, hhead]; rfl

theorem readClassPrimitive_of_head (hhead : s.rest.head? = some c) (hescape : c ≠ '\\') :
    readClassPrimitive s = some (.literal c false, s.next) := by
  rw [readClassPrimitive, bind_apply, peek_apply, hhead, Option.bind_some]
  simp only
  rfl

theorem readClassPrimitive_advances_of_head (hrest : (s.respelled b).rest = c :: (s.next.respelled b).rest)
    (hs : s.verbose = false) (hescape : c ≠ '\\') :
    Advances b readClassPrimitive s (.literal c false) b s.next := by
  have hbump := advances_bump hrest hs
  refine ⟨⟨?_, hbump.verbose, hbump.suffix⟩, hbump.advance⟩
  rw [readClassPrimitive_of_head (by rw [hrest, List.head?_cons]) hescape, next_respelled hrest]

/-- A single sign of a class. Brackets come up here only as ends of ranges. -/
theorem readClassPrimitive_advances {p : Primitive} (h : readClassPrimitive s = some (p, t))
    (hs : s.verbose = false) (hp : p.Unmarked) (hclose : s.rest.head? ≠ some ']')
    (hopen : s.rest.head? = some '[' → b = true) :
    Advances b readClassPrimitive s p b t ∨ p = .literal '(' false ∧ Strays b t := by
  cases hhead : s.rest.head? with
  | none => rw [readClassPrimitive, bind_apply, peek_apply, hhead] at h; cases h
  | some c =>
    by_cases hescape : c = '\\'
    · subst hescape
      rw [readClassPrimitive_of_escape hhead] at h
      have hread := readEscape_advances (b := b) h hs hhead hp
      refine .inl ⟨⟨?_, hread.verbose, hread.suffix⟩, hread.advance⟩
      rw [readClassPrimitive_of_escape (head?_respelled.trans hhead), hread.run]
    · cases (readClassPrimitive_of_head hhead hescape).symm.trans h
      rw [hhead, ne_eq, Option.some.injEq] at hclose
      rw [hhead, Option.some.injEq] at hopen
      cases b with
      | true => exact .inl (readClassPrimitive_advances_of_head (rest_respelled_true hhead hescape hclose) hs hescape)
      | false =>
        by_cases hparen : c = '('
        · subst hparen
          by_cases hopener : ['?', 'P', '<'] <+: s.next.rest
          · exact .inr ⟨rfl, rfl, hopener, hs⟩
          · exact .inl (readClassPrimitive_advances_of_head (rest_respelled_paren hhead hopener) hs hescape)
        · have hmark : isMark c = false := by
            simpa [isMark, hescape, hclose, hparen] using mt hopen (by decide)
          exact .inl (readClassPrimitive_advances_of_head (rest_respelled hhead hmark) hs hescape)

theorem toItem_follows {p : Primitive} {item : ClassNode} (h : p.toItem s = some (item, t))
    (hs : s.verbose = false) : Follows b p.toItem s item b t := by
  cases p with
  | dot | assertion => cases h
  | literal | short | property => exact follows_pure h hs

theorem unmarked_of_toItem {p : Primitive} {item : ClassNode} (h : p.toItem s = some (item, t))
    (hitem : item.asksMarked = false) : p.Unmarked := by
  cases p with
  | dot | assertion => cases h
  | literal | short => trivial
  | property =>
    cases h
    rw [Primitive.Unmarked]
    simpa [asksMarked] using hitem

/-- A range is made of two literals, wherever it stands. -/
theorem rangeTo_some {first last : Primitive} {item : ClassNode} (h : first.rangeTo last s = some (item, t)) :
    ∃ d e octet octet', first = .literal d octet ∧ last = .literal e octet' ∧ item = .range d e ∧ t = s ∧
      ∀ u, first.rangeTo last u = some (item, u) := by
  rw [Primitive.rangeTo] at h
  obtain ⟨d, s₁, hfirst, h⟩ := exists_of_bind h
  obtain ⟨e, s₂, hlast, h⟩ := exists_of_bind h
  cases first with
  | dot | assertion | short | property => cases hfirst
  | literal =>
    cases last with
    | dot | assertion | short | property => cases hlast
    | literal =>
      cases hfirst
      cases hlast
      split at h
      · rename_i hle
        cases h
        refine ⟨_, _, _, _, rfl, rfl, rfl, rfl, fun u => ?_⟩
        rw [Primitive.rangeTo, bind_apply]
        simp [Primitive.toBound, pure_apply, bind_apply, hle]
      · cases h

theorem readRange_apply (first : Primitive) (hs : s.verbose = false) (hhead : s.rest.head? = some c) :
    readRange first s =
      if c ≠ '-' ∨ s.next.rest.head? = some ']' ∨ s.next.rest.head? = some '-' then first.toItem s
      else if s.next.rest = [] then none
      else (readClassPrimitive >>= first.rangeTo) s.next := by
  rw [readRange, bind_apply, skipSpace_apply hs, Option.bind_some, bind_apply, peek_apply, hhead,
    Option.bind_some]
  simp only
  rw [bind_apply, peekAfter_apply hs, Option.bind_some]
  by_cases hitem : c ≠ '-' ∨ s.next.rest.head? = some ']' ∨ s.next.rest.head? = some '-'
  · rw [if_pos hitem, if_pos]
    simpa [or_assoc, Reading.next] using hitem
  · rw [if_neg hitem, if_neg (by simpa [or_assoc, Reading.next] using hitem), bind_apply, bumpOn_apply hs]
    split <;> rfl

/-- What stands after the first sign of an item is read alike, or the run strays. -/
theorem readRange_follows {first : Primitive} {item : ClassNode} (h : readRange first s = some (item, t))
    (hs : s.verbose = false) (hmode : b = true ∨ item.misleads = false) :
    Follows b (readRange first) s item b t ∨ item.last? = some '(' ∧ Strays b t := by
  cases hhead : s.rest.head? with
  | none =>
    rw [readRange, bind_apply, skipSpace_apply hs, Option.bind_some, bind_apply, peek_apply, hhead] at h
    cases h
  | some c =>
    have hhead' : (s.respelled b).rest.head? = some c := head?_respelled.trans hhead
    have hrun' := readRange_apply first (by exact hs) hhead'
    rw [readRange_apply first hs hhead] at h
    by_cases hitem : c ≠ '-' ∨ s.next.rest.head? = some ']' ∨ s.next.rest.head? = some '-'
    · rw [if_pos hitem] at h
      have hread := toItem_follows (b := b) h hs
      refine .inl ⟨?_, hread.verbose, hread.suffix⟩
      rw [hrun', if_pos, hread.run]
      by_cases hdash : c = '-'
      · rw [next_respelled (rest_respelled hhead (by rw [hdash]; decide)), head?_respelled]
        exact hitem
      · exact .inl hdash
    · rw [if_neg hitem] at h
      obtain ⟨hdash, hbracket, hdash'⟩ : c = '-' ∧ s.next.rest.head? ≠ some ']' ∧ s.next.rest.head? ≠ some '-' := by
        simpa [not_or] using hitem
      subst hdash
      have hkept := rest_respelled (b := b) hhead (by decide)
      have hnext := next_respelled hkept
      split at h
      · cases h
      · rename_i hmore
        obtain ⟨last, s₁, hlast, h⟩ := exists_of_bind h
        obtain ⟨d, e, octet, octet', rfl, rfl, rfl, rfl, hrange⟩ := rangeTo_some h
        have hopen (hhead : s.next.rest.head? = some '[') : b = true := by
          refine hmode.resolve_right fun hmis => ?_
          cases (readClassPrimitive_of_head hhead (by decide)).symm.trans hlast
          simp [misleads] at hmis
        obtain hread | ⟨hparen, hstray⟩ := readClassPrimitive_advances (b := b) hlast hs trivial hbracket hopen
        · refine .inl ⟨?_, hread.verbose, hread.suffix.trans ⟨['-'], hkept.symm⟩⟩
          rw [hrun', hnext, head?_respelled, if_neg hitem, if_neg (by rwa [Reading.respelled, respell_eq_nil_iff]),
            bind_apply, hread.run, Option.bind_some, hrange]
        · cases hparen
          exact .inr ⟨rfl, hstray⟩

theorem unmarked_of_readRange {first : Primitive} {item : ClassNode} (h : readRange first s = some (item, t))
    (hitem : item.asksMarked = false) : first.Unmarked := by
  cases first with
  | dot | assertion | literal | short => trivial
  | property negated query =>
    rw [readRange] at h
    obtain ⟨_, s₁, -, h⟩ := exists_of_bind h
    obtain ⟨o, s₂, -, h⟩ := exists_of_bind h
    match o, h with
    | none, h => cases h
    | some c, h =>
      obtain ⟨after, s₃, -, h⟩ := exists_of_bind h
      split at h
      · exact unmarked_of_toItem h hitem
      · obtain ⟨_, s₄, -, h⟩ := exists_of_bind h
        obtain ⟨last, s₅, -, h⟩ := exists_of_bind h
        cases h

/-- An item of a class is read alike, or the run strays. -/
theorem readClassItem_advances {item : ClassNode} (h : readClassItem s = some (item, t))
    (hs : s.verbose = false) (hclose : s.rest.head? ≠ some ']') (hopen : s.rest.head? ≠ some '[')
    (hasked : item.asksMarked = false) (hmode : b = true ∨ item.misleads = false) :
    Advances b readClassItem s item b t ∨ item.last? = some '(' ∧ Strays b t := by
  rw [readClassItem] at h ⊢
  obtain ⟨first, s₁, hfirst, h⟩ := exists_of_bind h
  have hread := readClassPrimitive_advances (b := b) hfirst hs (unmarked_of_readRange h hasked) hclose
    fun hbracket => absurd hbracket hopen
  rcases hread with hread | ⟨rfl, hstray⟩
  · exact (readRange_follows h hread.verbose hmode).imp_left fun hrange => hread.bind fun _ => hrange
  · -- A question mark follows, so the parenthesis is an item by itself.
    have hhead : s₁.rest.head? = some '?' := by
      obtain ⟨cs, hrest⟩ := hstray.opener
      rw [← hrest]; rfl
    rw [readRange_apply _ hstray.verbose hhead, if_pos (.inl (by decide))] at h
    cases h
    exact .inr ⟨rfl, hstray⟩

/-! ## The opening of a class -/

theorem takeDashes_of_head {fuel : Nat} {items : List ClassNode} (hhead : s.rest.head? ≠ some '-') :
    takeDashes fuel items s = some (items, s) := by
  cases fuel with
  | zero => rfl
  | succ fuel => rw [takeDashes, bind_apply, peek_apply, Option.bind_some, if_neg (by simpa using hhead)]; rfl

theorem takeDashes_follows {fuel m : Nat} {items items' : List ClassNode}
    (h : takeDashes fuel items s = some (items', t)) (hs : s.verbose = false)
    (hfuel : s.rest.length ≤ fuel) (hm : (s.respelled b).rest.length ≤ m) :
    Follows b (takeDashes m items) s items' b t := by
  induction fuel generalizing s items m with
  | zero =>
    have hrest : s.rest = [] := List.eq_nil_of_length_eq_zero (Nat.le_zero.1 hfuel)
    cases h
    exact ⟨takeDashes_of_head (by simp [head?_respelled, hrest]), hs, List.suffix_rfl⟩
  | succ fuel ih =>
    by_cases hhead : s.rest.head? = some '-'
    · obtain ⟨cs, hrest⟩ := List.head?_eq_some_iff.1 hhead
      have hkept := rest_respelled (b := b) hhead (by decide)
      obtain ⟨m, rfl⟩ : ∃ n, m = n + 1 := ⟨m - 1, by rw [hkept, List.length_cons] at hm; omega⟩
      rw [takeDashes] at h ⊢
      refine follows_peek_bind h hs fun h => follows_ite h (fun _ h => ?_) fun hdash => ?_
      · refine follows_bumpOn_bind h hs hhead (by decide) fun _ h => ih h hs ?_ ?_
        · rw [hrest, List.length_cons] at hfuel
          rw [rest_next hrest]
          omega
        · rw [hkept, List.length_cons] at hm
          omega
      · exact absurd (by simpa using hhead) hdash
    · rw [takeDashes_of_head hhead] at h
      cases h
      exact ⟨takeDashes_of_head (by rwa [head?_respelled]), hs, List.suffix_rfl⟩

theorem length_le_of_takeDashes {fuel : Nat} {items items' : List ClassNode}
    (h : takeDashes fuel items s = some (items', t)) : items.length ≤ items'.length := by
  induction fuel generalizing s items with
  | zero => cases h; exact Nat.le_refl _
  | succ fuel ih =>
    rw [takeDashes] at h
    obtain ⟨o, s₁, -, h⟩ := exists_of_bind h
    split at h
    · obtain ⟨_, s₂, -, h⟩ := exists_of_bind h
      exact Nat.le_trans (Nat.le_succ _) (ih h)
    · cases h; exact Nat.le_refl _

/-- Where no dash is taken nothing is. -/
theorem eq_of_takeDashes_nil (h : takeDashes s.rest.length [] s = some ([], t)) : t = s := by
  by_cases hhead : s.rest.head? = some '-'
  · obtain ⟨cs, hrest⟩ := List.head?_eq_some_iff.1 hhead
    rw [hrest, List.length_cons, takeDashes, bind_apply, peek_apply, Option.bind_some, if_pos (by rw [hhead]; rfl)] at h
    obtain ⟨_, s₁, -, h⟩ := exists_of_bind h
    exact absurd (length_le_of_takeDashes h) (by simp)
  · rw [takeDashes_of_head hhead] at h
    cases h
    rfl

theorem readFirstItems_follows {items : List ClassNode} (h : readFirstItems s = some (items, t))
    (hs : s.verbose = false) (hclose : s.rest.head? ≠ some ']') : Follows b readFirstItems s items b t := by
  rw [readFirstItems] at h ⊢
  refine follows_rest_bind h fun h => ?_
  obtain ⟨dashes, s₁, htake, h⟩ := exists_of_bind h
  refine (takeDashes_follows htake hs (Nat.le_refl _) (Nat.le_refl _)).bind fun hs₁ => ?_
  refine follows_peek_bind h hs₁ fun h => follows_ite h (fun hbracket h => ?_) fun _ h => follows_pure h hs₁
  simp only [Bool.and_eq_true, List.isEmpty_iff, beq_iff_eq] at hbracket
  obtain ⟨rfl, hhead⟩ := hbracket
  exact absurd (eq_of_takeDashes_nil htake ▸ hhead) hclose

theorem readFirstItems_of_close {cs : List Char} (hs : s.verbose = false) (hrest : s.rest = ']' :: cs) :
    readFirstItems s = if cs = [] then none else some ([.literal ']' false], s.next) := by
  have hhead : s.rest.head? = some ']' := by rw [hrest, List.head?_cons]
  rw [readFirstItems, bind_apply, rest_apply, Option.bind_some, bind_apply,
    takeDashes_of_head (by rw [hhead]; decide), Option.bind_some, bind_apply, peek_apply, Option.bind_some,
    hhead, if_pos (by rfl), bind_apply, bumpOn_apply hs, rest_next hrest]
  split <;> rfl

/-- The mark of a negated class after its opening bracket. -/
def caret (negated : Bool) : List Char := if negated then ['^'] else []

theorem caret_false : caret false = [] := rfl

theorem unmarked_caret (negated : Bool) : Unmarked (caret negated) := by
  cases negated <;> decide

/-- A bracket that belongs to the opening of a class. -/
theorem openClass_of_close {negated : Bool} {cs : List Char} (hs : s.verbose = false)
    (hrest : s.rest = '[' :: (caret negated ++ ']' :: cs)) :
    openClass s =
      if cs = [] then none else some ((negated, [.literal ']' false]), { s with rest := cs }) := by
  have hnext := rest_next hrest
  rw [openClass, bind_apply, bumpOn_apply hs, if_neg (by rw [hnext]; simp), Option.bind_some, bind_apply,
    peek_apply, Option.bind_some]
  cases negated with
  | false =>
    have hnext : s.next.rest = ']' :: cs := hnext
    have hhead : s.next.rest.head? = some ']' := by rw [hnext, List.head?_cons]
    have hstate : s.next.next = { s with rest := cs } := by rw [Reading.next, hnext]; rfl
    simp only [hhead]
    rw [if_neg (by decide), bind_apply, readFirstItems_of_close (s := s.next) hs hnext, hstate]
    split <;> rfl
  | true =>
    have hhead : s.next.rest.head? = some '^' := by rw [hnext]; rfl
    have hnext' : s.next.next.rest = ']' :: cs := rest_next hnext
    have hstate : s.next.next.next = { s with rest := cs } := by rw [Reading.next, hnext']; rfl
    simp only [hhead]
    rw [if_pos (by rfl), bind_apply, bumpOn_apply (s := s.next) hs, if_neg (by rw [hnext']; simp),
      Option.bind_some]
    rw [bind_apply, readFirstItems_of_close (s := s.next.next) hs hnext', hstate]
    split <;> rfl

/-- Where the opening of a class ends in a bracket, respelling sets its mark after that bracket, unless
the mark was set before. -/
theorem respell_caret_close (b negated : Bool) (cs : List Char) :
    ∃ b', (b = false → b' = true) ∧
      respell b ('[' :: (caret negated ++ ']' :: cs)) = '[' :: (caret negated ++ ']' :: respell b' cs) := by
  cases b with
  | false =>
    refine ⟨true, fun _ => rfl, ?_⟩
    cases negated with
    | false => exact respell_open_close cs
    | true => exact respell_open_caret_close cs
  | true =>
    refine ⟨false, nofun, ?_⟩
    rw [respell_true_cons (by decide) (by decide), respell_append (unmarked_caret negated), respell_close]

/-- The opening of a class marks the class as open, unless the mark was set before. -/
theorem openClass_advances {negated : Bool} {items : List ClassNode}
    (h : openClass s = some ((negated, items), t)) (hs : s.verbose = false) (hhead : s.rest.head? = some '[') :
    ∃ b', (b = false → b' = true) ∧ Advances b openClass s (negated, items) b' t := by
  by_cases hclose : ∃ negated cs, s.rest = '[' :: (caret negated ++ ']' :: cs)
  · obtain ⟨negated', cs, hrest⟩ := hclose
    rw [openClass_of_close hs hrest] at h
    split at h
    · cases h
    · rename_i hmore
      cases h
      obtain ⟨b', hb', hkept⟩ := respell_caret_close b negated cs
      rw [← hrest] at hkept
      refine ⟨b', hb', ⟨?_, hs, ?_⟩, ?_⟩
      · rw [openClass_of_close (by exact hs) hkept, if_neg (by rwa [respell_eq_nil_iff])]
        rfl
      · rw [hkept]
        exact (List.suffix_cons _ _).trans ((List.suffix_append _ _).trans (List.suffix_cons _ _))
      · rw [Reading.respelled, Reading.respelled, hkept]
        simp
        omega
  · have hkept : (s.respelled b).rest = '[' :: (s.next.respelled true).rest := by
      cases b with
      | false =>
        obtain ⟨cs, hrest⟩ := List.head?_eq_some_iff.1 hhead
        rw [Reading.respelled, hrest, respell_open, Reading.respelled, rest_next hrest]
        · intro hbracket
          obtain ⟨more, rfl⟩ := List.head?_eq_some_iff.1 hbracket
          exact hclose ⟨false, more, hrest⟩
        · rintro ⟨more, rfl⟩
          exact hclose ⟨true, more, hrest⟩
      | true => exact rest_respelled_true hhead (by decide) (by decide)
    refine ⟨true, fun _ => rfl, ?_⟩
    rw [openClass] at h ⊢
    obtain ⟨_, s₁, hbump, h⟩ := exists_of_bind h
    obtain ⟨hmore, rfl⟩ := next_of_bumpOn hbump hs
    refine (advances_bumpOn hkept hs hmore).bind fun hs => follows_peek_bind h hs fun h => ?_
    obtain ⟨cs, hrest⟩ := List.head?_eq_some_iff.1 hhead
    refine follows_ite h (fun hcaret h => ?_) (fun hcaret h => ?_)
    · obtain ⟨cs', hcs⟩ := List.head?_eq_some_iff.1 (beq_iff_eq.1 hcaret)
      refine follows_bumpOn_bind h hs (beq_iff_eq.1 hcaret) (by decide) fun _ h => ?_
      obtain ⟨items, s₂, hitems, h⟩ := exists_of_bind h
      refine (readFirstItems_follows hitems hs ?_).bind fun hs => follows_pure h hs
      rw [rest_next hcs]
      intro hbracket
      obtain ⟨more, rfl⟩ := List.head?_eq_some_iff.1 hbracket
      exact hclose ⟨true, more, by rw [hrest, ← rest_next hrest, hcs]; rfl⟩
    · obtain ⟨items, s₂, hitems, h⟩ := exists_of_bind h
      refine (readFirstItems_follows hitems hs ?_).bind fun hs => follows_pure h hs
      rw [rest_next hrest]
      intro hbracket
      obtain ⟨more, rfl⟩ := List.head?_eq_some_iff.1 hbracket
      exact hclose ⟨false, more, hrest⟩

/-! ## Classes named between colons -/

/-- A class named between colons, as it is written. -/
def posixText (negated : Bool) (name : String) : List Char :=
  '[' :: (':' :: (caret negated ++ name.toList ++ [':'])) ++ [']']

theorem posixText_append (negated : Bool) (name : String) (cs : List Char) :
    posixText negated name ++ cs = '[' :: (':' :: (caret negated ++ name.toList ++ [':']) ++ ']' :: cs) := by
  simp [posixText]

theorem posixName_facts : ∀ name ∈ posixNames,
    ':' ∉ name.toList ∧ name.toList.head? ≠ some '^' ∧ Unmarked name.toList := by
  decide

theorem exists_eq_caret_append (cs : List Char) :
    ∃ negated more, cs = caret negated ++ more ∧ (negated = false → more.head? ≠ some '^') := by
  by_cases h : cs.head? = some '^'
  · obtain ⟨more, rfl⟩ := List.head?_eq_some_iff.1 h
    exact ⟨true, more, rfl, nofun⟩
  · exact ⟨false, cs, rfl, fun _ => h⟩

/-- What stands between two colons, when a class is named there. -/
theorem readPosix?_apply {negated : Bool} {cs : List Char} (hrest : s.rest = '[' :: ':' :: (caret negated ++ cs))
    (hcaret : negated = false → cs.head? ≠ some '^') :
    readPosix? s =
      if [':', ']'] <+: cs.dropWhile (· ≠ ':') ∧ String.ofList (cs.takeWhile (· ≠ ':')) ∈ posixNames then
        some (some (.posix negated (String.ofList (cs.takeWhile (· ≠ ':')))),
          { s with rest := (cs.dropWhile (· ≠ ':')).drop 2 })
      else some (none, s) := by
  have hread : readPosix? s =
      (if [':', ']'].isPrefixOf (cs.dropWhile (· ≠ ':'))
          && posixNames.contains (String.ofList (cs.takeWhile (· ≠ ':'))) then do
        setRest ((cs.dropWhile (· ≠ ':')).drop 2)
        return some (.posix negated (String.ofList (cs.takeWhile (· ≠ ':'))))
      else return none : Read (Option ClassNode)) s := by
    rw [readPosix?, bind_apply, rest_apply, Option.bind_some]
    simp only [hrest]
    cases negated with
    | true => rfl
    | false =>
      rw [caret_false, List.nil_append]
      split
      · exact absurd rfl (hcaret rfl)
      · rfl
  rw [hread]
  by_cases h : [':', ']'] <+: cs.dropWhile (· ≠ ':') ∧ String.ofList (cs.takeWhile (· ≠ ':')) ∈ posixNames
  · rw [if_pos h, if_pos]
    · rfl
    · simpa using h
  · rw [if_neg h, if_neg]
    · rfl
    · simpa using h

theorem readPosix?_of_text {negated : Bool} {name : String} {cs : List Char} (hname : name ∈ posixNames)
    (hrest : s.rest = posixText negated name ++ cs) :
    readPosix? s = some (some (.posix negated name), { s with rest := cs }) := by
  obtain ⟨hcolon, hcaret, -⟩ := posixName_facts name hname
  have hrest' : s.rest = '[' :: ':' :: (caret negated ++ (name.toList ++ ':' :: ']' :: cs)) := by
    simp [hrest, posixText]
  have hname' : ∀ c ∈ name.toList, decide (c ≠ ':') = true := fun c hc =>
    decide_eq_true fun h => hcolon (h ▸ hc)
  have htake : (name.toList ++ ':' :: ']' :: cs).takeWhile (· ≠ ':') = name.toList := by
    rw [List.takeWhile_append_of_pos hname', List.takeWhile_cons_of_neg (by decide), List.append_nil]
  have hdrop : (name.toList ++ ':' :: ']' :: cs).dropWhile (· ≠ ':') = ':' :: ']' :: cs := by
    rw [List.dropWhile_append_of_pos hname', List.dropWhile_cons_of_neg (by decide)]
  rw [readPosix?_apply hrest' fun _ => ?_, htake, hdrop, String.ofList_toList, if_pos ⟨⟨cs, rfl⟩, hname⟩]
  · rfl
  · cases hchars : name.toList with
    | nil => simp
    | cons c cs => rwa [hchars] at hcaret

/-- Either a class is named between colons, or nothing is taken. -/
theorem readPosix?_cases (s : Reading) :
    (∃ negated name cs, name ∈ posixNames ∧ s.rest = posixText negated name ++ cs) ∨
      readPosix? s = some (none, s) := by
  by_cases hopen : ∃ cs, s.rest = '[' :: ':' :: cs
  · obtain ⟨cs, hrest⟩ := hopen
    obtain ⟨negated, cs, rfl, hcaret⟩ := exists_eq_caret_append cs
    rw [readPosix?_apply hrest hcaret]
    split
    · rename_i h
      obtain ⟨⟨more, hmore⟩, hname⟩ := h
      refine .inl ⟨negated, _, more, hname, ?_⟩
      have hcs := List.takeWhile_append_dropWhile (p := fun c => decide (c ≠ ':')) (l := cs)
      rw [← hmore] at hcs
      rw [hrest, posixText, String.toList_ofList]
      conv_lhs => rw [← hcs]
      simp
    · exact .inr rfl
  · refine .inr ?_
    rw [readPosix?, bind_apply, rest_apply, Option.bind_some]
    dsimp only
    generalize s.rest = text at hopen
    split
    · exact absurd ⟨_, rfl⟩ hopen
    · rfl

theorem unmarked_posixText {negated : Bool} {name : String} (hname : name ∈ posixNames) :
    Unmarked (':' :: (caret negated ++ name.toList ++ [':'])) := by
  obtain ⟨-, -, hname⟩ := posixName_facts name hname
  intro c hc
  simp only [List.mem_cons, List.mem_append, List.not_mem_nil, or_false] at hc
  rcases hc with rfl | (hc | hc) | rfl
  · decide
  · exact unmarked_caret negated c hc
  · exact hname c hc
  · decide

theorem respell_posixText {negated : Bool} {name : String} (hname : name ∈ posixNames) (b : Bool)
    (cs : List Char) : respell b (posixText negated name ++ cs) = posixText negated name ++ respell false cs := by
  rw [posixText_append, respell_open_of_head b (c := ':') rfl (by decide) (by decide),
    respell_append (unmarked_posixText hname), respell_close, posixText_append]

theorem readPosix?_advances {item : ClassNode} (h : readPosix? s = some (some item, t))
    (hs : s.verbose = false) : item.isClass = true ∧ Advances b readPosix? s (some item) false t := by
  rcases readPosix?_cases s with ⟨negated, name, cs, hname, hrest⟩ | hnone
  · cases (readPosix?_of_text hname hrest).symm.trans h
    have hrest' : (s.respelled b).rest = posixText negated name ++ respell false cs := by
      rw [Reading.respelled, hrest, respell_posixText hname]
    refine ⟨rfl, ⟨readPosix?_of_text hname hrest', hs, ⟨_, hrest'.symm⟩⟩, ?_⟩
    rw [hrest', List.length_append, posixText, List.length_append, List.length_cons]
    exact Nat.lt_add_of_pos_left (Nat.succ_pos _)
  · cases hnone.symm.trans h

theorem readPosix?_follows_none (h : readPosix? s = some (none, t)) (hs : s.verbose = false)
    (hhead : s.rest.head? = some '[') : t = s ∧ Follows b readPosix? s none b t := by
  have hno : ¬ ∃ negated name cs, name ∈ posixNames ∧ s.rest = posixText negated name ++ cs := by
    rintro ⟨negated, name, cs, hname, hrest⟩
    cases (readPosix?_of_text hname hrest).symm.trans h
  have hnone := (readPosix?_cases s).resolve_left hno
  cases hnone.symm.trans h
  refine ⟨rfl, ?_, hs, List.suffix_rfl⟩
  refine (readPosix?_cases (s.respelled b)).resolve_left ?_
  rintro ⟨negated, name, cs', hname, hrest'⟩
  obtain ⟨cs, hrest⟩ := List.head?_eq_some_iff.1 hhead
  rw [posixText_append, Reading.respelled, hrest] at hrest'
  have hcolon : cs.head? = some ':' := by
    rw [← head?_tail_respell_open b]; exact congrArg (fun text => text.tail.head?) hrest'
  have hrest' := (List.cons.inj ((respell_open_of_head b hcolon (by decide) (by decide)).symm.trans hrest')).2
  obtain ⟨more, rfl, hmore⟩ := eq_append_of_respell_eq (unmarked_posixText hname) hrest'
  have hbracket : more.head? = some ']' := by rw [← head?_respell true, ← hmore, List.head?_cons]
  obtain ⟨cs, rfl⟩ := List.head?_eq_some_iff.1 hbracket
  exact hno ⟨negated, name, cs, hname, by simp [hrest, posixText]⟩

end Read

end ProfileKit.Pattern

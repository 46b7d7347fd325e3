import ProfileKit.Proofs.Pattern.ClassSigns

/-!
# Classes in a respelled text

Respelling keeps one mark for an open class, and a bracket that closes an inner class takes it away. A
class is read alike all the same as long as the mark is kept, or as long as none of its items looks like
an opening.
-/

namespace ProfileKit.Pattern

namespace Read

open ClassNode

variable {s t : Reading} {b : Bool} {fuel : Nat} {negated : Bool}
  {pending : Option (SetOp × ClassNode)} {items : List ClassNode} {c : ClassNode}

/-- What comes next in the body of a class. -/
inductive ClassSign where
  | ending
  | opening
  | closing
  | operator (op : SetOp)
  | item

/-- What the next two characters tell about it. -/
def classSign : Option Char → Option Char → ClassSign
  | none, _ => .ending
  | some '[', _ => .opening
  | some ']', _ => .closing
  | some '&', some '&' => .operator .intersection
  | some '-', some '-' => .operator .difference
  | some '~', some '~' => .operator .symmetricDifference
  | _, _ => .item

/-- Reads on in the body of a class. -/
def readClassRest (fuel : Nat) (negated : Bool) (pending : Option (SetOp × ClassNode))
    (items : List ClassNode) : ClassSign → Read ClassNode
  | .ending => failure
  | .opening => do
    match ← readPosix? with
    | some c => readClassBody fuel negated pending (c :: items)
    | none =>
      let nested ← readClass fuel
      readClassBody fuel negated pending (nested :: items)
  | .closing => do
    bump
    return .bracketed negated (closeClass pending items)
  | .operator op => do
    bump
    bump
    readClassBody fuel negated (some (op, closeClass pending items)) []
  | .item => do
    let item ← readClassItem
    readClassBody fuel negated pending (item :: items)

theorem classSign_of_item {cs : List Char} (hnil : cs ≠ []) (hopen : ∀ tail, cs ≠ '[' :: tail)
    (hclose : ∀ tail, cs ≠ ']' :: tail) (hand : ∀ tail, cs ≠ '&' :: '&' :: tail)
    (hdash : ∀ tail, cs ≠ '-' :: '-' :: tail) (htilde : ∀ tail, cs ≠ '~' :: '~' :: tail) :
    classSign cs.head? cs.tail.head? = .item := by
  match cs with
  | [] => exact absurd rfl hnil
  | [c] => unfold classSign; split <;> simp_all
  | c :: d :: cs => unfold classSign; split <;> simp_all

section Signs

variable {o o' : Option Char}

theorem head_of_classSign_opening (h : classSign o o' = .opening) : o = some '[' := by
  unfold classSign at h
  split at h <;> first | rfl | cases h

theorem head_of_classSign_closing (h : classSign o o' = .closing) : o = some ']' := by
  unfold classSign at h
  split at h <;> first | rfl | cases h

theorem heads_of_classSign_operator {op : SetOp} (h : classSign o o' = .operator op) :
    ∃ d, o = some d ∧ o' = some d ∧ isMark d = false := by
  unfold classSign at h
  split at h <;> first | exact ⟨_, rfl, rfl, by decide⟩ | cases h

theorem head_of_classSign_item (h : classSign o o' = .item) : o ≠ some '[' ∧ o ≠ some ']' := by
  refine ⟨?_, ?_⟩
  · rintro rfl; cases h
  · rintro rfl; cases h

end Signs

/-- Respelling leaves alone what the body of a class is read by. -/
theorem classSign_respell (b : Bool) (cs : List Char) :
    classSign (respell b cs).head? (respell b cs).tail.head? = classSign cs.head? cs.tail.head? := by
  rw [head?_respell]
  cases cs with
  | nil => rfl
  | cons c cs =>
    cases hc : isMark c with
    | false => rw [respell_cons hc, List.tail_cons, head?_respell, List.tail_cons]
    | true =>
      simp only [isMark, Bool.or_eq_true, beq_iff_eq] at hc
      obtain ((rfl | rfl) | rfl) | rfl := hc <;> rfl

theorem readClassBody_succ :
    readClassBody (fuel + 1) negated pending items =
      skipSpace >>= fun _ => rest >>= fun cs =>
        readClassRest fuel negated pending items (classSign cs.head? cs.tail.head?) := by
  rw [readClassBody]
  refine bind_congr fun _ => bind_congr fun cs => ?_
  split
  case h_7 hnil hopen hclose hand hdash htilde =>
    rw [classSign_of_item hnil hopen hclose hand hdash htilde]
    rfl
  all_goals rfl

/-- What is found among the items read so far is found in the whole class. -/
theorem readClassBody_has {q : ClassNode → Bool} (hq : Grows q)
    (h : readClassBody fuel negated pending items s = some (c, t)) :
    ∃ body, c = .bracketed negated body ∧ ((closeClass pending items).has q = true → body.has q = true) := by
  induction fuel generalizing s pending items with
  | zero => cases h
  | succ fuel ih =>
    rw [readClassBody_succ] at h
    obtain ⟨_, s₁, -, h⟩ := exists_of_bind h
    obtain ⟨cs, s₂, -, h⟩ := exists_of_bind h
    generalize classSign cs.head? cs.tail.head? = sign at h
    cases sign with
    | ending => cases h
    | opening =>
      obtain ⟨o, s₃, -, h⟩ := exists_of_bind h
      cases o with
      | some item =>
        obtain ⟨body, rfl, hbody⟩ := ih h
        exact ⟨body, rfl, fun h => hbody (has_closeClass_cons hq item h)⟩
      | none =>
        obtain ⟨nested, s₄, -, h⟩ := exists_of_bind h
        obtain ⟨body, rfl, hbody⟩ := ih h
        exact ⟨body, rfl, fun h => hbody (has_closeClass_cons hq nested h)⟩
    | closing =>
      obtain ⟨_, s₃, -, h⟩ := exists_of_bind h
      cases h
      exact ⟨_, rfl, id⟩
    | operator op =>
      obtain ⟨_, s₃, -, h⟩ := exists_of_bind h
      obtain ⟨_, s₄, -, h⟩ := exists_of_bind h
      obtain ⟨body, rfl, hbody⟩ := ih h
      exact ⟨body, rfl, fun h => hbody (has_closeClass_operator op h)⟩
    | item =>
      obtain ⟨item, s₃, -, h⟩ := exists_of_bind h
      obtain ⟨body, rfl, hbody⟩ := ih h
      exact ⟨body, rfl, fun h => hbody (has_closeClass_cons hq item h)⟩

theorem readClass_isClass (h : readClass fuel s = some (c, t)) : c.isClass = true := by
  cases fuel with
  | zero => cases h
  | succ fuel =>
    rw [readClass] at h
    obtain ⟨⟨negated, items⟩, s₁, -, h⟩ := exists_of_bind h
    obtain ⟨body, rfl, -⟩ := readClassBody_has grows_isClass h
    rfl

theorem has_of_readClassBody {q : ClassNode → Bool} (hq : Grows q)
    (h : readClassBody fuel negated pending items s = some (c, t))
    (hitems : (closeClass pending items).has q = true) : c.has q = true := by
  obtain ⟨body, rfl, hbody⟩ := readClassBody_has hq h
  rw [has, hbody hitems, Bool.or_true]

theorem isNested_of_readClassBody (h : readClassBody fuel negated pending items s = some (c, t))
    (hitems : (closeClass pending items).has isClass = true) : c.isNested = true := by
  obtain ⟨body, rfl, hbody⟩ := readClassBody_has grows_isClass h
  exact hbody hitems

/-- A condition that a class does not meet in any part is not met by an item of it. -/
theorem has_item_eq_false {q : ClassNode → Bool} (hq : Grows q) {x : ClassNode}
    (h : readClassBody fuel negated pending (x :: items) s = some (c, t)) (hc : c.has q = false) :
    x.has q = false := by
  rw [← Bool.not_eq_true] at hc ⊢
  exact fun hx => hc (has_of_readClassBody hq h (has_closeClass_of_mem List.mem_cons_self hx))

theorem item_eq_false {q : ClassNode → Bool} (hq : Grows q) {x : ClassNode}
    (h : readClassBody fuel negated pending (x :: items) s = some (c, t)) (hc : c.has q = false) :
    q x = false := by
  have hx := has_item_eq_false hq h hc
  rw [← Bool.not_eq_true] at hx ⊢
  exact fun h => hx (has_of_self h)

/-! ## Straying -/

theorem readClassBody_of_item {item : ClassNode} (hs : s.verbose = false)
    (hsign : classSign s.rest.head? s.rest.tail.head? = .item) (hitem : readClassItem s = some (item, t)) :
    readClassBody (fuel + 1) negated pending items s = readClassBody fuel negated pending (item :: items) t := by
  rw [readClassBody_succ, bind_apply, skipSpace_apply hs, Option.bind_some, bind_apply, rest_apply,
    Option.bind_some, hsign, readClassRest, bind_apply, hitem, Option.bind_some]

/-- A character that no range starts from is an item by itself. -/
theorem readClassBody_of_rest {d e : Char} {more : List Char} (hs : s.verbose = false)
    (hrest : s.rest = d :: e :: more) (hsign : classSign (some d) (some e) = .item) (hescape : d ≠ '\\')
    (hdash : e ≠ '-') :
    readClassBody (fuel + 1) negated pending items s =
      readClassBody fuel negated pending (.literal d false :: items) s.next := by
  have hnext : s.next.rest.head? = some e := by rw [rest_next hrest, List.head?_cons]
  refine readClassBody_of_item hs (by rw [hrest]; exact hsign) ?_
  rw [readClassItem, bind_apply, readClassPrimitive_of_head (by rw [hrest]; rfl) hescape, Option.bind_some,
    readRange_apply _ (s := s.next) hs hnext, if_pos (.inl hdash)]
  rfl

/-- Where a run strays the class has items that look like the opening of a named group. -/
theorem misleads_of_strays {x : ClassNode}
    (h : readClassBody fuel negated pending (x :: items) s = some (c, t)) (hx : x.last? = some '(')
    (hstray : Strays b s) : c.has misleads = true := by
  obtain ⟨more, hrest⟩ := hstray.opener
  have hrest : s.rest = '?' :: 'P' :: '<' :: more := hrest.symm
  have hs : s.next.verbose = false := hstray.verbose
  match fuel, h with
  | 0, h => cases h
  | 1, h =>
    rw [readClassBody_of_rest hstray.verbose hrest rfl (by decide) (by decide)] at h
    cases h
  | fuel + 2, h =>
    rw [readClassBody_of_rest hstray.verbose hrest rfl (by decide) (by decide),
      readClassBody_of_rest hs (rest_next hrest) rfl (by decide) (by decide)] at h
    exact has_of_readClassBody grows_misleads h (has_misleads_of_opener hx)

/-! ## Whole classes -/

/-- The mark respelling keeps is right for what is left of a class, or does no harm there. -/
def Suits (marked : Prop) (c : ClassNode) : Prop := marked ∧ c.isNested = false ∨ c.has misleads = false

mutual

theorem readClass_advances {s t : Reading} {b : Bool} {c : ClassNode} {m : Nat} : {fuel : Nat} →
    (h : readClass fuel s = some (c, t)) → (hs : s.verbose = false) → (hhead : s.rest.head? = some '[') →
    (hasked : c.has asksMarked = false) → (hsuits : Suits (b = false) c) →
    (hm : 2 * (s.respelled b).rest.length ≤ m) → Advances b (readClass m) s c false t
  | 0, h, _, _, _, _, _ => by cases h
  | fuel + 1, h, hs, hhead, hasked, hsuits, hm => by
    rw [readClass] at h
    obtain ⟨⟨negated, items⟩, s₁, hopen, h⟩ := exists_of_bind h
    obtain ⟨b', hb', hread⟩ := openClass_advances (b := b) hopen hs hhead
    have hlength := hread.advance
    obtain ⟨m, rfl⟩ : ∃ n, m = n + 1 := ⟨m - 1, by omega⟩
    rw [readClass]
    refine hread.bind fun hs => ?_
    exact (readClassBody_advances h hs hasked (hsuits.imp_left (.imp_left hb')) (by omega)).toFollows

theorem readClassBody_advances {s t : Reading} {b : Bool} {c : ClassNode} {m : Nat} {negated : Bool}
    {pending : Option (SetOp × ClassNode)} {items : List ClassNode} : {fuel : Nat} →
    (h : readClassBody fuel negated pending items s = some (c, t)) → (hs : s.verbose = false) →
    (hasked : c.has asksMarked = false) → (hsuits : Suits (b = true) c) →
    (hm : 2 * (s.respelled b).rest.length + 1 ≤ m) →
    Advances b (readClassBody m negated pending items) s c false t
  | 0, h, _, _, _, _ => by cases h
  | fuel + 1, h, hs, hasked, hsuits, hm => by
    obtain ⟨m, rfl⟩ : ∃ n, m = n + 1 := ⟨m - 1, by omega⟩
    have hsign := classSign_respell b s.rest
    rw [readClassBody_succ] at h ⊢
    rw [bind_apply, skipSpace_apply hs, Option.bind_some, bind_apply, rest_apply, Option.bind_some] at h
    dsimp only at h
    generalize hkind : classSign s.rest.head? s.rest.tail.head? = sign at h hsign
    suffices hread : Advances b (readClassRest m negated pending items sign) s c false t by
      refine ⟨⟨?_, hread.verbose, hread.suffix⟩, hread.advance⟩
      rw [bind_apply, skipSpace_apply (by exact hs), Option.bind_some, bind_apply, rest_apply, Option.bind_some,
        Reading.respelled, hsign]
      exact hread.run
    cases sign with
    | ending => cases h
    | opening =>
      have hhead := head_of_classSign_opening hkind
      -- A class among the items is where the mark may be wrong.
      have hmisleads {x : ClassNode} {s₁ : Reading} (hx : x.isClass = true)
          (h : readClassBody fuel negated pending (x :: items) s₁ = some (c, t)) : c.has misleads = false := by
        have hnested := isNested_of_readClassBody h (has_closeClass_of_mem List.mem_cons_self (has_of_self hx))
        exact hsuits.resolve_left fun hflat => by simp [hflat.2] at hnested
      obtain ⟨o, s₁, hposix, hrest⟩ := exists_of_bind h
      cases o with
      | some item =>
        obtain ⟨hclass, hread⟩ := readPosix?_advances (b := b) hposix hs
        have hlength := hread.advance
        refine hread.bind fun hs => ?_
        exact (readClassBody_advances hrest hs hasked (.inr (hmisleads hclass hrest)) (by omega)).toFollows
      | none =>
        obtain ⟨rfl, hposix⟩ := readPosix?_follows_none (b := b) hposix hs hhead
        obtain ⟨nested, s₂, hclass, hrest⟩ := exists_of_bind hrest
        have hmis := hmisleads (readClass_isClass hclass) hrest
        have hread := readClass_advances (b := b) (m := m) hclass hs hhead
          (has_item_eq_false grows_asksMarked hrest hasked)
          (.inr (has_item_eq_false grows_misleads hrest hmis)) (by omega)
        have hlength := hread.advance
        refine hposix.bind_advances (hread.bind fun hs => ?_)
        exact (readClassBody_advances hrest hs hasked (.inr hmis) (by omega)).toFollows
    | closing =>
      obtain ⟨_, s₁, hbump, h⟩ := exists_of_bind h
      cases hbump
      exact (advances_bump (rest_respelled_close (head_of_classSign_closing hkind)) hs).bind fun hs =>
        follows_pure h hs
    | operator op =>
      obtain ⟨d, hhead, hnext, hd⟩ := heads_of_classSign_operator hkind
      rw [← List.drop_one] at hnext
      obtain ⟨_, s₁, hbump, h⟩ := exists_of_bind h
      cases hbump
      have hread := advances_bump (rest_respelled (b := b) hhead hd) hs
      have hlength := hread.advance
      refine hread.bind fun hs => ?_
      refine follows_bump_bind h hs hnext hd fun h => ?_
      have hlength' := (advances_bump (rest_respelled (b := b) (s := s.next) hnext hd) hs).advance
      exact (readClassBody_advances h hs hasked hsuits (by omega)).toFollows
    | item =>
      obtain ⟨hopen, hclose⟩ := head_of_classSign_item hkind
      obtain ⟨item, s₁, hitem, h⟩ := exists_of_bind h
      have hmode : b = true ∨ item.misleads = false :=
        hsuits.imp And.left (item_eq_false grows_misleads h)
      rcases readClassItem_advances (b := b) hitem hs hclose hopen (item_eq_false grows_asksMarked h hasked) hmode
        with hread | ⟨hparen, hstray⟩
      · have hlength := hread.advance
        refine hread.bind fun hs => ?_
        exact (readClassBody_advances h hs hasked hsuits (by omega)).toFollows
      · have hmis := misleads_of_strays h hparen hstray
        rcases hsuits with hsuits | hsuits
        · simp [hstray.outside] at hsuits
        · simp [hsuits] at hmis

end

end Read

end ProfileKit.Pattern

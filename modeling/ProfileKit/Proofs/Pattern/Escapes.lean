import ProfileKit.Proofs.Pattern.Reading

/-!
# Escapes in a respelled text

An escape is read alike in a respelled text. The character after its backslash may be a sign respelling
looks at, and respelling takes the two together; what follows them holds no such sign, unless it is the
query of a property, which no known property has.
-/

namespace ProfileKit.Pattern

namespace Read

variable {s t : Reading} {b : Bool} {c : Char}

/-! ## Characters given by their codes -/

theorem isMark_eq_false_of_hexValue? {v : Nat} (h : Json.Reader.hexValue? c = some v) : isMark c = false :=
  isMark_eq_false_of (p := fun c => (Json.Reader.hexValue? c).isSome) (by decide) (by simp [h])

theorem unmarked_of_foldlM_hexValue? {ds : List Char} {m n : Nat}
    (h : ds.foldlM (fun n d => (Json.Reader.hexValue? d).map (n * 16 + ·)) m = some n) : Unmarked ds := by
  induction ds generalizing m with
  | nil => simp [Unmarked]
  | cons d ds ih =>
    rw [List.foldlM_cons] at h
    obtain ⟨m', hd, hrest⟩ := Option.bind_eq_some_iff.1 h
    obtain ⟨v, hv, -⟩ := Option.map_eq_some_iff.1 hd
    exact List.forall_mem_cons.2 ⟨isMark_eq_false_of_hexValue? hv, ih hrest⟩

theorem unmarked_of_readHex {ds : List Char} (h : readHex ds = some c) : Unmarked ds := by
  unfold readHex at h
  split at h
  · cases h
  · obtain ⟨n, hn, -⟩ := Option.bind_eq_some_iff.1 h
    exact unmarked_of_foldlM_hexValue? hn

theorem subset_of_takeBraced {fuel : Nat} {acc ds : List Char}
    (h : takeBraced fuel acc s = some (ds, t)) : acc ⊆ ds := by
  induction fuel generalizing s acc with
  | zero => cases h
  | succ fuel ih =>
    rw [takeBraced] at h
    obtain ⟨o, s₁, -, h⟩ := exists_of_bind h
    match o, h with
    | none, h => cases h
    | some c, h =>
      by_cases hc : c = '\x7d'
      · subst hc
        obtain ⟨_, s₂, -, h⟩ := exists_of_bind h
        rw [(eq_of_pure h).1]
        exact fun c hc => List.mem_reverse.2 hc
      · simp only at h
        obtain ⟨_, s₂, -, h⟩ := exists_of_bind h
        obtain ⟨_, s₃, -, h⟩ := exists_of_bind h
        exact List.Subset.trans (List.subset_cons_self c acc) (ih h)

theorem takeBraced_follows {fuel m : Nat} {acc ds : List Char} (h : takeBraced fuel acc s = some (ds, t))
    (hs : s.verbose = false) (hds : Unmarked ds) (hm : (s.respelled b).rest.length < m) :
    Follows b (takeBraced m acc) s ds b t := by
  induction fuel generalizing s acc m with
  | zero => cases h
  | succ fuel ih =>
    obtain ⟨m, rfl⟩ : ∃ n, m = n + 1 := ⟨m - 1, by omega⟩
    rw [takeBraced] at h ⊢
    refine follows_peek_bind h hs fun h => ?_
    generalize hhead : s.rest.head? = o at h ⊢
    split
    · cases h
    · exact follows_bump_bind h hs hhead (by decide) fun h => follows_pure h hs
    · rename_i c _
      simp only at h
      have hc : isMark c = false := by
        obtain ⟨_, s₂, -, h⟩ := exists_of_bind h
        obtain ⟨_, s₃, -, h⟩ := exists_of_bind h
        exact hds c (subset_of_takeBraced h List.mem_cons_self)
      refine follows_bump_bind h hs hhead hc fun h => ?_
      refine follows_skipSpace_bind h hs fun h => ih h hs ?_
      rw [rest_respelled hhead hc, List.length_cons] at hm
      omega

theorem subset_of_takeChars {n : Nat} {acc ds : List Char} (h : takeChars n acc s = some (ds, t)) :
    acc ⊆ ds := by
  induction n generalizing s acc with
  | zero =>
    rw [takeChars] at h
    rw [(eq_of_pure h).1]
    exact fun c hc => List.mem_reverse.2 hc
  | succ n ih =>
    rw [takeChars] at h
    obtain ⟨o, s₁, -, h⟩ := exists_of_bind h
    match o, h with
    | none, h => cases h
    | some c, h =>
      obtain ⟨_, s₂, -, h⟩ := exists_of_bind h
      refine List.Subset.trans (List.subset_cons_self c acc) ?_
      dsimp only at h
      split at h
      · obtain ⟨_, s₃, -, h⟩ := exists_of_bind h
        exact ih h
      · exact ih h

theorem takeChars_follows {n : Nat} {acc ds : List Char} (h : takeChars n acc s = some (ds, t))
    (hs : s.verbose = false) (hds : Unmarked ds) : Follows b (takeChars n acc) s ds b t := by
  induction n generalizing s acc with
  | zero => exact follows_pure h hs
  | succ n ih =>
    have hsub := subset_of_takeChars h
    rw [takeChars] at h ⊢
    refine follows_peek_bind h hs fun h => ?_
    generalize hhead : s.rest.head? = o at h ⊢
    split
    · cases h
    · rename_i c
      have hc : isMark c = false := by
        obtain ⟨_, s₂, -, h⟩ := exists_of_bind h
        dsimp only at h
        split at h
        · obtain ⟨_, s₃, -, h⟩ := exists_of_bind h
          exact hds c (subset_of_takeChars h List.mem_cons_self)
        · exact hds c (subset_of_takeChars h List.mem_cons_self)
      refine follows_bump_bind h hs hhead hc fun h => follows_ite h (fun _ h => ?_) (fun _ h => ih h hs)
      exact follows_skipSpace_bind h hs fun h => ih h hs

/-- A character given by its code, from the letter that tells how many digits the code has. -/
theorem readCode_follows {digits : Nat} {p : Primitive} (h : readCode digits s = some (p, t))
    (hs : s.verbose = false) (hhead : s.rest.head? = some c) (hc : isMark c = false) :
    Follows b (readCode digits) s p b t := by
  rw [readCode] at h ⊢
  refine follows_bumpOn_bind h hs hhead hc fun _ h => follows_peek_bind h hs fun h => ?_
  refine follows_ite h (fun hbrace h => ?_) (fun _ h => ?_)
  · refine follows_bump_bind h hs (beq_iff_eq.1 hbrace) (by decide) fun h => ?_
    refine follows_skipSpace_bind h hs fun h => follows_rest_bind h fun h => ?_
    obtain ⟨ds, s₁, htake, h⟩ := exists_of_bind h
    cases hhex : readHex ds with
    | none => rw [hhex] at h; cases h
    | some c' =>
      refine (takeBraced_follows htake hs (unmarked_of_readHex hhex) (Nat.lt_succ_self _)).bind fun hs => ?_
      rw [hhex] at h ⊢
      exact follows_pure h hs
  · obtain ⟨ds, s₁, htake, h⟩ := exists_of_bind h
    cases hhex : readHex ds with
    | none => rw [hhex] at h; cases h
    | some c' =>
      refine (takeChars_follows htake hs (unmarked_of_readHex hhex)).bind fun hs => ?_
      rw [hhex] at h ⊢
      exact follows_pure h hs

/-! ## Properties -/

/-- A primitive that asks for no property by a name with a sign in it respelling looks at. -/
def Primitive.Unmarked : Primitive → Prop
  | .property _ query => Pattern.Unmarked query.toList
  | _ => True

theorem readProperty_follows {negated : Bool} {p : Primitive} (h : readProperty negated s = some (p, t))
    (hs : s.verbose = false) (hhead : s.rest.head? = some c) (hc : isMark c = false) (hp : p.Unmarked) :
    Follows b (readProperty negated) s p b t := by
  rw [readProperty] at h ⊢
  refine follows_bumpOn_bind h hs hhead hc fun _ h => follows_peek_bind h hs fun h => ?_
  generalize hnext : s.next.rest.head? = o at h ⊢
  split
  · refine follows_bump_bind h hs hnext (by decide) fun h => ?_
    refine follows_skipSpace_bind h hs fun h => follows_rest_bind h fun h => ?_
    obtain ⟨name, s₁, htake, h⟩ := exists_of_bind h
    obtain ⟨rfl, -⟩ := eq_of_pure h
    rw [Primitive.Unmarked, String.toList_ofList] at hp
    exact (takeBraced_follows htake hs hp (Nat.lt_succ_self _)).bind fun hs => follows_pure h hs
  · cases h
  · rename_i d _ _
    simp only at h
    have hd : isMark d = false := by
      obtain ⟨_, s₁, -, h⟩ := exists_of_bind h
      obtain ⟨_, s₂, -, h⟩ := exists_of_bind h
      obtain ⟨rfl, -⟩ := eq_of_pure h
      rw [Primitive.Unmarked, String.toList_ofList] at hp
      exact hp d List.mem_cons_self
    refine follows_bump_bind h hs hnext hd fun h => ?_
    exact follows_skipSpace_bind h hs fun h => follows_pure h hs
  · cases h

/-! ## Word boundaries -/

theorem takeWord_follows {fuel m : Nat} {word : List Char} (h : takeWord fuel [] s = some (word, t))
    (hs : s.verbose = false) (hfuel : s.rest.length ≤ fuel) (hm : (s.respelled b).rest.length ≤ m) :
    Follows b (takeWord m []) s word b t :=
  takeWhile_follows (fun _ => rfl) (fun _ _ => rfl)
    (fun _ => isMark_eq_false_of (p := fun c => c.isAlpha || c == '-') (by decide)) h hs hfuel hm

/-- Braces after the escape of a word boundary that name no kind of boundary are left where they are. -/
theorem readBoundaryKind_of_brace (hs : s.verbose = false) (hbrace : s.rest.head? = some '\x7b')
    (hnext : s.next.rest.head? = some c) (hc : (c.isAlpha || c == '-') = false) :
    readBoundaryKind s = some (.wordBoundary, s) := by
  have hmore : s.next.rest ≠ [] := by rintro hnil; simp [hnil] at hnext
  rw [readBoundaryKind, bind_apply, rest_apply, Option.bind_some, if_neg (by simp [hbrace]), bind_apply,
    bumpOn_apply hs, if_neg hmore, Option.bind_some, bind_apply, peek_apply, Option.bind_some]
  simp only [hnext, hc]
  rfl

theorem readBoundaryKind_follows {a : Assertion} (h : readBoundaryKind s = some (a, t))
    (hs : s.verbose = false) : Follows b readBoundaryKind s a b t := by
  by_cases hback : s.rest.head? = some '\x7b' ∧ ∃ c ∈ s.next.rest.head?, (c.isAlpha || c == '-') = false
  · obtain ⟨hbrace, c, hnext, hc⟩ := hback
    cases (readBoundaryKind_of_brace hs hbrace hnext hc).symm.trans h
    refine ⟨readBoundaryKind_of_brace hs ?_ ?_ hc, hs, List.suffix_rfl⟩
    · rw [Reading.respelled, head?_respell, hbrace]
    · rw [next_respelled (rest_respelled hbrace (by decide)), Reading.respelled, head?_respell]; exact hnext
  rw [readBoundaryKind] at h ⊢
  refine follows_rest_bind h fun h => ?_
  rw [Reading.respelled, head?_respell]
  refine follows_ite h (fun _ h => follows_pure h hs) (fun hbrace h => ?_)
  have hbrace := not_not.1 hbrace
  refine follows_bumpOn_bind h hs hbrace (by decide) fun _ h => follows_peek_bind h hs fun h => ?_
  generalize hnext : s.next.rest.head? = o at h ⊢
  split
  · cases h
  · rename_i c
    refine follows_ite h (fun hc _ => ?_) (fun _ h => follows_rest_bind h fun h => ?_)
    · exact absurd ⟨hbrace, c, hnext, by simpa using hc⟩ hback
    obtain ⟨word, s₁, htake, h⟩ := exists_of_bind h
    refine (takeWord_follows htake hs (Nat.le_refl _) (Nat.le_refl _)).bind fun hs => ?_
    refine follows_peek_bind h hs fun h => follows_ite h (fun _ h => by cases h) (fun hclose h => ?_)
    refine follows_bump_bind h hs (not_not.1 hclose) (by decide) fun h => ?_
    exact follows_ite h (fun _ h => follows_pure h hs) fun _ h =>
      follows_ite h (fun _ h => follows_pure h hs) fun _ h =>
        follows_ite h (fun _ h => follows_pure h hs) fun _ h =>
          follows_ite h (fun _ h => follows_pure h hs) fun _ h => by cases h

/-! ## Escapes -/

/-- The signs respelling looks at are escaped for themselves. -/
theorem readEscape_of_isMark {cs : List Char} (hrest : s.rest = '\\' :: c :: cs) (hc : isMark c = true) :
    readEscape s = some (.literal c false, { s with rest := cs }) := by
  simp only [isMark, Bool.or_eq_true, beq_iff_eq] at hc
  have hnext : s.next.rest = c :: cs := rest_next hrest
  rw [readEscape, bind_apply, bump_apply, Option.bind_some, bind_apply, peek_apply, Option.bind_some, hnext,
    List.head?_cons]
  obtain ((rfl | rfl) | rfl) | rfl := hc <;>
    simp [bind_apply, bump_apply, pure_apply, Reading.next, hrest, isEscapeable, isMeta]

/-- What follows the backslash is read alike when it starts with a sign respelling does not look at. -/
theorem readEscape_advances_of_bump {p : Primitive} (h : readEscape s = some (p, t))
    (hbump : Advances b bump s () b s.next) (hhead : s.next.rest.head? = some c) (hc : isMark c = false)
    (hp : p.Unmarked) : Advances b readEscape s p b t := by
  rw [readEscape] at h ⊢
  obtain ⟨_, s₁, hs₁, h⟩ := exists_of_bind h
  cases hs₁
  refine hbump.bind fun hs => follows_peek_bind h hs fun h => ?_
  rw [hhead] at h ⊢
  refine follows_ite h (fun _ h => by cases h) fun _ h => ?_
  refine follows_ite h (fun _ h => readCode_follows h hs hhead hc) fun _ h => ?_
  refine follows_ite h (fun _ h => readCode_follows h hs hhead hc) fun _ h => ?_
  refine follows_ite h (fun _ h => readCode_follows h hs hhead hc) fun _ h => ?_
  refine follows_ite h (fun _ h => readProperty_follows h hs hhead hc hp) fun _ h => ?_
  refine follows_ite h (fun _ h => readProperty_follows h hs hhead hc hp) fun _ h => ?_
  refine follows_bump_bind h hs hhead hc fun h => follows_ite h (fun _ h => follows_pure h hs) fun _ h => ?_
  split at h
  case h_15 =>
    obtain ⟨a, s₁, hkind, h⟩ := exists_of_bind h
    exact (readBoundaryKind_follows hkind hs).bind fun hs => follows_pure h hs
  case h_19 => cases h
  all_goals exact follows_pure h hs

/-- An escape is read alike, and what it takes is passed through. -/
theorem readEscape_advances {p : Primitive} (h : readEscape s = some (p, t)) (hs : s.verbose = false)
    (hhead : s.rest.head? = some '\\') (hp : p.Unmarked) : Advances b readEscape s p b t := by
  obtain ⟨cs, hrest⟩ := List.head?_eq_some_iff.1 hhead
  have hnext : s.next.rest = cs := rest_next hrest
  cases cs with
  | nil =>
    rw [readEscape, bind_apply, bump_apply, Option.bind_some, bind_apply, peek_apply, hnext] at h
    cases h
  | cons c cs =>
    have hrespelled : (s.respelled b).rest = '\\' :: c :: respell b cs := by
      rw [Reading.respelled, hrest, respell_escape]
    cases hc : isMark c with
    | true =>
      cases (readEscape_of_isMark hrest hc).symm.trans h
      exact ⟨⟨readEscape_of_isMark hrespelled hc, hs, ['\\', c], hrespelled.symm⟩, by
        rw [hrespelled, List.length_cons, List.length_cons]; exact Nat.lt_succ_of_lt (Nat.lt_succ_self _)⟩
    | false =>
      have hkept : (s.respelled b).rest = '\\' :: (s.next.respelled b).rest := by
        rw [hrespelled, Reading.respelled, hnext, respell_cons hc]
      exact readEscape_advances_of_bump h (advances_bump hkept hs) (by rw [hnext, List.head?_cons]) hc hp

end Read
end ProfileKit.Pattern

import ProfileKit.Proofs.Pattern.Escapes

/-!
# Groups and repetitions in a respelled text

The opener of a named group is read alike in both spellings. Names, flags and bounds hold none of the
signs respelling looks at, but for brackets in names.
-/

namespace ProfileKit.Pattern

namespace Read

variable {α β : Type} {s t u : Reading} {b b' : Bool} {c : Char}

/-! ## Bounds -/

theorem isMark_eq_false_of_isBlank (h : Text.isBlank c = true) : isMark c = false :=
  isMark_eq_false_of (by decide) h

theorem follows_setRest_bind {y : β} {f g : Read β} {p : Char → Bool} (hp : ∀ c, p c = true → isMark c = false)
    (h : (setRest (s.rest.dropWhile p) >>= fun _ => f) s = some (y, u)) (hs : s.verbose = false)
    (hg : f { s with rest := s.rest.dropWhile p } = some (y, u) →
      Follows b g { s with rest := s.rest.dropWhile p } y b' u) :
    Follows b (setRest ((s.respelled b).rest.dropWhile p) >>= fun _ => g) s y b' u := by
  have hdrop : (s.respelled b).rest.dropWhile p = respell b (s.rest.dropWhile p) := dropWhile_respell hp b s.rest
  have hskip : Follows b (setRest ((s.respelled b).rest.dropWhile p)) s () b
      { s with rest := s.rest.dropWhile p } :=
    ⟨by rw [setRest_apply, hdrop]; rfl, hs, by rw [← hdrop]; exact List.dropWhile_suffix p⟩
  exact hskip.bind fun _ => hg h

theorem takeCount_follows {fuel m : Nat} {ds : List Char} (h : readCount.takeCount fuel [] s = some (ds, t))
    (hs : s.verbose = false) (hfuel : s.rest.length ≤ fuel) (hm : (s.respelled b).rest.length ≤ m) :
    Follows b (readCount.takeCount m []) s ds b t :=
  takeWhile_follows (fun _ => rfl) (fun _ _ => rfl)
    (fun _ => isMark_eq_false_of (p := Char.isDigit) (by decide)) h hs hfuel hm

theorem readCount_follows {o : Option Nat} (h : readCount s = some (o, t)) (hs : s.verbose = false) :
    Follows b readCount s o b t := by
  rw [readCount] at h ⊢
  refine follows_rest_bind h fun h => follows_setRest_bind (fun _ => isMark_eq_false_of_isBlank) h hs fun h => ?_
  obtain ⟨ds, s₁, htake, h⟩ := exists_of_bind h
  have hm : (respell b (s.rest.dropWhile Text.isBlank)).length =
      ((s.respelled b).rest.dropWhile Text.isBlank).length := by
    rw [Reading.respelled, dropWhile_respell fun _ => isMark_eq_false_of_isBlank]
  refine (takeCount_follows htake hs (Nat.le_refl _) (Nat.le_of_eq hm)).bind fun hs => ?_
  refine follows_rest_bind h fun h => follows_setRest_bind (fun _ => isMark_eq_false_of_isBlank) h hs fun h => ?_
  exact follows_ite h (fun _ h => follows_pure h hs) fun _ h =>
    follows_ite h (fun _ h => follows_pure h hs) fun _ h => by cases h

theorem readLimits_follows {p : Nat × Option Nat} (h : readLimits s = some (p, t)) (hs : s.verbose = false) :
    Follows b readLimits s p b t := by
  rw [readLimits] at h ⊢
  obtain ⟨least, s₁, hcount, h⟩ := exists_of_bind h
  refine (readCount_follows hcount hs).bind fun hs => follows_peek_bind h hs fun h => ?_
  generalize hhead : s₁.rest.head? = o at h ⊢
  split
  · refine follows_bumpOn_bind h hs hhead (by decide) fun _ h => ?_
    cases least with
    | none => cases h
    | some n =>
      refine follows_peek_bind h hs fun h => follows_ite h (fun _ h => follows_pure h hs) fun _ h => ?_
      obtain ⟨greatest, s₂, hcount, h⟩ := exists_of_bind h
      refine (readCount_follows hcount hs).bind fun hs => ?_
      cases greatest with
      | none => cases h
      | some m => exact follows_pure h hs
  · rename_i hcomma
    split at h
    · exact absurd rfl hcomma
    · cases least with
      | none => cases h
      | some n => exact follows_pure h hs

theorem takeLazy_follows {lazy : Bool} (h : takeLazy s = some (lazy, t)) (hs : s.verbose = false) :
    Follows b takeLazy s lazy b t := by
  rw [takeLazy] at h ⊢
  refine follows_peek_bind h hs fun h => follows_ite h (fun hmark h => ?_) fun _ h => follows_pure h hs
  exact follows_bump_bind h hs (beq_iff_eq.1 hmark) (by decide) fun h => follows_pure h hs

theorem readBounds_advances {p : Nat × Option Nat × Bool} (h : readBounds s = some (p, t))
    (hs : s.verbose = false) (hhead : s.rest.head? = some '\x7b') : Advances b readBounds s p b t := by
  rw [readBounds] at h ⊢
  obtain ⟨_, s₁, hbump, h⟩ := exists_of_bind h
  obtain ⟨hmore, rfl⟩ := next_of_bumpOn hbump hs
  refine (advances_bumpOn (rest_respelled hhead (by decide)) hs hmore).bind fun hs => ?_
  obtain ⟨limits, s₂, hlimits, h⟩ := exists_of_bind h
  refine (readLimits_follows hlimits hs).bind fun hs => follows_peek_bind h hs fun h => ?_
  refine follows_ite h (fun _ h => by cases h) fun hbrace h => ?_
  refine follows_bump_bind h hs (not_not.1 hbrace) (by decide) fun h => ?_
  refine follows_skipSpace_bind h hs fun h => ?_
  obtain ⟨lazy, s₃, hlazy, h⟩ := exists_of_bind h
  refine (takeLazy_follows hlazy hs).bind fun hs => ?_
  exact follows_ite h (fun _ h => by cases h) fun _ h => follows_pure h hs

/-! ## Flags -/

theorem isMark_eq_false_of_flag? {f : Flag} (h : flag? c = some f) : isMark c = false :=
  isMark_eq_false_of (p := fun c => (flag? c).isSome) (by decide) (by simp [h])

theorem readFlags_follows {fuel m : Nat} {acc items : List FlagItem} (h : readFlags fuel acc s = some (items, t))
    (hs : s.verbose = false) (hm : (s.respelled b).rest.length < m) :
    Follows b (readFlags m acc) s items b t := by
  induction fuel generalizing s acc m with
  | zero => cases h
  | succ fuel ih =>
    obtain ⟨m, rfl⟩ : ∃ n, m = n + 1 := ⟨m - 1, by omega⟩
    rw [readFlags] at h ⊢
    refine follows_peek_bind h hs fun h => ?_
    generalize hhead : s.rest.head? = o at h ⊢
    cases o with
    | none => cases h
    | some c =>
      refine follows_ite h (fun _ h => ?_) fun _ h => ?_
      · exact follows_ite h (fun _ h => by cases h) fun _ h => follows_pure h hs
      · have hread (item : FlagItem) (hc : isMark c = false)
            (h : (if acc.contains item then failure else bump >>= fun _ => readFlags fuel (item :: acc) :
              Read (List FlagItem)) s = some (items, t)) :
            Follows b (if acc.contains item then failure else bump >>= fun _ => readFlags m (item :: acc)) s
              items b t := by
          refine follows_ite h (fun _ h => by cases h) fun _ h => ?_
          refine follows_bump_bind h hs hhead hc fun h => ih h hs ?_
          rw [rest_respelled hhead hc, List.length_cons] at hm
          omega
        refine follows_ite h (fun hdash h => ?_) fun _ h => ?_
        · exact hread .negation (by rw [hdash]; decide) h
        · cases hflag : flag? c with
          | none => rw [hflag] at h; cases h
          | some f =>
            rw [hflag] at h
            exact hread (.flag f) (isMark_eq_false_of_flag? hflag) h

/-- Flags end at a colon or a closing parenthesis. -/
theorem head_of_readFlags {fuel : Nat} {acc items : List FlagItem}
    (h : readFlags fuel acc s = some (items, t)) : ∃ c, t.rest.head? = some c ∧ isMark c = false := by
  induction fuel generalizing s acc with
  | zero => cases h
  | succ fuel ih =>
    rw [readFlags, bind_apply, peek_apply, Option.bind_some] at h
    dsimp only at h
    generalize hhead : s.rest.head? = o at h
    cases o with
    | none => cases h
    | some c =>
      dsimp only at h
      split at h
      · rename_i hend
        split at h
        · cases h
        · cases h
          refine ⟨c, hhead, ?_⟩
          rcases Bool.or_eq_true_iff.1 hend with hend | hend <;> rw [of_decide_eq_true hend] <;> decide
      · have hread (item : FlagItem)
            (h : (if acc.contains item then failure else bump >>= fun _ => readFlags fuel (item :: acc) :
              Read (List FlagItem)) s = some (items, t)) :
            ∃ c, t.rest.head? = some c ∧ isMark c = false := by
          split at h
          · cases h
          · obtain ⟨_, s₁, -, h⟩ := exists_of_bind h
            exact ih h
        split at h
        · exact hread .negation h
        · cases hflag : flag? c with
          | none => rw [hflag] at h; cases h
          | some f => rw [hflag] at h; exact hread (.flag f) h

/-! ## Names -/

theorem readName_of_text {name cs : List Char} (hend : '>' ∉ name) (hrest : s.rest = name ++ '>' :: cs)
    (hname : isName name = true) (hnew : s.names.contains (String.ofList name) = false) :
    readName s =
      some (String.ofList name, { s with rest := cs, names := String.ofList name :: s.names }) := by
  have htake : s.rest.takeWhile (· ≠ '>') = name := by
    rw [hrest, List.takeWhile_append_of_pos (by simpa using fun c hc (h : c = '>') => hend (h ▸ hc)),
      List.takeWhile_cons_of_neg (by decide), List.append_nil]
  have hlength : ¬ s.rest.length = name.length := by rw [hrest, List.length_append, List.length_cons]; omega
  have hdrop : s.rest.drop (name.length + 1) = cs := by
    rw [hrest, ← List.drop_drop, List.drop_left]; rfl
  rw [readName, bind_apply, rest_apply, Option.bind_some]
  dsimp only
  rw [htake, hdrop, decide_eq_false hlength, hname, if_neg (by decide), bind_apply, setRest_apply,
    Option.bind_some, bind_apply]
  change (if s.names.contains (String.ofList name) = true then _ else _ : Read String) { s with rest := cs } = _
  rw [hnew, if_neg (by decide)]
  rfl

/-- The name of a group, and what follows its closing bracket. -/
theorem readName_some {name : String} (h : readName s = some (name, t)) :
    ∃ w cs, name = String.ofList w ∧ '>' ∉ w ∧ s.rest = w ++ '>' :: cs ∧ isName w = true ∧
      s.names.contains name = false ∧ t = { s with rest := cs, names := name :: s.names } := by
  rw [readName, bind_apply, rest_apply, Option.bind_some] at h
  dsimp only at h
  split at h
  · cases h
  · rename_i hvalid
    obtain ⟨_, s₁, hset, h⟩ := exists_of_bind h
    cases hset
    obtain ⟨s₁, s₂, hget, h⟩ := exists_of_bind h
    cases hget
    split at h
    · cases h
    · rename_i hnew
      obtain ⟨_, s₃, hset, h⟩ := exists_of_bind h
      cases hset
      cases h
      simp only [Bool.or_eq_true, Bool.not_eq_true', decide_eq_true_eq, not_or, Bool.not_eq_false] at hvalid
      have hrest := List.takeWhile_append_dropWhile (p := fun c => decide (c ≠ '>')) (l := s.rest)
      have hfirst := List.head?_dropWhile_not (fun c => decide (c ≠ '>')) s.rest
      obtain ⟨c, cs, hdrop⟩ : ∃ c cs, s.rest.dropWhile (fun c => decide (c ≠ '>')) = c :: cs := by
        refine List.exists_cons_of_ne_nil fun hnil => hvalid.2 ?_
        rw [hnil, List.append_nil] at hrest
        rw [hrest]
      rw [hdrop, List.head?_cons] at hfirst
      obtain rfl : c = '>' := by simpa using hfirst
      rw [hdrop] at hrest
      refine ⟨_, cs, rfl, ?_, hrest.symm, hvalid.1, by simpa using hnew, ?_⟩
      · exact fun hmem => by simpa using List.all_eq_true.1 List.all_takeWhile _ hmem
      · have hcs : s.rest.drop ((s.rest.takeWhile fun c => decide (c ≠ '>')).length + 1) = cs := by
          conv_lhs => arg 2; rw [← hrest]
          rw [← List.drop_drop, List.drop_left]; rfl
        rw [hcs]

theorem readName_follows {name : String} (h : readName s = some (name, t)) (hs : s.verbose = false)
    (hname : Unmarked name.toList) : Follows b readName s name b t := by
  obtain ⟨w, cs, rfl, hend, hrest, hvalid, hnew, rfl⟩ := readName_some h
  rw [String.toList_ofList] at hname
  have hend' : isMark '>' = false := by decide
  have hrest' : (s.respelled b).rest = w ++ '>' :: respell b cs := by
    rw [Reading.respelled, hrest, respell_append hname, respell_cons hend']
  exact ⟨readName_of_text hend hrest' hvalid hnew, hs, ⟨w ++ ['>'], by rw [List.append_assoc]; exact hrest'.symm⟩⟩

/-! ## Openings -/

theorem takeIf_apply (text : List Char) (s : Reading) :
    takeIf text s =
      if text.isPrefixOf s.rest then some (true, { s with rest := s.rest.drop text.length })
      else some (false, s) := by
  rw [takeIf, bind_apply, rest_apply, Option.bind_some]
  dsimp only
  split <;> rfl

theorem takeIf_follows {text : List Char} (htext : Unmarked text) {taken : Bool}
    (h : takeIf text s = some (taken, t)) (hs : s.verbose = false) : Follows b (takeIf text) s taken b t := by
  have hrun := takeIf_apply text (s.respelled b)
  rw [Reading.respelled, isPrefixOf_respell htext] at hrun
  rw [takeIf_apply] at h
  by_cases hnext : text.isPrefixOf s.rest = true
  · rw [if_pos hnext] at h hrun
    cases h
    obtain ⟨cs, hrest⟩ := List.isPrefixOf_iff_prefix.1 hnext
    have hdrop : (respell b s.rest).drop text.length = respell b (s.rest.drop text.length) := by
      rw [← hrest, respell_append htext, List.drop_left, List.drop_left]
    rw [hdrop] at hrun
    exact ⟨hrun, hs, by rw [← hdrop]; exact List.drop_suffix _ _⟩
  · rw [if_neg hnext] at h hrun
    cases h
    exact ⟨hrun, hs, List.suffix_rfl⟩

theorem takeAny_follows {texts : List (List Char)} (htexts : ∀ text ∈ texts, Unmarked text) {taken : Bool}
    (h : takeAny texts s = some (taken, t)) (hs : s.verbose = false) : Follows b (takeAny texts) s taken b t := by
  induction texts generalizing s with
  | nil => exact follows_pure h hs
  | cons text texts ih =>
    obtain ⟨htext, htexts⟩ := List.forall_mem_cons.1 htexts
    rw [takeAny] at h ⊢
    obtain ⟨taken', s₁, htake, h⟩ := exists_of_bind h
    exact (takeIf_follows htext htake hs).bind fun hs =>
      follows_ite h (fun _ h => follows_pure h hs) fun _ h => ih htexts h hs

theorem nextGroup_follows {index : Nat} (h : nextGroup s = some (index, t)) (hs : s.verbose = false) :
    Follows b nextGroup s index b t := by
  cases h
  exact ⟨rfl, hs, List.suffix_rfl⟩

/-- An opening that leaves verbose mode off, and whose name, if there is one, respelling passes through. -/
def Opening.isPlain : Opening → Bool
  | .group (.capture _ (some name)) => decide (Unmarked name.toList)
  | .group (.capture _ none) => true
  | .group (.plain items) | .flags items => !items.contains (.flag .verbose)

/-- Reads the number and the name of a named group. -/
def readNamed : Read Opening := do
  let index ← nextGroup
  let name ← readName
  return .group (.capture index (some name))

theorem readNamed_follows {o : Opening} (h : readNamed s = some (o, t)) (hs : s.verbose = false)
    (ho : o.isPlain = true) : Follows b readNamed s o b t := by
  rw [readNamed] at h ⊢
  obtain ⟨index, s₁, hindex, h⟩ := exists_of_bind h
  refine (nextGroup_follows hindex hs).bind fun hs => ?_
  obtain ⟨name, s₂, hname, h⟩ := exists_of_bind h
  have hplain : Unmarked name.toList := by
    cases h
    exact of_decide_eq_true ho
  exact (readName_follows hname hs hplain).bind fun hs => follows_pure h hs

/-- No look-around starts with the name of a group. -/
theorem head_of_readNamed {o : Opening} (h : readNamed s = some (o, t)) :
    ∃ c, s.rest.head? = some c ∧ c ≠ '=' ∧ c ≠ '!' := by
  obtain ⟨index, s₁, hindex, h⟩ := exists_of_bind h
  obtain ⟨name, s₂, hname, -⟩ := exists_of_bind h
  cases hindex
  obtain ⟨w, cs, -, -, hrest, hvalid, -⟩ := readName_some hname
  cases w with
  | nil => cases hvalid
  | cons c more =>
    rw [isName, Bool.and_eq_true] at hvalid
    refine ⟨c, by rw [hrest]; rfl, ?_, ?_⟩
    · rintro rfl; exact absurd hvalid.1 (by decide)
    · rintro rfl; exact absurd hvalid.1 (by decide)

theorem switch?_eq_none {f : Flag} {items : List FlagItem} (h : items.contains (.flag f) = false) :
    switch? f items = none := by
  have hon : ¬ (items.takeWhile (· ≠ .negation)).contains (.flag f) = true := fun hmem =>
    absurd (List.contains_iff_mem.2 ((List.takeWhile_sublist _).subset (List.contains_iff_mem.1 hmem)))
      (by rw [h]; decide)
  rw [switch?, if_neg hon, h, if_neg (by decide)]

theorem readOpening_follows {o : Opening} (h : readOpening s = some (o, t)) (hs : s.verbose = false)
    (ho : o.isPlain = true) : Follows b readOpening s o b t := by
  rw [readOpening] at h ⊢
  obtain ⟨_, s₁, hget, h⟩ := exists_of_bind h
  cases hget
  have hget : Follows b (get : Read Reading) s (s.respelled b) b s := ⟨rfl, hs, List.suffix_rfl⟩
  refine hget.bind fun _ => ?_
  obtain ⟨lookAround, s₁, htake, h⟩ := exists_of_bind h
  refine (takeAny_follows (by decide) htake hs).bind fun hs => follows_ite h (fun _ h => by cases h) fun _ h => ?_
  obtain ⟨named, s₂, htake, h⟩ := exists_of_bind h
  refine (takeAny_follows (by decide) htake hs).bind fun hs => follows_ite h (fun _ h => ?_) fun _ h => ?_
  · exact readNamed_follows h hs ho
  obtain ⟨flags, s₃, htake, h⟩ := exists_of_bind h
  refine (takeIf_follows (by decide) htake hs).bind fun hs => follows_ite h (fun _ h => ?_) fun _ h => ?_
  · refine follows_rest_bind h fun h => ?_
    obtain ⟨items, s₄, hitems, h⟩ := exists_of_bind h
    refine (readFlags_follows hitems hs (Nat.lt_succ_self _)).bind fun hs => follows_peek_bind h hs fun h => ?_
    refine follows_ite h (fun _ h => by cases h) fun _ h => ?_
    obtain ⟨c, hhead, hc⟩ := head_of_readFlags hitems
    refine follows_bump_bind h hs hhead hc fun h => ?_
    cases h
    have hverbose : items.contains (.flag .verbose) = false := by
      split at ho <;> simpa [Opening.isPlain] using ho
    refine ⟨rfl, ?_, List.suffix_rfl⟩
    rw [switch?_eq_none hverbose]
    exact hget.verbose
  · obtain ⟨index, s₄, hindex, h⟩ := exists_of_bind h
    exact (nextGroup_follows hindex hs).bind fun hs => follows_pure h hs

theorem readOpening_of_named (hlook : takeAny lookAround s = some (false, s))
    (hnamed : takeAny namedOpenings s = some (true, u)) : readOpening s = readNamed u := by
  rw [readOpening, bind_apply]
  change (takeAny lookAround >>= _) s = _
  rw [bind_apply, hlook, Option.bind_some]
  change (takeAny namedOpenings >>= _) s = _
  rw [bind_apply, hnamed, Option.bind_some]
  rfl

/-- The opener of a named group is read alike in both spellings. -/
theorem readOpening_of_opener {o : Opening} {cs : List Char} (h : readOpening s = some (o, t))
    (hs : s.verbose = false) (ho : o.isPlain = true) (hrest : s.rest = '?' :: 'P' :: '<' :: cs) :
    readOpening { s with rest := '?' :: '<' :: respell false cs } = some (o, t.respelled false) ∧
      t.verbose = false ∧ respell false t.rest <:+ respell false cs := by
  have hlook : takeAny lookAround s = some (false, s) := by
    simp [lookAround, takeAny, bind_apply, takeIf_apply, hrest, pure_apply]
  have hnamed : takeAny namedOpenings s = some (true, { s with rest := cs }) := by
    simp [namedOpenings, takeAny, bind_apply, takeIf_apply, hrest, pure_apply]
  rw [readOpening_of_named hlook hnamed] at h
  have hnamed := readNamed_follows (b := false) h hs ho
  obtain ⟨c, hhead, heq, hbang⟩ := head_of_readNamed h
  obtain ⟨more, hmore⟩ : ∃ more, respell false cs = c :: more := by
    rw [← List.head?_eq_some_iff, head?_respell]; exact hhead
  refine ⟨?_, hnamed.verbose, hnamed.suffix⟩
  rw [readOpening_of_named (u := Reading.respelled false { s with rest := cs })]
  · exact hnamed.run
  · simp [lookAround, takeAny, bind_apply, takeIf_apply, hmore, pure_apply, heq.symm, hbang.symm]
  · simp [namedOpenings, takeAny, bind_apply, takeIf_apply, pure_apply, Reading.respelled]

end Read

end ProfileKit.Pattern

import Mathlib.Data.List.Nodup
import Mathlib.Data.Nat.Find
import ProfileKit.Proofs.Id

/-!
# Ids that are made up

The id for a name is valid (`Id.isValid_derive`), and it is its own id (`Id.derive_derive`): what `Id.squash` gives
it leaves as it is, whatever came before (`Id.squash_squash`). An id that is taken is numbered. Among as many numbers
as there are taken ids, and one more, one is free (`Id.exists_free`), so the search comes to the least one that is
(`Id.unique_of_mem`), and a number does not make an id invalid (`Id.isValid_numbered`).
-/

namespace ProfileKit.Id

variable {c : Char} {cs ds : List Char} {started started' pending : Bool}

/-! ## Characters that are kept -/

theorem roleOf_eq_kept_iff : roleOf c = .kept ↔ (c.isAlphanum || c == '-') = true := by
  unfold roleOf
  split
  · rename_i h
    exact ⟨fun _ => h, fun _ => rfl⟩
  · rename_i h
    split <;> exact ⟨nofun, fun hc => absurd hc h⟩

theorem isPart_of_kept (h : roleOf c = .kept) : isPart c = true := by
  rw [roleOf_eq_kept_iff, Bool.or_eq_true] at h
  rcases h with h | h <;> simp [isPart, isStart, h]

/-- What holds of the kept characters, which are of ASCII. -/
theorem forall_kept {P : Char → Prop} (h : ∀ n < 0x80, roleOf (Char.ofNat n) = .kept → P (Char.ofNat n))
    (hc : roleOf c = .kept) : P c := by
  have hlt : c.toNat < 0x80 := (toNat_of_isPart (isPart_of_kept hc)).2
  rw [← Char.ofNat_toNat c] at hc ⊢
  exact h c.toNat hlt hc

theorem roleOf_toLower (h : roleOf c = .kept) : roleOf c.toLower = .kept :=
  forall_kept (P := fun c => roleOf c.toLower = .kept) (by decide +kernel) h

theorem toLower_toLower (h : roleOf c = .kept) : c.toLower.toLower = c.toLower :=
  forall_kept (P := fun c => c.toLower.toLower = c.toLower) (by decide +kernel) h

/-- Of the kept characters only the dash may not start an id. -/
theorem isStart_of_kept (h : roleOf c = .kept) (hdash : c ≠ '-') : isStart c = true := by
  rw [roleOf_eq_kept_iff, Bool.or_eq_true, beq_iff_eq] at h
  rw [isStart, h.resolve_right hdash, Bool.true_or]

/-! ## Names -/

theorem squash_kept (h : roleOf c = .kept) :
    squash started pending (c :: cs) =
      (if pending && started then ['_'] else []) ++ c.toLower :: squash true false cs := by
  simp only [squash, h]
  split <;> rfl

theorem squash_separator (h : roleOf c = .separator) :
    squash started pending (c :: cs) = squash started true cs := by
  simp only [squash, h]

theorem squash_mark (h : roleOf c = .mark) : squash started pending (c :: cs) = squash started pending cs := by
  simp only [squash, h]

theorem mem_squash (h : c ∈ squash started pending cs) : roleOf c = .kept ∨ c = '_' := by
  induction cs generalizing started pending with
  | nil => cases h
  | cons d cs ih =>
    cases hrole : roleOf d with
    | kept =>
      rw [squash_kept hrole, List.mem_append, List.mem_cons] at h
      rcases h with h | rfl | h
      · split at h
        · exact .inr (List.mem_singleton.1 h)
        · cases h
      · exact .inl (roleOf_toLower hrole)
      · exact ih h
    | separator =>
      rw [squash_separator hrole] at h
      exact ih h
    | mark =>
      rw [squash_mark hrole] at h
      exact ih h

/-- No separator is put before the first character. -/
theorem roleOf_head_squash (h : (squash false pending cs).head? = some c) : roleOf c = .kept := by
  induction cs generalizing pending with
  | nil => cases h
  | cons d cs ih =>
    cases hrole : roleOf d with
    | kept =>
      rw [squash_kept hrole, Bool.and_false, if_neg (by decide), List.nil_append] at h
      obtain rfl := Option.some.inj h
      exact roleOf_toLower hrole
    | separator =>
      rw [squash_separator hrole] at h
      exact ih h
    | mark =>
      rw [squash_mark hrole] at h
      exact ih h

/-- What was squashed stays as it is, also behind other characters. -/
theorem squash_squash (hstarted : started' = true → started = true) :
    squash started false (squash started' pending cs) = squash started' pending cs := by
  induction cs generalizing started started' pending with
  | nil => rfl
  | cons c cs ih =>
    cases hrole : roleOf c with
    | kept =>
      have hrest : squash true false (squash true false cs) = squash true false cs := ih id
      have hlower := roleOf_toLower hrole
      rw [squash_kept hrole]
      split
      · -- The underscore separates again, so it is put before the character that follows it again.
        rename_i hpending
        rw [hstarted (Bool.and_eq_true_iff.1 hpending).2, List.singleton_append, squash_separator (by decide),
          squash_kept hlower, toLower_toLower hrole, hrest]
        rfl
      · rw [List.nil_append, squash_kept hlower, toLower_toLower hrole, hrest]
        rfl
    | separator =>
      rw [squash_separator hrole]
      exact ih hstarted
    | mark =>
      rw [squash_mark hrole]
      exact ih hstarted

theorem hasDots_of_not_mem (h : '.' ∉ cs) : hasDots cs = false := by
  induction cs with
  | nil => rfl
  | cons c cs ih =>
    rw [List.mem_cons, not_or] at h
    rw [hasDots]
    · exact ih h.2
    · rintro _ rfl
      exact absurd rfl h.1

/-- Either the characters were an id already, or a stem was put before them. -/
theorem withStem_cases (cs : List Char) :
    (∃ c rest, cs = c :: rest ∧ c ≠ '-' ∧ withStem cs = cs) ∨ withStem cs = "profile".toList ++ cs := by
  unfold withStem
  cases cs with
  | nil => exact .inr rfl
  | cons c rest =>
    by_cases hc : c = '-'
    · exact .inr (by simp [hc])
    · exact .inl ⟨c, rest, rfl, hc, by simp [hc]⟩

theorem isValidChars_cons (hc : isStart c = true) (hcs : ∀ d ∈ cs, roleOf d = .kept ∨ d = '_') :
    isValidChars (c :: cs) = true := by
  have hpart : ∀ d ∈ cs, isPart d = true := fun d hd => by
    rcases hcs d hd with h | rfl
    · exact isPart_of_kept h
    · decide
  have hpoint : '.' ∉ c :: cs := fun hmem => by
    rcases List.mem_cons.1 hmem with rfl | hmem
    · exact absurd hc (by decide)
    · exact absurd (hcs _ hmem) (by decide)
  simp only [isValidChars, hc, hasDots_of_not_mem hpoint, List.all_eq_true.2 hpart, Bool.not_false, Bool.and_self]

/-- The id for a name is valid, whatever the name is. -/
theorem isValid_derive (name : String) : isValid (derive name) = true := by
  rw [isValid, derive, String.toList_ofList]
  generalize hcs : squash false false (Unicode.decompose name.toList) = cs
  have hmem : ∀ d ∈ cs, roleOf d = .kept ∨ d = '_' := fun d hd => mem_squash (hcs ▸ hd)
  obtain ⟨c, rest, rfl, hdash, hstem⟩ | hstem := withStem_cases cs
  · rw [hstem]
    have hhead : roleOf c = .kept := roleOf_head_squash (by rw [hcs]; rfl)
    exact isValidChars_cons (isStart_of_kept hhead hdash) fun d hd => hmem d (List.mem_cons_of_mem _ hd)
  · have hprofile : "profile".toList ++ cs = 'p' :: ("rofile".toList ++ cs) := rfl
    rw [hstem, hprofile]
    refine isValidChars_cons (by decide) fun d hd => ?_
    have hkept : "rofile".toList.all (fun d => d.isAlphanum || d == '-') = true := by decide
    rcases List.mem_append.1 hd with hd | hd
    · exact .inl (roleOf_eq_kept_iff.2 (List.all_eq_true.1 hkept d hd))
    · exact hmem d hd

/-- An id that was derived is its own id. -/
theorem derive_derive (name : String) : derive (derive name) = derive name := by
  have hascii : Unicode.decompose (derive name).toList = (derive name).toList :=
    Unicode.decompose_ascii _ fun c hc => (toNat_of_isPart (isPart_of_isValid (isValid_derive name) c hc)).2
  rw [derive, hascii]
  rw [derive, String.toList_ofList]
  generalize hcs : squash false false (Unicode.decompose name.toList) = cs
  have hagain (started : Bool) : squash started false cs = cs := by
    rw [← hcs]
    exact squash_squash nofun
  obtain ⟨c, rest, -, -, hstem⟩ | hstem := withStem_cases cs
  · rw [hstem, hagain false, hstem]
  · have hprofile : squash false false ("profile".toList ++ cs) = "profile".toList ++ squash true false cs := rfl
    rw [hstem, hprofile, hagain true]
    rfl

/-! ## Numbers -/

theorem toList_numbered (base : String) (n : Nat) :
    (numbered base n).toList = base.toList ++ '_' :: Nat.toDigits 10 n := by
  simp [numbered]

theorem numbered_inj {base : String} {m n : Nat} : numbered base m = numbered base n ↔ m = n := by
  refine ⟨fun h => ?_, fun h => by rw [h]⟩
  have hchars := congrArg String.toList h
  rw [toList_numbered, toList_numbered, List.append_cancel_left_eq, List.cons_inj_right] at hchars
  rw [← Nat.ofDigitChars_ten_toDigits (n := m), hchars, Nat.ofDigitChars_ten_toDigits]

theorem hasDots_append (hcs : hasDots cs = false) (hds : '.' ∉ ds) : hasDots (cs ++ '_' :: ds) = false := by
  fun_induction hasDots cs with
  | case1 => cases hcs
  | case2 c cs hno ih =>
    rw [List.cons_append, hasDots]
    · exact ih hcs
    · intro rest hc
      cases cs with
      | nil => simp
      | cons d cs =>
        rintro ⟨⟩
        exact hno cs hc rfl
  | case3 => exact hasDots_of_not_mem (by simpa using hds)

/-- A number does not make an id invalid. -/
theorem isValid_numbered {base : String} (h : isValid base = true) (n : Nat) : isValid (numbered base n) = true := by
  have hdigit : ∀ d ∈ Nat.toDigits 10 n, d.isDigit = true := fun d hd =>
    Nat.isDigit_of_mem_toDigits (by decide) (by decide) hd
  have hpart : ∀ d ∈ Nat.toDigits 10 n, isPart d = true := fun d hd => by
    simp [isPart, isStart, Char.isAlphanum, hdigit d hd]
  have hpoint : '.' ∉ Nat.toDigits 10 n := fun hmem => absurd (hdigit _ hmem) (by decide)
  have hunderscore : isPart '_' = true := by decide
  rw [isValid] at h ⊢
  rw [toList_numbered]
  cases hbase : base.toList with
  | nil =>
    rw [hbase] at h
    cases h
  | cons c cs =>
    rw [hbase] at h
    simp only [isValidChars, Bool.and_eq_true, Bool.not_eq_true', List.all_eq_true] at h
    obtain ⟨⟨hc, hcs⟩, hdots⟩ := h
    have hdots := hasDots_append hdots hpoint
    rw [List.cons_append] at hdots ⊢
    simp only [isValidChars, Bool.and_eq_true, Bool.not_eq_true', List.all_eq_true]
    refine ⟨⟨hc, fun d hd => ?_⟩, hdots⟩
    rcases List.mem_append.1 hd with hd | hd
    · exact hcs d hd
    · rcases List.mem_cons.1 hd with rfl | hd
      · exact hunderscore
      · exact hpart d hd

/-! ## The least free number -/

/-- The least number from 2 on with which an id is free. -/
structure IsLeastFree (base : String) (taken : List String) (n : Nat) : Prop where
  two_le : 2 ≤ n
  free : numbered base n ∉ taken
  least {m : Nat} (hm : 2 ≤ m) (hfree : numbered base m ∉ taken) : n ≤ m

/-- Not all numbers are taken, since there are more of them than of taken ids. -/
theorem exists_free (base : String) (taken : List String) :
    ∃ n, 2 ≤ n ∧ n ≤ 2 + taken.length ∧ numbered base n ∉ taken := by
  by_contra hno
  push Not at hno
  have hnodup : ((List.range' 2 (taken.length + 1)).map (numbered base)).Nodup :=
    List.Nodup.map (fun _ _ => numbered_inj.1) List.nodup_range'
  have hsubset : (List.range' 2 (taken.length + 1)).map (numbered base) ⊆ taken := by
    intro id hid
    obtain ⟨n, hn, rfl⟩ := List.mem_map.1 hid
    rw [List.mem_range'_1] at hn
    exact hno n hn.1 (by omega)
  have hlength := hnodup.length_le_of_subset hsubset
  rw [List.length_map, List.length_range'] at hlength
  omega

/-- The search comes to the first free number, if it may try so many. -/
theorem firstFree_eq {base : String} {taken : List String} {tries m n : Nat} (hnm : n ≤ m) (htries : m ≤ n + tries)
    (hfree : numbered base m ∉ taken) (hbefore : ∀ j, n ≤ j → j < m → numbered base j ∈ taken) :
    firstFree base taken tries n = numbered base m := by
  induction tries generalizing n with
  | zero =>
    obtain rfl : m = n := by omega
    rfl
  | succ tries ih =>
    rw [firstFree]
    obtain rfl | hlt := Nat.eq_or_lt_of_le hnm
    · rw [if_neg (by simpa using hfree)]
    · rw [if_pos (by simpa using hbefore n le_rfl hlt)]
      exact ih hlt (by omega) fun j hj => hbefore j (by omega)

theorem unique_of_not_mem {base : String} {taken : List String} (h : base ∉ taken) : unique base taken = base := by
  rw [unique, if_neg (by simpa using h)]

/-- An id that is taken gets the least free number. -/
theorem unique_of_mem {base : String} {taken : List String} (h : base ∈ taken) :
    ∃ n, IsLeastFree base taken n ∧ unique base taken = numbered base n := by
  classical
  have hsome : ∃ n, 2 ≤ n ∧ numbered base n ∉ taken := by
    obtain ⟨n, hn, -, hfree⟩ := exists_free base taken
    exact ⟨n, hn, hfree⟩
  obtain ⟨htwo, hfree⟩ := Nat.find_spec hsome
  have hleast {m : Nat} (hm : 2 ≤ m) (hmfree : numbered base m ∉ taken) : Nat.find hsome ≤ m :=
    Nat.find_min' hsome ⟨hm, hmfree⟩
  refine ⟨Nat.find hsome, ⟨htwo, hfree, hleast⟩, ?_⟩
  rw [unique, if_pos (by simpa using h)]
  refine firstFree_eq htwo ?_ hfree fun j hj hlt => ?_
  · obtain ⟨n, hn, hle, hnfree⟩ := exists_free base taken
    exact (hleast hn hnfree).trans hle
  · by_contra hjfree
    exact absurd (hleast hj hjfree) (by omega)

theorem unique_not_mem (base : String) (taken : List String) : unique base taken ∉ taken := by
  by_cases h : base ∈ taken
  · obtain ⟨n, hn, heq⟩ := unique_of_mem h
    exact heq ▸ hn.free
  · rwa [unique_of_not_mem h]

theorem isValid_unique {base : String} (h : isValid base = true) (taken : List String) :
    isValid (unique base taken) = true := by
  by_cases hmem : base ∈ taken
  · obtain ⟨n, -, heq⟩ := unique_of_mem hmem
    exact heq ▸ isValid_numbered h n
  · rwa [unique_of_not_mem hmem]

end ProfileKit.Id

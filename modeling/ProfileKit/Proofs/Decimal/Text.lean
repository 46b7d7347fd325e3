import ProfileKit.Decimal.Text
import ProfileKit.Proofs.Decimal.Shortest

/-!
# Decimal text reads back

What is written for a number is read as this number (`ofText?_render`): of the digits only the decimal
that they stand for counts, and the decimal lies in the rounding interval of the number. Text of either
layout, positional or with an exponent, stands for the digits and the power of ten that it was written from.
-/

namespace ProfileKit.Binary64

variable {x : Binary64}

/-! ## Digits -/

theorem digitsValue_eq (acc : Nat) (ds : List Char) : digitsValue acc ds = Nat.ofDigitChars 10 ds acc := by
  simp only [digitsValue, Nat.ofDigitChars_eq_foldl, mul_comm]

theorem digitsValue_toDigits (n : Nat) : digitsValue 0 (Nat.toDigits 10 n) = n := by
  rw [digitsValue_eq, Nat.ofDigitChars_ten_toDigits]

theorem digitsValue_append (acc : Nat) (ds es : List Char) :
    digitsValue acc (ds ++ es) = digitsValue (digitsValue acc ds) es := by
  simp only [digitsValue, List.foldl_append]

theorem digitsValue_zeros (acc n : Nat) : digitsValue acc (zeros n) = acc * 10 ^ n := by
  rw [digitsValue_eq, zeros, Nat.ofDigitChars_replicate_zero, mul_comm]

theorem isDigit_toDigits (n : Nat) : ∀ c ∈ Nat.toDigits 10 n, c.isDigit = true := fun _ hc =>
  Nat.isDigit_of_mem_toDigits (by decide) (by decide) hc

theorem isDigit_zeros (n : Nat) : ∀ c ∈ zeros n, c.isDigit = true := fun c hc => by
  rw [List.eq_of_mem_replicate hc]
  decide

/-- A number has as many digits as powers of ten lie below it. -/
theorem bounds_toDigits {n : Nat} (hn : n ≠ 0) :
    10 ^ ((Nat.toDigits 10 n).length - 1) ≤ n ∧ n < 10 ^ (Nat.toDigits 10 n).length := by
  have hpos : 0 < (Nat.toDigits 10 n).length := Nat.length_toDigits_pos
  refine ⟨?_, (Nat.length_toDigits_le_iff (by decide) hpos).1 le_rfl⟩
  by_cases h1 : (Nat.toDigits 10 n).length = 1
  · rw [h1]
    exact Nat.pos_of_ne_zero hn
  · by_contra hlt
    have := (Nat.length_toDigits_le_iff (by decide : 1 < 10) (by omega)).2 (not_le.1 hlt)
    omega

/-! ## Decimals -/

/-- A number that is not zero lies between the powers of ten beyond which nothing is computed. -/
theorem Rounds.bounds_ten {v : ℚ} (h : x.Rounds v) (hx : x.Canonical) (hm : x.mantissa ≠ 0) :
    (10 : ℚ) ^ (-401 : Int) ≤ v ∧ v < 10 ^ (400 : Int) := by
  have hm1 : (1 : ℚ) ≤ x.mantissa := by exact_mod_cast Nat.pos_of_ne_zero hm
  have hleast := hx.least
  have hgreatest := hx.greatest
  simp only [minExponent, maxExponent] at hleast hgreatest
  constructor
  · calc (10 : ℚ) ^ (-401 : Int)
      _ ≤ 2 ^ (-1 + x.exponent) := by
        refine le_trans (ten_zpow_le_two_zpow (l := -1075) (by decide)) ?_
        exact zpow_le_zpow_right₀ one_le_two (by omega)
      _ = (1 - 1 / 2) * 2 ^ x.exponent := by
        rw [zpow_add₀ two_ne_zero]
        norm_num
      _ ≤ (x.mantissa - 1 / 2) * 2 ^ x.exponent :=
        mul_le_mul_of_nonneg_right (by linarith) (by positivity)
      _ ≤ v := h.half_le
  · calc v
      _ < 2 ^ (53 + x.exponent) := h.lt_two_pow hx
      _ ≤ 2 ^ ((64 : Int) * 16) := zpow_le_zpow_right₀ one_le_two (by omega)
      _ ≤ 10 ^ ((25 : Int) * 16) := by
        rw [zpow_mul, zpow_mul]
        exact zpow_le_zpow_left₀ (by decide) (by positivity) (by norm_num)

theorem ofDecimal_zero (negative : Bool) (e : Int) :
    ofDecimal negative 0 e = some ⟨negative, 0, minExponent⟩ := by
  unfold ofDecimal
  exact if_pos rfl

/-- A decimal in the rounding interval of a number is read as it. -/
theorem ofDecimal_of_rounds (hx : x.Canonical) (hm : x.mantissa ≠ 0) {digits : Nat} {e : Int}
    (h : x.Rounds (digits * 10 ^ e)) : ofDecimal x.negative digits e = some x := by
  have hdigits : digits ≠ 0 := by
    rintro rfl
    simpa using h.pos hm
  obtain ⟨hlow, hhigh⟩ := h.bounds_ten hx hm
  obtain ⟨hge, hlt⟩ := bounds_toDigits hdigits
  have hpos : 0 < (Nat.toDigits 10 digits).length := Nat.length_toDigits_pos
  have hten : (0 : ℚ) < 10 ^ e := by positivity
  generalize hsize : ((Nat.toDigits 10 digits).length : Int) = size
  have hsmall : ¬ size + e < -400 := fun hlt400 => by
    refine absurd hlow (not_le.2 ?_)
    calc (digits * 10 ^ e : ℚ)
      _ < 10 ^ size * 10 ^ e := by
        refine mul_lt_mul_of_pos_right ?_ hten
        rw [← hsize]
        exact_mod_cast hlt
      _ = 10 ^ (size + e) := (zpow_add₀ (by norm_num) _ _).symm
      _ ≤ 10 ^ (-401 : Int) := zpow_le_zpow_right₀ (by norm_num) (by omega)
  have hlarge : ¬ 400 < size + e := fun hgt400 => by
    refine absurd hhigh (not_lt.2 ?_)
    calc (10 : ℚ) ^ (400 : Int)
      _ ≤ 10 ^ (size - 1 + e) := zpow_le_zpow_right₀ (by norm_num) (by omega)
      _ = 10 ^ (size - 1) * 10 ^ e := zpow_add₀ (by norm_num) _ _
      _ ≤ digits * 10 ^ e := by
        refine mul_le_mul_of_nonneg_right ?_ hten.le
        rw [← hsize, ← Nat.cast_pred hpos]
        exact_mod_cast hge
  unfold ofDecimal
  dsimp only
  rw [hsize, if_neg (by simp [hdigits, hsmall]), if_neg hlarge]
  cases e with
  | ofNat k =>
    refine ofRatio_of_rounds hx hm one_ne_zero ?_
    simpa using h
  | negSucc k =>
    refine ofRatio_of_rounds hx hm (Nat.pow_pos (by decide)).ne' ?_
    simpa [zpow_negSucc, div_eq_mul_inv] using h

/-! ## Reading -/

theorem spanDigits_append {ds tail : List Char} (hds : ∀ c ∈ ds, c.isDigit = true)
    (htail : ∀ c, tail.head? = some c → c.isDigit = false) : spanDigits (ds ++ tail) = (ds, tail) := by
  rw [spanDigits, List.takeWhile_append_of_pos hds, List.dropWhile_append_of_pos hds]
  cases tail with
  | nil => simp
  | cons c rest => simp [htail c rfl]

/-- The sign of a number, as it is written. -/
def signText (negative : Bool) : List Char := if negative then ['-'] else []

theorem splitSign_signText (negative : Bool) {cs : List Char} (h : ∃ c ∈ cs.head?, c.isDigit = true) :
    splitSign (signText negative ++ cs) = (negative, cs) := by
  obtain ⟨c, hc, hdigit⟩ := h
  cases negative with
  | true => rfl
  | false =>
    obtain ⟨rest, rfl⟩ : ∃ rest, cs = c :: rest := by
      cases cs with
      | nil => simp at hc
      | cons d rest => exact ⟨rest, by rw [Option.some.inj hc]⟩
    have hminus : c ≠ '-' := fun e => by
      rw [e] at hdigit
      exact absurd hdigit (by decide)
    have hplus : c ≠ '+' := fun e => by
      rw [e] at hdigit
      exact absurd hdigit (by decide)
    simp [signText, splitSign, hminus, hplus]

/-- A decimal that ends with an exponent, or with nothing. -/
structure ExponentText (tail : List Char) (e : Int) : Prop where
  head : tail = [] ∨ ∃ rest, tail = 'e' :: rest
  value : readExponent tail = some e

theorem ExponentText.head_not_digit {tail : List Char} {e : Int} (h : ExponentText tail e) (c : Char)
    (hc : tail.head? = some c) : c.isDigit = false := by
  rcases h.head with rfl | ⟨rest, rfl⟩
  · simp at hc
  · obtain rfl := Option.some.inj hc
    decide

theorem head?_append {whole : List Char} (hne : whole ≠ []) (hw : ∀ c ∈ whole, c.isDigit = true)
    (tail : List Char) : ∃ c ∈ (whole ++ tail).head?, c.isDigit = true := by
  cases whole with
  | nil => exact absurd rfl hne
  | cons c rest => exact ⟨c, rfl, hw c List.mem_cons_self⟩

/-- A decimal without a point. -/
theorem ofText?_whole (negative : Bool) {whole tail : List Char} {e : Int} (hne : whole ≠ [])
    (hw : ∀ c ∈ whole, c.isDigit = true) (ht : ExponentText tail e) :
    ofText? (signText negative ++ (whole ++ tail)) = ofDecimal negative (digitsValue 0 whole) e := by
  have hspan := spanDigits_append hw ht.head_not_digit
  have hread : readExponent tail = some e := ht.value
  simp only [ofText?, splitSign_signText _ (head?_append hne hw _), hspan]
  rcases ht.head with rfl | ⟨rest, rfl⟩ <;> simp [hread, hne]

/-- A decimal with a point. -/
theorem ofText?_point (negative : Bool) {whole part tail : List Char} {e : Int} (hne : whole ≠ [])
    (hw : ∀ c ∈ whole, c.isDigit = true) (hp : ∀ c ∈ part, c.isDigit = true) (ht : ExponentText tail e) :
    ofText? (signText negative ++ (whole ++ '.' :: (part ++ tail))) =
      ofDecimal negative (digitsValue 0 (whole ++ part)) (e - part.length) := by
  have hdot : ∀ c, ('.' :: (part ++ tail)).head? = some c → c.isDigit = false := fun c hc => by
    obtain rfl := Option.some.inj hc
    decide
  simp [ofText?, splitSign_signText _ (head?_append hne hw _), spanDigits_append hw hdot,
    spanDigits_append hp ht.head_not_digit, ht.value, hne]

theorem exponentText_nil : ExponentText [] 0 := ⟨.inl rfl, rfl⟩

/-- An exponent is read with whatever sign it was written. -/
theorem exponentText_toDigits {e : Int} {sign : List Char}
    (hs : e < 0 ∧ sign = ['-'] ∨ 0 ≤ e ∧ (sign = [] ∨ sign = ['+'])) :
    ExponentText ('e' :: (sign ++ Nat.toDigits 10 e.natAbs)) e := by
  have hds := isDigit_toDigits e.natAbs
  have hne : Nat.toDigits 10 e.natAbs ≠ [] := Nat.toDigits_ne_nil
  have hv := digitsValue_toDigits e.natAbs
  generalize Nat.toDigits 10 e.natAbs = ds at *
  have hspan : spanDigits (ds ++ []) = (ds, []) := spanDigits_append hds (by simp)
  rw [List.append_nil] at hspan
  have hsign : splitSign (sign ++ ds) = (decide (e < 0), ds) := by
    rcases hs with ⟨hlt, rfl⟩ | ⟨hge, rfl | rfl⟩
    · simp [splitSign, hlt]
    · rw [show decide (e < 0) = false by simp [hge]]
      simpa [signText] using splitSign_signText false (by simpa using head?_append hne hds [])
    · simp [splitSign, hge]
  refine ⟨.inr ⟨_, rfl⟩, ?_⟩
  simp only [readExponent, hsign, hspan, hv, true_or, if_true, decide_eq_true_eq]
  rw [if_neg (by simp [hne]), Option.some.injEq]
  split <;> omega

/-- What is read is in canonical form. -/
theorem canonical_of_ofDecimal {negative : Bool} {digits : Nat} {e : Int}
    (h : ofDecimal negative digits e = some x) : x.Canonical := by
  unfold ofDecimal at h
  dsimp only at h
  split at h
  · exact Option.some.inj h ▸ canonical_zero negative
  · split at h
    · cases h
    · cases e with
      | ofNat k => exact canonical_of_ofRatio one_ne_zero h
      | negSucc k => exact canonical_of_ofRatio (Nat.pow_pos (by decide)).ne' h

theorem canonical_of_ofText? {text : List Char} (h : ofText? text = some x) : x.Canonical := by
  unfold ofText? at h
  dsimp only at h
  rw [Option.ite_none_left_eq_some] at h
  obtain ⟨e, -, hdecimal⟩ := Option.bind_eq_some_iff.1 h.2
  exact canonical_of_ofDecimal hdecimal

/-! ## Writing -/

/-- A text stands for a decimal that is some digits and a power of ten, perhaps spelled in another way. -/
def StandsFor (text : List Char) (negative : Bool) (v : ℚ) : Prop :=
  ∃ (digits : Nat) (e : Int), (digits * 10 ^ e : ℚ) = v ∧
    ofText? (signText negative ++ text) = ofDecimal negative digits e

theorem standsFor_point (negative : Bool) {whole part tail : List Char} {e : Int} {v : ℚ} (hne : whole ≠ [])
    (hw : ∀ c ∈ whole, c.isDigit = true) (hp : ∀ c ∈ part, c.isDigit = true) (ht : ExponentText tail e)
    (hv : (digitsValue 0 (whole ++ part) : ℚ) * 10 ^ (e - part.length) = v) :
    StandsFor (whole ++ '.' :: (part ++ tail)) negative v :=
  ⟨_, _, hv, ofText?_point negative hne hw hp ht⟩

theorem standsFor_positional (negative : Bool) (c : Nat) {k whole : Int}
    (hwhole : whole = (Nat.toDigits 10 c).length + k) :
    StandsFor (positional (Nat.toDigits 10 c) whole) negative (c * 10 ^ k) := by
  have hds := isDigit_toDigits c
  have hv := digitsValue_toDigits c
  have hne : Nat.toDigits 10 c ≠ [] := Nat.toDigits_ne_nil
  generalize Nat.toDigits 10 c = ds at *
  unfold positional
  dsimp only
  split
  · -- zeros before the digits
    generalize hn : (-whole).toNat = n
    have hvalue : digitsValue 0 (['0'] ++ (zeros n ++ ds)) = c := by
      rw [show ['0'] ++ (zeros n ++ ds) = zeros (n + 1) ++ ds from rfl, digitsValue_append,
        digitsValue_zeros, Nat.zero_mul, hv]
    have htext : StandsFor (['0'] ++ '.' :: (zeros n ++ ds ++ [])) negative (c * 10 ^ k) :=
      standsFor_point negative (by simp) (List.forall_mem_singleton.2 rfl)
        (List.forall_mem_append.2 ⟨isDigit_zeros n, hds⟩) exponentText_nil ?_
    · simpa using htext
    · rw [hvalue]
      congr 2
      simp only [zeros, List.length_append, List.length_replicate]
      omega
  · split
    · -- zeros after the digits
      generalize hj : whole.toNat - ds.length = j
      have hvalue : digitsValue 0 (ds ++ zeros j ++ ['0']) = c * 10 ^ j * 10 := by
        rw [digitsValue_append, digitsValue_append, digitsValue_zeros, hv]
        rfl
      have htext : StandsFor (ds ++ zeros j ++ '.' :: (['0'] ++ [])) negative (c * 10 ^ k) :=
        standsFor_point negative (by simp [hne]) (List.forall_mem_append.2 ⟨hds, isDigit_zeros j⟩)
          (List.forall_mem_singleton.2 rfl) exponentText_nil ?_
      · simpa using htext
      · obtain rfl : k = j := by omega
        rw [hvalue, List.length_singleton, Nat.cast_one, zero_sub, zpow_neg_one, zpow_natCast]
        push_cast
        exact mul_inv_cancel_right₀ (by norm_num) _
    · -- the point among the digits
      have htext : StandsFor (ds.take whole.toNat ++ '.' :: (ds.drop whole.toNat ++ [])) negative (c * 10 ^ k) :=
        standsFor_point negative ?_ (fun d hd => hds d (List.mem_of_mem_take hd))
          (fun d hd => hds d (List.mem_of_mem_drop hd)) exponentText_nil ?_
      · simpa using htext
      · simp only [ne_eq, List.take_eq_nil_iff, hne, or_false]
        omega
      · rw [List.take_append_drop, hv]
        congr 2
        rw [List.length_drop]
        omega

theorem standsFor_scientific (layout : Layout) (negative : Bool) (c : Nat) {k e : Int}
    (he : e = (Nat.toDigits 10 c).length + k - 1) :
    StandsFor (scientific layout (Nat.toDigits 10 c) e) negative (c * 10 ^ k) := by
  have hds := isDigit_toDigits c
  have hv := digitsValue_toDigits c
  have hne : Nat.toDigits 10 c ≠ [] := Nat.toDigits_ne_nil
  have hexponent : ExponentText ('e' :: ((if e < 0 then ['-'] else if layout.plusSign then ['+'] else []) ++
      Nat.toDigits 10 e.natAbs)) e := by
    refine exponentText_toDigits ?_
    by_cases hlt : e < 0
    · exact .inl ⟨hlt, if_pos hlt⟩
    · rw [if_neg hlt]
      refine .inr ⟨not_lt.1 hlt, ?_⟩
      cases layout.plusSign
      · exact .inl rfl
      · exact .inr rfl
  unfold scientific
  dsimp only
  rw [List.append_assoc, List.cons_append]
  generalize 'e' :: ((if e < 0 then ['-'] else if layout.plusSign then ['+'] else []) ++
      Nat.toDigits 10 e.natAbs) = tail at *
  generalize Nat.toDigits 10 c = ds at *
  match ds, hne with
  | [d], _ =>
    refine ⟨c, e, ?_, ?_⟩
    · congr 2
      simpa using he
    · rw [ofText?_whole negative (by simp) hds hexponent, hv]
  | d :: d' :: rest, _ =>
    have htext : StandsFor ([d] ++ '.' :: (d' :: rest ++ tail)) negative (c * 10 ^ k) :=
      standsFor_point negative (by simp) (fun x hx => hds x (by simp_all))
        (fun x hx => hds x (List.mem_cons_of_mem d hx)) hexponent ?_
    · simpa using htext
    · rw [show [d] ++ d' :: rest = d :: d' :: rest from rfl, hv]
      congr 2
      simp only [List.length_cons] at he ⊢
      omega

/-- What is written for a number after its sign. -/
def body (layout : Layout) (x : Binary64) : List Char :=
  let digits := Nat.toDigits 10 x.shortest.1
  let e := (digits.length : Int) + x.shortest.2 - 1
  if layout.leastPositional ≤ e ∧ e ≤ layout.greatestPositional then positional digits (e + 1)
  else scientific layout digits e

theorem toList_render (layout : Layout) (x : Binary64) :
    (x.render layout).toList = signText x.negative ++ body layout x := by
  rw [render]
  cases x.negative <;> simp [signText, body]

theorem standsFor_body (layout : Layout) (x : Binary64) :
    StandsFor (body layout x) x.negative (x.shortest.1 * 10 ^ x.shortest.2) := by
  unfold body
  dsimp only
  split
  · exact standsFor_positional x.negative x.shortest.1 (by ring)
  · exact standsFor_scientific layout x.negative x.shortest.1 rfl

/-- A number is read as it is written. -/
theorem ofText?_render (hx : x.Canonical) (layout : Layout) : ofText? (x.render layout).toList = some x := by
  obtain ⟨digits, e, hvalue, hread⟩ := standsFor_body layout x
  rw [toList_render, hread]
  by_cases hm : x.mantissa = 0
  · have hdigits : digits = 0 := by
      have hten : (10 : ℚ) ^ e ≠ 0 := by positivity
      simpa [shortest, hm, hten] using hvalue
    have hexponent : x.exponent = minExponent := hx.normal.resolve_right (by omega)
    rw [hdigits, ofDecimal_zero, ← hexponent, ← hm]
  · exact ofDecimal_of_rounds hx hm (hvalue ▸ rounds_shortest hx hm)

end ProfileKit.Binary64

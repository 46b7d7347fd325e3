import ProfileKit.Proofs.Decimal.Rounding

/-!
# Shortest digits read back

The digits that are found for a number lie in its rounding interval (`rounds_shortest`), so they stand for
this number and no other. The search ends with 17 digits at the latest: ten to the power of 16 is more than
two to the power of 53, so that a grid of 17 digits has a point in every interval.
-/

namespace ProfileKit.Binary64

/-! ## Grids -/

theorem gridPoint_pos (c : Nat) (k : Int) : 0 < (gridPoint c k).2 := by
  cases k with
  | ofNat j => exact one_pos
  | negSucc j => exact Nat.pow_pos (by decide)

theorem gridPoint_eq (c : Nat) (k : Int) : ((gridPoint c k).1 : ℚ) / (gridPoint c k).2 = c * 10 ^ k := by
  cases k with
  | ofNat j => simp [gridPoint]
  | negSucc j => simp [gridPoint, zpow_negSucc, div_eq_mul_inv]

/-- A power of ten below a ratio is raised to one below it. -/
theorem decimalMagnitude_le {n d : Nat} (hd : 0 < d) (fuel : Nat) {k : Int} (h : (10 : ℚ) ^ k ≤ n / d) :
    (10 : ℚ) ^ decimalMagnitude n d fuel k ≤ n / d := by
  induction fuel generalizing k with
  | zero => exact h
  | succ fuel ih =>
    rw [decimalMagnitude]
    dsimp only
    split
    · rename_i hstep
      apply ih
      have hgrid := gridPoint_eq 1 (k + 1)
      have hpos := gridPoint_pos 1 (k + 1)
      rw [Nat.cast_one, one_mul] at hgrid
      rw [← hgrid, div_le_div_iff₀ (by exact_mod_cast hpos) (by exact_mod_cast hd)]
      exact_mod_cast hstep
    · exact h

theorem contains_of_hitOnGrid {i : RoundingInterval} {k : Int} {c : Nat} (h : hitOnGrid i k = some c) :
    i.contains (gridPoint c k).1 (gridPoint c k).2 = true := by
  simp only [hitOnGrid] at h
  split at h
  · cases h
  · rename_i hin _
    exact Option.some.inj h ▸ hin
  · rename_i _ hin
    exact Option.some.inj h ▸ hin
  · rename_i hin hin'
    split at h
    · exact Option.some.inj h ▸ hin
    · exact Option.some.inj h ▸ hin'

/-- The multiple of a power of ten at or below a ratio. -/
theorem gridPoint_div_le {v d c : Nat} (hd : 0 < d) (k : Int)
    (hc : c = v * (gridPoint 1 k).2 / (d * (gridPoint 1 k).1)) :
    (c * 10 ^ k : ℚ) ≤ v / d ∧ (v / d : ℚ) < ((c + 1 : Nat) : ℚ) * 10 ^ k := by
  have hb := gridPoint_pos 1 k
  have hgrid := gridPoint_eq 1 k
  rw [Nat.cast_one, one_mul] at hgrid
  generalize gridPoint 1 k = g at *
  have hbQ : (0 : ℚ) < g.2 := by exact_mod_cast hb
  have hdQ : (0 : ℚ) < d := by exact_mod_cast hd
  have ha : 0 < g.1 := by
    have : (0 : ℚ) < g.1 / g.2 := hgrid ▸ by positivity
    rw [div_pos_iff_of_pos_right hbQ] at this
    exact_mod_cast this
  rw [← hgrid, mul_div_assoc', mul_div_assoc', div_le_div_iff₀ hbQ hdQ, div_lt_div_iff₀ hdQ hbQ]
  have hlow : c * (d * g.1) ≤ v * g.2 := hc ▸ Nat.div_mul_le_self _ _
  have hhigh : v * g.2 < (c + 1) * (d * g.1) := by
    rw [hc, mul_comm (_ + 1)]
    exact Nat.lt_mul_div_succ _ (Nat.mul_pos hd ha)
  constructor
  · calc (c * g.1 * d : ℚ)
      _ = ((c * (d * g.1) : Nat) : ℚ) := by
        push_cast
        ring
      _ ≤ ((v * g.2 : Nat) : ℚ) := by exact_mod_cast hlow
      _ = v * g.2 := by push_cast; rfl
  · calc (v * g.2 : ℚ)
      _ = ((v * g.2 : Nat) : ℚ) := by push_cast; rfl
      _ < (((c + 1) * (d * g.1) : Nat) : ℚ) := by exact_mod_cast hhigh
      _ = ((c + 1 : Nat) : ℚ) * g.1 * d := by
        push_cast
        ring

/-- A grid misses an interval only if both of its points around the number do. -/
theorem exists_of_hitOnGrid_eq_none {i : RoundingInterval} {k : Int} (hden : 0 < i.den)
    (h : hitOnGrid i k = none) :
    ∃ c : Nat, (c * 10 ^ k : ℚ) ≤ i.value / i.den ∧ (i.value / i.den : ℚ) < ((c + 1 : Nat) : ℚ) * 10 ^ k ∧
      i.contains (gridPoint c k).1 (gridPoint c k).2 = false ∧
      i.contains (gridPoint (c + 1) k).1 (gridPoint (c + 1) k).2 = false := by
  have hc := gridPoint_div_le (v := i.value) hden k rfl
  simp only [hitOnGrid] at h
  split at h
  · rename_i hin hin'
    exact ⟨_, hc.1, hc.2, hin, hin'⟩
  · cases h
  · cases h
  · split at h <;> cases h

/-! ## The search -/

/-- What a search finds lies in the interval, if a grid that it reaches has a point there. -/
theorem contains_searchGrids {i : RoundingInterval} (magnitude : Int) {fuel : Nat} (size j : Nat)
    (hj : j < fuel) (h : hitOnGrid i (magnitude - ((size + j : Nat) : Int) + 1) ≠ none) :
    let r := searchGrids i magnitude fuel size
    i.contains (gridPoint r.1 r.2).1 (gridPoint r.1 r.2).2 = true := by
  induction fuel generalizing size j with
  | zero => omega
  | succ fuel ih =>
    rw [searchGrids]
    dsimp only
    cases hhit : hitOnGrid i (magnitude - (size : Int) + 1) with
    | some c => exact contains_of_hitOnGrid hhit
    | none =>
      cases j with
      | zero => exact absurd hhit h
      | succ j => exact ih (size + 1) j (by omega) (by rwa [Nat.add_right_comm])

theorem stripZeros_eq (fuel c : Nat) (k : Int) :
    (((stripZeros fuel c k).1 : ℚ) * 10 ^ (stripZeros fuel c k).2) = c * 10 ^ k := by
  induction fuel generalizing c k with
  | zero => rfl
  | succ fuel ih =>
    rw [stripZeros]
    split
    · rename_i h
      have hc : c = c / 10 * 10 := (Nat.div_mul_cancel (Nat.dvd_of_mod_eq_zero h.2)).symm
      rw [ih, zpow_add_one₀ (by norm_num)]
      conv_rhs => rw [hc]
      push_cast
      ring
    · rfl

/-! ## The interval of a number -/

variable {x : Binary64}

/-- Strictly between the ends of its interval, whatever it is rounded to the number. -/
theorem rounds_of_lt {v : ℚ}
    (hlow : (x.mantissa - if x.mantissa = 2 ^ 52 ∧ x.exponent ≠ minExponent then 1 / 4 else 1 / 2 : ℚ) *
      2 ^ x.exponent < v)
    (hhigh : v < (x.mantissa + 1 / 2) * 2 ^ x.exponent) : x.Rounds v := by
  unfold Rounds
  by_cases heven : x.mantissa % 2 = 0
  · rw [if_pos heven]
    exact ⟨hlow.le, hhigh.le⟩
  · rw [if_neg heven]
    exact ⟨hlow, hhigh⟩

theorem value_eq (x : Binary64) :
    0 < x.roundingInterval.den ∧
      (x.roundingInterval.value / x.roundingInterval.den : ℚ) = x.mantissa * 2 ^ x.exponent := by
  obtain ⟨scale, den, hden, hpow, hi⟩ := exists_scale x
  rw [hi, hpow]
  refine ⟨hden, ?_⟩
  dsimp only
  push_cast
  ring

/-- A grid with seventeen digits has a point in the interval. -/
theorem hitOnGrid_ne_none (hx : x.Canonical) (hm : x.mantissa ≠ 0) {k : Int}
    (hk : (10 : ℚ) ^ k * 10 ^ 16 ≤ x.mantissa * 2 ^ x.exponent) :
    hitOnGrid x.roundingInterval k ≠ none := by
  intro hnone
  obtain ⟨hden, hvalue⟩ := value_eq x
  obtain ⟨c, hle, hlt, hout, hout'⟩ := exists_of_hitOnGrid_eq_none hden hnone
  rw [hvalue] at hle hlt
  have hout : ¬ x.Rounds (c * 10 ^ k) := by
    rw [← gridPoint_eq, ← contains_iff hm (gridPoint_pos c k).ne']
    simp [hout]
  have hout' : ¬ x.Rounds ((c + 1 : Nat) * 10 ^ k) := by
    rw [← gridPoint_eq, ← contains_iff hm (gridPoint_pos (c + 1) k).ne']
    simp [hout']
  have hpow : (0 : ℚ) < 2 ^ x.exponent := by positivity
  generalize hbelow : (if x.mantissa = 2 ^ 52 ∧ x.exponent ≠ minExponent then 1 / 4 else 1 / 2 : ℚ) = below
  have hbelow0 : 0 < below := by
    rw [← hbelow]
    split <;> norm_num
  -- both points lie outside, so the grid is as coarse as the interval is wide
  have hlow : (c * 10 ^ k : ℚ) ≤ (x.mantissa - below) * 2 ^ x.exponent := by
    by_contra hin
    refine hout (rounds_of_lt (hbelow ▸ not_le.1 hin) (hle.trans_lt ?_))
    exact mul_lt_mul_of_pos_right (by linarith) hpow
  have hhigh : (x.mantissa + 1 / 2) * 2 ^ x.exponent ≤ ((c + 1 : Nat) : ℚ) * 10 ^ k := by
    by_contra hin
    refine hout' (rounds_of_lt (lt_of_le_of_lt ?_ hlt) (not_le.1 hin))
    rw [hbelow]
    exact mul_le_mul_of_nonneg_right (by linarith) hpow.le
  have hwide : (1 / 2 + below) * 2 ^ x.exponent ≤ (10 : ℚ) ^ k := by
    push_cast at hhigh
    linarith
  have hfine : (1 / 2 + below) * 10 ^ 16 ≤ (x.mantissa : ℚ) := by
    refine le_of_mul_le_mul_right ?_ hpow
    linarith
  split at hbelow
  · rename_i h
    rw [h.1, ← hbelow] at hfine
    norm_num at hfine
  · have : (x.mantissa : ℚ) < 2 ^ 53 := by exact_mod_cast hx.mantissa
    rw [← hbelow] at hfine
    linarith

/-! ## The magnitude -/

/-- Three decimal digits are less than ten binary ones, and 28 more than 93. -/
theorem ten_zpow_le_two_zpow {k l : Int} (h : if 0 ≤ l then 10 * k ≤ 3 * l else 93 * k ≤ 28 * l) :
    (10 : ℚ) ^ k ≤ 2 ^ l := by
  split at h
  · rename_i hl
    refine (pow_le_pow_iff_left₀ (by positivity) (by positivity) (by decide : 10 ≠ 0)).1 ?_
    calc ((10 : ℚ) ^ k) ^ 10
      _ = 10 ^ (10 * k) := by rw [← zpow_natCast, ← zpow_mul, mul_comm]; rfl
      _ ≤ 10 ^ (3 * l) := zpow_le_zpow_right₀ (by norm_num) h
      _ = 1000 ^ l := by rw [zpow_mul]; norm_num
      _ ≤ 1024 ^ l := zpow_le_zpow_left₀ hl (by norm_num) (by norm_num)
      _ = (2 ^ l) ^ 10 := by
        rw [← zpow_natCast, ← zpow_mul, mul_comm, zpow_mul]
        norm_num
  · rename_i hl
    refine (pow_le_pow_iff_left₀ (by positivity) (by positivity) (by decide : 93 ≠ 0)).1 ?_
    calc ((10 : ℚ) ^ k) ^ 93
      _ = 10 ^ (93 * k) := by rw [← zpow_natCast, ← zpow_mul, mul_comm]; rfl
      _ ≤ 10 ^ (28 * l) := zpow_le_zpow_right₀ (by norm_num) h
      _ = ((10 ^ 28) ^ (-l))⁻¹ := by rw [zpow_mul, zpow_neg, inv_inv]; rfl
      _ ≤ ((2 ^ 93) ^ (-l))⁻¹ :=
        inv_anti₀ (by positivity) (zpow_le_zpow_left₀ (by omega) (by norm_num) (by norm_num))
      _ = (2 ^ l) ^ 93 := by
        rw [zpow_neg, inv_inv, ← zpow_natCast (2 ^ l), ← zpow_mul, mul_comm, zpow_mul]
        rfl

/-- The number of binary digits before the point lies within the range of the format. -/
theorem log2_bounds (hx : x.Canonical) (hm : x.mantissa ≠ 0) :
    let l := (x.roundingInterval.value.log2 : Int) - x.roundingInterval.den.log2 - 1
    (2 : ℚ) ^ l < x.mantissa * 2 ^ x.exponent ∧ -1077 < l ∧ l < 1024 := by
  intro l
  obtain ⟨hden, hvalue⟩ := value_eq x
  have hmpos : (1 : ℚ) ≤ x.mantissa := by exact_mod_cast Nat.pos_of_ne_zero hm
  have hmlt : (x.mantissa : ℚ) < 2 ^ (53 : Int) := by exact_mod_cast hx.mantissa
  have hpow : (0 : ℚ) < 2 ^ x.exponent := by positivity
  have hne : x.roundingInterval.value ≠ 0 := by
    intro h
    rw [h, Nat.cast_zero, zero_div] at hvalue
    exact absurd hvalue.symm (mul_ne_zero (by positivity) hpow.ne')
  obtain ⟨hlow, hhigh⟩ := bounds_log2 hne hden.ne'
  rw [hvalue] at hlow hhigh
  refine ⟨hlow, ?_, ?_⟩
  · have : (2 : ℚ) ^ x.exponent < 2 ^ (l + 2) := by
      refine lt_of_le_of_lt (le_mul_of_one_le_left hpow.le hmpos) ?_
      rwa [show l + 2 = (x.roundingInterval.value.log2 : Int) - x.roundingInterval.den.log2 + 1 by ring]
    have := (zpow_lt_zpow_iff_right₀ one_lt_two).1 this
    have hleast := hx.least
    simp only [minExponent] at hleast
    omega
  · have : (2 : ℚ) ^ l < 2 ^ (53 + x.exponent) := by
      refine hlow.trans ?_
      rw [zpow_add₀ two_ne_zero]
      exact mul_lt_mul_of_pos_right hmlt hpow
    have := (zpow_lt_zpow_iff_right₀ one_lt_two).1 this
    have hgreatest := hx.greatest
    simp only [maxExponent] at hgreatest
    omega

/-- The shortest digits of a number lie in its rounding interval. -/
theorem rounds_shortest (hx : x.Canonical) (hm : x.mantissa ≠ 0) :
    x.Rounds (x.shortest.1 * 10 ^ x.shortest.2) := by
  obtain ⟨hden, hvalue⟩ := value_eq x
  obtain ⟨hlog, hleast, hgreatest⟩ := log2_bounds hx hm
  rw [shortest, if_neg hm]
  dsimp only
  generalize (x.roundingInterval.value.log2 : Int) - x.roundingInterval.den.log2 - 1 = l at *
  have hguess : (10 : ℚ) ^ (l * 30103 / 100000 - 2) ≤ x.mantissa * 2 ^ x.exponent := by
    refine le_trans (ten_zpow_le_two_zpow ?_) hlog.le
    split <;> omega
  have hmagnitude := decimalMagnitude_le hden 8 (hvalue ▸ hguess)
  generalize decimalMagnitude x.roundingInterval.value x.roundingInterval.den 8 _ = magnitude at *
  have hfound := contains_searchGrids (i := x.roundingInterval) magnitude 1 16 (show 16 < 17 by decide) ?_
  · rw [contains_iff hm (gridPoint_pos _ _).ne', gridPoint_eq] at hfound
    rwa [stripZeros_eq]
  · refine hitOnGrid_ne_none hx hm ?_
    rw [← zpow_natCast, ← zpow_add₀ (by norm_num), ← hvalue]
    convert hmagnitude using 2
    push_cast
    ring

end ProfileKit.Binary64

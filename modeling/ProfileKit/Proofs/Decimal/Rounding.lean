import Mathlib.Algebra.Order.Field.Rat
import Mathlib.Algebra.Order.Field.Power
import Mathlib.Tactic.Linarith
import Mathlib.Tactic.Ring
import Mathlib.Tactic.Positivity
import Mathlib.Tactic.NormNum
import Mathlib.Tactic.FieldSimp
import Mathlib.Data.Nat.Log
import ProfileKit.Decimal.Shortest

/-!
# Rounding to binary64

The exponent of a ratio is the one at which its mantissa has 53 bits, cut off below
(`exponentOf_eq`). So rounding gives a number in canonical form (`canonical_of_ofRatio`), and whatever lies
in the rounding interval of a number is rounded to this number (`ofRatio_of_rounds`).
-/

namespace ProfileKit.Binary64

/-- The one form that the 64-bit format has for a number. -/
structure Canonical (x : Binary64) : Prop where
  mantissa : x.mantissa < 2 ^ 53
  least : minExponent ≤ x.exponent
  greatest : x.exponent ≤ maxExponent
  normal : x.exponent = minExponent ∨ 2 ^ 52 ≤ x.mantissa

/-! ## Rounding a ratio to a natural number -/

theorem roundDiv_eq (n d : Nat) :
    roundDiv n d = if d < 2 * (n % d) ∨ 2 * (n % d) = d ∧ n / d % 2 = 1 then n / d + 1 else n / d := by
  simp only [roundDiv, Bool.or_eq_true, Bool.and_eq_true, decide_eq_true_eq, beq_iff_eq]

theorem div_le_roundDiv (n d : Nat) : n / d ≤ roundDiv n d := by
  rw [roundDiv_eq]
  split <;> omega

theorem roundDiv_le (n d : Nat) : roundDiv n d ≤ n / d + 1 := by
  rw [roundDiv_eq]
  split <;> omega

/-- A number at most one half away from a ratio is its quotient or the next one. -/
theorem eq_div_or_eq_succ {n d m : Nat} (hd : 0 < d) (hlow : 2 * m * d ≤ 2 * n + d)
    (hhigh : 2 * n ≤ 2 * m * d + d) :
    (m = n / d ∧ 2 * (n % d) ≤ d) ∨ (m = n / d + 1 ∧ d ≤ 2 * (n % d)) := by
  have hn : d * (n / d) + n % d = n := Nat.div_add_mod n d
  have hr : n % d < d := Nat.mod_lt n hd
  generalize n / d = k at *
  generalize n % d = r at *
  rcases Nat.lt_trichotomy m k with hm | rfl | hm
  · have : (m + 1) * d ≤ k * d := Nat.mul_le_mul_right d hm
    exfalso
    nlinarith
  · left
    refine ⟨rfl, ?_⟩
    nlinarith
  · rcases Nat.lt_or_ge (k + 1) m with hm' | hm'
    · have : (k + 2) * d ≤ m * d := Nat.mul_le_mul_right d hm'
      exfalso
      nlinarith
    · right
      obtain rfl : m = k + 1 := by omega
      refine ⟨rfl, ?_⟩
      nlinarith

/-- A ratio is rounded to the number that is nearer than one half. -/
theorem roundDiv_of_lt {n d m : Nat} (hd : 0 < d) (hlow : 2 * m * d < 2 * n + d)
    (hhigh : 2 * n < 2 * m * d + d) : roundDiv n d = m := by
  have hn : d * (n / d) + n % d = n := Nat.div_add_mod n d
  rw [roundDiv_eq]
  rcases eq_div_or_eq_succ hd hlow.le hhigh.le with ⟨hm, -⟩ | ⟨hm, -⟩
  · have : 2 * (n % d) < d := by
      rw [hm] at hhigh
      linarith
    rw [if_neg (by omega), hm]
  · have : d < 2 * (n % d) := by
      rw [hm] at hlow
      linarith
    rw [if_pos (.inl this), hm]

/-- A tie goes to the even number. -/
theorem roundDiv_of_le {n d m : Nat} (hd : 0 < d) (heven : m % 2 = 0) (hlow : 2 * m * d ≤ 2 * n + d)
    (hhigh : 2 * n ≤ 2 * m * d + d) : roundDiv n d = m := by
  rw [roundDiv_eq]
  rcases eq_div_or_eq_succ hd hlow hhigh with ⟨rfl, hr⟩ | ⟨rfl, hr⟩
  · rw [if_neg (by omega)]
  · rw [if_pos (by omega)]

/-! ## The exponent of a ratio -/

theorem scaleRatio_pos {d : Nat} (hd : 0 < d) (n : Nat) (q : Int) : 0 < (scaleRatio n d q).2 := by
  unfold scaleRatio
  split
  · exact Nat.mul_pos hd (Nat.pow_pos (by decide))
  · exact hd

theorem scaleRatio_eq (n d : Nat) (q : Int) :
    ((scaleRatio n d q).1 : ℚ) / (scaleRatio n d q).2 = (n / d : ℚ) / 2 ^ q := by
  cases q with
  | ofNat k =>
    simp only [scaleRatio, Nat.pow_eq, Nat.cast_mul, Nat.cast_pow, Nat.cast_ofNat, Int.ofNat_eq_natCast,
      zpow_natCast]
    rw [div_div]
  | negSucc k =>
    simp only [scaleRatio, Nat.pow_eq, Nat.cast_mul, Nat.cast_pow, Nat.cast_ofNat, zpow_negSucc]
    rw [div_inv_eq_mul, div_mul_eq_mul_div]

/-- A ratio lies between two powers of two, the exponents of which its size in bits tells. -/
theorem bounds_log2 {n d : Nat} (hn : n ≠ 0) (hd : d ≠ 0) :
    (2 : ℚ) ^ ((n.log2 : Int) - d.log2 - 1) < n / d ∧ (n / d : ℚ) < 2 ^ ((n.log2 : Int) - d.log2 + 1) := by
  have hdpos : (0 : ℚ) < d := by exact_mod_cast Nat.pos_of_ne_zero hd
  have hn1 : (2 : ℚ) ^ (n.log2 : Int) ≤ n := by exact_mod_cast Nat.log2_self_le hn
  have hn2 : (n : ℚ) < 2 ^ ((n.log2 : Int) + 1) := by exact_mod_cast Nat.lt_log2_self
  have hd1 : (2 : ℚ) ^ (d.log2 : Int) ≤ d := by exact_mod_cast Nat.log2_self_le hd
  have hd2 : (d : ℚ) < 2 ^ ((d.log2 : Int) + 1) := by exact_mod_cast Nat.lt_log2_self
  constructor
  · rw [lt_div_iff₀ hdpos]
    calc (2 : ℚ) ^ ((n.log2 : Int) - d.log2 - 1) * d
      _ < 2 ^ ((n.log2 : Int) - d.log2 - 1) * 2 ^ ((d.log2 : Int) + 1) :=
        mul_lt_mul_of_pos_left hd2 (by positivity)
      _ = 2 ^ (n.log2 : Int) := by
        rw [← zpow_add₀ two_ne_zero]
        congr 1
        ring
      _ ≤ n := hn1
  · rw [div_lt_iff₀ hdpos]
    calc (n : ℚ)
      _ < 2 ^ ((n.log2 : Int) + 1) := hn2
      _ = 2 ^ ((n.log2 : Int) - d.log2 + 1) * 2 ^ (d.log2 : Int) := by
        rw [← zpow_add₀ two_ne_zero]
        congr 1
        ring
      _ ≤ 2 ^ ((n.log2 : Int) - d.log2 + 1) * d := mul_le_mul_of_nonneg_left hd1 (by positivity)

/-- The power of two is found at which a ratio has a mantissa of 53 bits; below the least exponent the
least one is taken. -/
theorem exists_exponentOf {n d : Nat} (hn : n ≠ 0) (hd : d ≠ 0) :
    ∃ q : Int, exponentOf n d = max minExponent q ∧
      (2 : ℚ) ^ (52 + q) ≤ n / d ∧ (n / d : ℚ) < 2 ^ (53 + q) := by
  obtain ⟨hlow, hhigh⟩ := bounds_log2 hn hd
  generalize hq : (n.log2 : Int) - d.log2 - 53 = q
  have hb := scaleRatio_pos (Nat.pos_of_ne_zero hd) n q
  have hscaled := scaleRatio_eq n d q
  generalize ha : scaleRatio n d q = s at hb hscaled
  have hexponent : exponentOf n d = max minExponent (if 2 ^ 53 ≤ s.1 / s.2 then q + 1 else q) := by
    simp only [exponentOf, hq, ha, Nat.pow_eq]
  have hstep : 2 ^ 53 ≤ s.1 / s.2 ↔ (2 : ℚ) ^ (53 + q) ≤ n / d := by
    rw [Nat.le_div_iff_mul_le hb, zpow_add₀ two_ne_zero, ← le_div_iff₀ (by positivity), ← hscaled,
      le_div_iff₀ (by exact_mod_cast hb)]
    norm_cast
  by_cases h : (2 : ℚ) ^ (53 + q) ≤ n / d
  · refine ⟨q + 1, by rw [hexponent, if_pos (hstep.2 h)], ?_, ?_⟩
    · rwa [show 52 + (q + 1) = 53 + q by ring]
    · rwa [show 53 + (q + 1) = (n.log2 : Int) - d.log2 + 1 by omega]
  · refine ⟨q, by rw [hexponent, if_neg (mt hstep.1 h)], ?_, not_le.1 h⟩
    rw [show 52 + q = (n.log2 : Int) - d.log2 - 1 by omega]
    exact hlow.le

/-- The exponent of a ratio is one that is high enough for 53 bits, and no higher than it must be. -/
theorem exponentOf_eq {n d : Nat} {q : Int} (hn : n ≠ 0) (hd : d ≠ 0) (hleast : minExponent ≤ q)
    (hhigh : (n / d : ℚ) < 2 ^ (53 + q)) (hlow : q = minExponent ∨ (2 : ℚ) ^ (52 + q) ≤ n / d) :
    exponentOf n d = q := by
  obtain ⟨p, hp, hplow, hphigh⟩ := exists_exponentOf hn hd
  have hpq : p ≤ q := by
    have : 52 + p < 53 + q := (zpow_lt_zpow_iff_right₀ one_lt_two).1 (hplow.trans_lt hhigh)
    omega
  rw [hp]
  rcases hlow with rfl | hlow
  · exact max_eq_left hpq
  · have hqp : 52 + q < 53 + p := (zpow_lt_zpow_iff_right₀ one_lt_two).1 (hlow.trans_lt hphigh)
    obtain rfl : p = q := by omega
    exact max_eq_right hleast

/-! ## Rounding a ratio -/

/-- The mantissa of a ratio at its exponent has 53 bits at most. -/
theorem scaled_bounds {n d : Nat} (hn : n ≠ 0) (hd : d ≠ 0) :
    let s := scaleRatio n d (exponentOf n d)
    s.1 / s.2 < 2 ^ 53 ∧ (exponentOf n d = minExponent ∨ 2 ^ 52 ≤ s.1 / s.2) := by
  intro s
  obtain ⟨q, hq, hlow, hhigh⟩ := exists_exponentOf hn hd
  have hb : 0 < s.2 := scaleRatio_pos (Nat.pos_of_ne_zero hd) n _
  have hscaled : (s.1 : ℚ) / s.2 = (n / d : ℚ) / 2 ^ exponentOf n d := scaleRatio_eq n d _
  constructor
  · rw [Nat.div_lt_iff_lt_mul hb]
    have hle : (2 : ℚ) ^ (53 + q) ≤ 2 ^ (53 + exponentOf n d) :=
      zpow_le_zpow_right₀ one_le_two (by omega)
    have : (s.1 : ℚ) / s.2 < 2 ^ 53 := by
      rw [hscaled, div_lt_iff₀ (by positivity), ← zpow_natCast, ← zpow_add₀ two_ne_zero]
      exact hhigh.trans_le hle
    rw [div_lt_iff₀ (by exact_mod_cast hb)] at this
    exact_mod_cast this
  · rcases le_total q minExponent with h | h
    · exact .inl (hq.trans (max_eq_left h))
    · right
      rw [Nat.le_div_iff_mul_le hb]
      have : (2 : ℚ) ^ 52 ≤ s.1 / s.2 := by
        rw [hscaled, hq, max_eq_right h, le_div_iff₀ (by positivity), ← zpow_natCast,
          ← zpow_add₀ two_ne_zero]
        exact hlow
      rw [le_div_iff₀ (by exact_mod_cast hb)] at this
      exact_mod_cast this

theorem ofRatio_eq {n d : Nat} (hn : n ≠ 0) (negative : Bool) :
    ofRatio negative n d =
      let s := scaleRatio n d (exponentOf n d)
      let m := roundDiv s.1 s.2
      let r := if m = 2 ^ 53 then (2 ^ 52, exponentOf n d + 1) else (m, exponentOf n d)
      if maxExponent < r.2 then none else some ⟨negative, r.1, r.2⟩ := by
  simp only [ofRatio, if_neg hn, Nat.pow_eq]

theorem canonical_zero (negative : Bool) : Canonical ⟨negative, 0, minExponent⟩ :=
  ⟨Nat.two_pow_pos 53, le_refl minExponent, (by decide : minExponent ≤ maxExponent), .inl rfl⟩

/-- Rounding gives a number in canonical form. -/
theorem canonical_of_ofRatio {negative : Bool} {n d : Nat} {x : Binary64} (hd : d ≠ 0)
    (h : ofRatio negative n d = some x) : x.Canonical := by
  by_cases hn : n = 0
  · rw [ofRatio, if_pos hn] at h
    exact Option.some.inj h ▸ canonical_zero negative
  · obtain ⟨hbelow, hnormal⟩ := scaled_bounds hn hd
    have hle := roundDiv_le (scaleRatio n d (exponentOf n d)).1 (scaleRatio n d (exponentOf n d)).2
    have hge := div_le_roundDiv (scaleRatio n d (exponentOf n d)).1 (scaleRatio n d (exponentOf n d)).2
    have hleast : minExponent ≤ exponentOf n d := by
      rw [exponentOf]
      exact le_max_left _ _
    rw [ofRatio_eq hn] at h
    dsimp only at h hbelow hnormal
    generalize roundDiv (scaleRatio n d (exponentOf n d)).1 (scaleRatio n d (exponentOf n d)).2 = m at *
    by_cases hm : m = 2 ^ 53
    · rw [if_pos hm] at h
      split at h
      · cases h
      · rename_i hgreatest
        obtain rfl := Option.some.inj h
        exact ⟨by norm_num, by dsimp only; omega, not_lt.1 hgreatest, .inr le_rfl⟩
    · rw [if_neg hm] at h
      split at h
      · cases h
      · rename_i hgreatest
        obtain rfl := Option.some.inj h
        exact ⟨by dsimp only; omega, hleast, not_lt.1 hgreatest, hnormal.imp_right (le_trans · hge)⟩

/-! ## Rounding intervals -/

/-- A number is the one to which a ratio is rounded: half the distance to either neighbour lies between
them at most, and less when the mantissa is odd. -/
def Rounds (x : Binary64) (v : ℚ) : Prop :=
  let below : ℚ := if x.mantissa = 2 ^ 52 ∧ x.exponent ≠ minExponent then 1 / 4 else 1 / 2
  let low : ℚ := (x.mantissa - below) * 2 ^ x.exponent
  let high : ℚ := (x.mantissa + 1 / 2) * 2 ^ x.exponent
  if x.mantissa % 2 = 0 then low ≤ v ∧ v ≤ high else low < v ∧ v < high

/-- The ends of a rounding interval, and the number in it, stand over one denominator. -/
theorem exists_scale (x : Binary64) :
    ∃ scale den : Nat, 0 < den ∧ (2 : ℚ) ^ x.exponent = 4 * (scale / den) ∧
      x.roundingInterval =
        { low := (4 * x.mantissa - if x.mantissa = 2 ^ 52 ∧ x.exponent ≠ minExponent then 1 else 2) * scale
          value := 4 * x.mantissa * scale
          high := (4 * x.mantissa + 2) * scale
          den := den
          closed := x.mantissa % 2 == 0 } := by
  have hquarter : (2 : ℚ) ^ x.exponent = 4 * 2 ^ (x.exponent - 2) := by
    rw [zpow_sub₀ two_ne_zero]
    norm_num
    ring
  rw [hquarter]
  unfold roundingInterval
  cases x.exponent - 2 with
  | ofNat k => exact ⟨2 ^ k, 1, one_pos, by simp, rfl⟩
  | negSucc k => exact ⟨1, 2 ^ (k + 1), Nat.two_pow_pos _, by simp [zpow_negSucc], rfl⟩

/-- The rounding interval of a number holds what is rounded to it. -/
theorem contains_iff {x : Binary64} (hm : x.mantissa ≠ 0) {n d : Nat} (hd : d ≠ 0) :
    x.roundingInterval.contains n d = true ↔ x.Rounds (n / d) := by
  obtain ⟨scale, den, hden, hpow, hi⟩ := exists_scale x
  have hdenQ : (0 : ℚ) < den := by exact_mod_cast hden
  have hdQ : (0 : ℚ) < d := by exact_mod_cast Nat.pos_of_ne_zero hd
  have hle (c : Nat) : c * scale * d ≤ n * den ↔ (c * (scale / den) : ℚ) ≤ n / d := by
    rw [mul_div_assoc', div_le_div_iff₀ hdenQ hdQ]
    exact_mod_cast Iff.rfl
  have hge (c : Nat) : n * den ≤ c * scale * d ↔ (n / d : ℚ) ≤ c * (scale / den) := by
    rw [mul_div_assoc', div_le_div_iff₀ hdQ hdenQ]
    exact_mod_cast Iff.rfl
  -- the lower end, with its distance in quarters
  have hlow : (x.mantissa - if x.mantissa = 2 ^ 52 ∧ x.exponent ≠ minExponent then 1 / 4 else 1 / 2 : ℚ) *
      2 ^ x.exponent =
        ((4 * x.mantissa - if x.mantissa = 2 ^ 52 ∧ x.exponent ≠ minExponent then 1 else 2 : Nat) : ℚ) *
          (scale / den) := by
    rw [hpow]
    split
    · rw [Nat.cast_sub (by omega)]
      push_cast
      ring
    · rw [Nat.cast_sub (by omega)]
      push_cast
      ring
  have hhigh : (x.mantissa + 1 / 2 : ℚ) * 2 ^ x.exponent = ((4 * x.mantissa + 2 : Nat) : ℚ) * (scale / den) := by
    rw [hpow]
    push_cast
    ring
  simp only [Rounds, hlow, hhigh, hi, RoundingInterval.contains]
  by_cases heven : x.mantissa % 2 = 0
  · rw [if_pos heven, if_pos (by simp [heven])]
    simp only [Bool.and_eq_true, decide_eq_true_eq, hle, hge]
  · rw [if_neg heven, if_neg (by simp [heven])]
    simp only [Bool.and_eq_true, decide_eq_true_eq, ← not_le, hle, hge]

/-- A ratio at most one half away from a number is rounded to it, at one half if it is even. -/
theorem roundDiv_of_rounds {a b m : Nat} (hb : 0 < b)
    (h : if m % 2 = 0 then (m - 1 / 2 : ℚ) ≤ a / b ∧ (a / b : ℚ) ≤ m + 1 / 2
      else (m - 1 / 2 : ℚ) < a / b ∧ (a / b : ℚ) < m + 1 / 2) : roundDiv a b = m := by
  have hbQ : (0 : ℚ) < b := by exact_mod_cast hb
  split at h
  · rename_i heven
    rw [le_div_iff₀ hbQ, div_le_iff₀ hbQ] at h
    refine roundDiv_of_le hb heven ?_ ?_
    · have : (2 * m * b : ℚ) ≤ 2 * a + b := by linarith [h.1]
      exact_mod_cast this
    · have : (2 * a : ℚ) ≤ 2 * m * b + b := by linarith [h.2]
      exact_mod_cast this
  · rw [lt_div_iff₀ hbQ, div_lt_iff₀ hbQ] at h
    refine roundDiv_of_lt hb ?_ ?_
    · have : (2 * m * b : ℚ) < 2 * a + b := by linarith [h.1]
      exact_mod_cast this
    · have : (2 * a : ℚ) < 2 * m * b + b := by linarith [h.2]
      exact_mod_cast this

namespace Rounds

variable {x : Binary64} {v : ℚ}

theorem bounds (h : x.Rounds v) :
    (x.mantissa - if x.mantissa = 2 ^ 52 ∧ x.exponent ≠ minExponent then 1 / 4 else 1 / 2 : ℚ) *
        2 ^ x.exponent ≤ v ∧ v ≤ (x.mantissa + 1 / 2) * 2 ^ x.exponent := by
  unfold Rounds at h
  by_cases heven : x.mantissa % 2 = 0
  · rwa [if_pos heven] at h
  · rw [if_neg heven] at h
    exact ⟨h.1.le, h.2.le⟩

theorem half_le (h : x.Rounds v) : (x.mantissa - 1 / 2 : ℚ) * 2 ^ x.exponent ≤ v := by
  refine le_trans (mul_le_mul_of_nonneg_right ?_ (by positivity)) h.bounds.1
  split <;> linarith

theorem pos (h : x.Rounds v) (hm : x.mantissa ≠ 0) : 0 < v := by
  have hm1 : (1 : ℚ) ≤ x.mantissa := by exact_mod_cast Nat.pos_of_ne_zero hm
  refine lt_of_lt_of_le (mul_pos ?_ (by positivity)) h.half_le
  linarith

theorem lt_two_pow (h : x.Rounds v) (hx : x.Canonical) : v < 2 ^ (53 + x.exponent) := by
  have hm : (x.mantissa + 1 : ℚ) ≤ 2 ^ 53 := by exact_mod_cast hx.mantissa
  refine lt_of_le_of_lt h.bounds.2 ?_
  rw [zpow_add₀ two_ne_zero]
  exact mul_lt_mul_of_pos_right (by norm_num at hm ⊢; linarith) (by positivity)

/-- Scaled by its exponent, the interval reaches one half to either side of the mantissa. -/
theorem scaled (h : x.Rounds v) :
    if x.mantissa % 2 = 0
    then (x.mantissa - 1 / 2 : ℚ) ≤ v / 2 ^ x.exponent ∧ v / 2 ^ x.exponent ≤ x.mantissa + 1 / 2
    else (x.mantissa - 1 / 2 : ℚ) < v / 2 ^ x.exponent ∧ v / 2 ^ x.exponent < x.mantissa + 1 / 2 := by
  have hpow : (0 : ℚ) < 2 ^ x.exponent := by positivity
  split
  · rw [le_div_iff₀ hpow, div_le_iff₀ hpow]
    exact ⟨h.half_le, h.bounds.2⟩
  · rename_i hodd
    have hbelow : ¬(x.mantissa = 2 ^ 52 ∧ x.exponent ≠ minExponent) := fun hb => hodd (by omega)
    rw [Rounds, if_neg hodd, if_neg hbelow] at h
    rwa [lt_div_iff₀ hpow, div_lt_iff₀ hpow]

/-- Just below a power of two, numbers are twice as near. -/
theorem scaled_below (h : x.Rounds v) (hm : x.mantissa = 2 ^ 52) (he : x.exponent ≠ minExponent) :
    ((2 ^ 53 : Nat) - 1 / 2 : ℚ) ≤ v / 2 ^ (x.exponent - 1) := by
  have hlow := h.bounds.1
  rw [if_pos ⟨hm, he⟩, hm] at hlow
  rw [le_div_iff₀ (by positivity), zpow_sub_one₀ two_ne_zero]
  push_cast at hlow ⊢
  linarith

/-- A ratio below the power of two at which the exponent of a number begins is rounded to this power. -/
theorem mantissa_eq_of_lt (h : x.Rounds v) (hx : x.Canonical) (he : x.exponent ≠ minExponent)
    (hlt : v < 2 ^ (52 + x.exponent)) : x.mantissa = 2 ^ 52 := by
  have hnormal : 2 ^ 52 ≤ x.mantissa := hx.normal.resolve_left he
  have hlt' := h.half_le.trans_lt hlt
  rw [zpow_add₀ two_ne_zero, mul_lt_mul_iff_left₀ (by positivity), zpow_ofNat] at hlt'
  have hlt1 : (x.mantissa : ℚ) < 2 ^ 52 + 1 := by linarith
  have : x.mantissa < 2 ^ 52 + 1 := by exact_mod_cast hlt1
  omega

/-- The exponent of such a ratio is one less. -/
theorem exponentOf_eq_of_lt {n d : Nat} (h : x.Rounds (n / d)) (hx : x.Canonical) (hn : n ≠ 0) (hd : d ≠ 0)
    (he : x.exponent ≠ minExponent) (hlt : (n / d : ℚ) < 2 ^ (52 + x.exponent)) :
    exponentOf n d = x.exponent - 1 := by
  have hbelow := h.scaled_below (h.mantissa_eq_of_lt hx he hlt) he
  have hleast := hx.least
  refine exponentOf_eq hn hd (by omega) ?_ (.inr ?_)
  · rwa [show 53 + (x.exponent - 1) = 52 + x.exponent by ring]
  · rw [le_div_iff₀ (by positivity)] at hbelow
    rw [zpow_add₀ two_ne_zero]
    refine le_trans (mul_le_mul_of_nonneg_right ?_ (by positivity)) hbelow
    norm_num

end Rounds

/-- What lies in the rounding interval of a number is rounded to it. -/
theorem ofRatio_of_rounds {x : Binary64} (hx : x.Canonical) (hm : x.mantissa ≠ 0) {n d : Nat} (hd : d ≠ 0)
    (h : x.Rounds (n / d)) : ofRatio x.negative n d = some x := by
  have hn : n ≠ 0 := by
    rintro rfl
    simpa using h.pos hm
  have hscaled (q : Int) := scaleRatio_eq n d q
  have hspos (q : Int) : 0 < (scaleRatio n d q).2 := scaleRatio_pos (Nat.pos_of_ne_zero hd) n q
  by_cases hcase : x.exponent = minExponent ∨ (2 : ℚ) ^ (52 + x.exponent) ≤ n / d
  · -- the exponent of the ratio is that of the number
    have hq := exponentOf_eq hn hd hx.least (h.lt_two_pow hx) hcase
    have hround : roundDiv (scaleRatio n d x.exponent).1 (scaleRatio n d x.exponent).2 = x.mantissa := by
      refine roundDiv_of_rounds (hspos _) ?_
      rw [hscaled]
      exact h.scaled
    rw [ofRatio_eq hn]
    dsimp only
    rw [hq, hround, if_neg (Nat.ne_of_lt hx.mantissa), if_neg (not_lt.2 hx.greatest)]
  · -- the ratio lies below the power of two that the number is
    obtain ⟨he, hlt⟩ := not_or.1 hcase
    rw [not_le] at hlt
    have hmantissa := h.mantissa_eq_of_lt hx he hlt
    have hbelow := h.scaled_below hmantissa he
    have hq := h.exponentOf_eq_of_lt hx hn hd he hlt
    have hround : roundDiv (scaleRatio n d (x.exponent - 1)).1 (scaleRatio n d (x.exponent - 1)).2 = 2 ^ 53 := by
      refine roundDiv_of_rounds (hspos _) ?_
      rw [hscaled, if_pos (by norm_num)]
      refine ⟨hbelow, le_of_lt ?_⟩
      rw [div_lt_iff₀ (by positivity)]
      refine hlt.trans_le ?_
      rw [show 52 + x.exponent = 53 + (x.exponent - 1) by ring, zpow_add₀ two_ne_zero]
      refine mul_le_mul_of_nonneg_right ?_ (by positivity)
      norm_num
    rw [ofRatio_eq hn]
    dsimp only
    rw [hq, hround, if_pos rfl, ← hmantissa, sub_add_cancel, if_neg (not_lt.2 hx.greatest)]

end ProfileKit.Binary64

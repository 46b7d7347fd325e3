import ProfileKit.Proofs.Decimal.Text
import ProfileKit.Text.Integer

/-!
# Integers as they are typed

The decimal digits of a number are typed as that number (`natural?_toDigits`), and a text with anything but
digits in it is no number, a sign at its start apart.
-/

namespace ProfileKit.Text

theorem digits?_toDigits (n : Nat) : digits? (Nat.toDigits 10 n) = some n := by
  have hdigits : (Nat.toDigits 10 n).all Char.isDigit = true :=
    List.all_eq_true.2 (Binary64.isDigit_toDigits n)
  have hne : Nat.toDigits 10 n ≠ [] := Nat.toDigits_ne_nil
  rw [digits?, if_neg (by simp [hne, hdigits])]
  exact congrArg some (Binary64.digitsValue_toDigits n)

theorem digits?_eq_none {cs : List Char} {c : Char} (hc : c ∈ cs) (h : c.isDigit = false) :
    digits? cs = none := by
  have hall : cs.all Char.isDigit = false := List.all_eq_false.2 ⟨c, hc, by simp [h]⟩
  rw [digits?, if_pos (by simp [hall])]

theorem natural?_toDigits {n : Nat} (hn : n < 2 ^ 64) : natural? (Nat.toDigits 10 n) = some n := by
  have hdigits := digits?_toDigits n
  unfold natural?
  split
  · rename_i cs heq
    have hplus := Binary64.isDigit_toDigits n '+' (heq ▸ List.mem_cons_self)
    exact absurd hplus (by decide)
  · rw [hdigits]
    exact if_pos hn

theorem lt_of_natural? {cs : List Char} {n : Nat} (h : natural? cs = some n) : n < 2 ^ 64 := by
  have hbelow : ∀ m, below? (2 ^ 64) m = some n → n < 2 ^ 64 := by
    intro m hm
    unfold below? at hm
    split at hm
    · rename_i hlt
      exact Option.some.inj hm ▸ hlt
    · cases hm
  unfold natural? at h
  split at h
  all_goals
    obtain ⟨m, -, hm⟩ := Option.bind_eq_some_iff.1 h
    exact hbelow m hm

theorem natural?_eq_none {cs : List Char} {c : Char} (hc : c ∈ cs) (hplus : c ≠ '+')
    (h : c.isDigit = false) : natural? cs = none := by
  unfold natural?
  split
  · rw [digits?_eq_none ((List.mem_cons.1 hc).resolve_left hplus) h]
    rfl
  · rw [digits?_eq_none hc h]
    rfl

theorem negative?_eq_none {cs : List Char} {c : Char} (hc : c ∈ cs) (hminus : c ≠ '-')
    (h : c.isDigit = false) : negative? cs = none := by
  unfold negative?
  split
  · rw [digits?_eq_none ((List.mem_cons.1 hc).resolve_left hminus) h]
    rfl
  · rfl

end ProfileKit.Text

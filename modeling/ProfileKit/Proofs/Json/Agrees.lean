import ProfileKit.Json

/-!
# Values that agree

Every value agrees with itself (`Json.agrees_refl`). Without floats inside, agreeing is being the same, which
is said here for the values that forms are made of: integers, texts and truth values.
-/

namespace ProfileKit.Json

theorem Number.agrees_refl (n : Number) : n.agrees n = true := by
  cases n with
  | float x => exact x.agrees_refl
  | natural n => simp [Number.agrees]
  | negative n => simp [Number.agrees]

mutual
theorem agrees_refl : ∀ v : Json, v.agrees v = true
  | .null => by simp [agrees]
  | .bool b => by simp [agrees]
  | .number n => by simpa [agrees] using n.agrees_refl
  | .string s => by simp [agrees]
  | .array items => by simpa [agrees] using agreesItems_refl items
  | .object fields => by simpa [agrees] using agreesFields_refl fields

theorem agreesItems_refl : ∀ items : List Json, agreesItems items items = true
  | [] => by simp [agreesItems]
  | v :: rest => by simp [agreesItems, agrees_refl v, agreesItems_refl rest]

theorem agreesFields_refl : ∀ fields : List (String × Json), agreesFields fields fields = true
  | [] => by simp [agreesFields]
  | (k, v) :: rest => by simp [agreesFields, agrees_refl v, agreesFields_refl rest]
end

theorem eq_of_agrees_natural {n : Nat} {w : Json} (h : (number (.natural n)).agrees w = true) :
    w = .number (.natural n) := by
  cases w with
  | number m => cases m <;> simp_all [agrees, Number.agrees]
  | _ => simp [agrees] at h

theorem eq_of_agrees_negative {n : Nat} {w : Json} (h : (number (.negative n)).agrees w = true) :
    w = .number (.negative n) := by
  cases w with
  | number m => cases m <;> simp_all [agrees, Number.agrees]
  | _ => simp [agrees] at h

theorem eq_of_agrees_string {s : String} {w : Json} (h : (string s).agrees w = true) : w = .string s := by
  cases w <;> simp_all [agrees]

end ProfileKit.Json

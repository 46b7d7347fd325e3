import ProfileKit.Json.Reader
import ProfileKit.Proofs.Decimal.Text
import ProfileKit.Proofs.Table

/-!
# Values that are read are well formed

Numbers stay within 64 bits or are floats in canonical form, and objects have each key once, in order
(`Json.WellFormed`). Readers give no other values (`Json.wellFormed_of_read?`): every number is made by
rounding or by a bounded run of digits, and every object by insertions into an empty one.
-/

namespace ProfileKit

/-- An integer of 64 bits, or a float in canonical form. -/
def Json.Number.WellFormed : Json.Number → Prop
  | .natural n => n < 2 ^ 64
  | .negative n => n < 2 ^ 63
  | .float x => x.Canonical

namespace Json

mutual
/-- Numbers are within their bounds and objects are sorted. -/
def WellFormed : Json → Prop
  | .number n => n.WellFormed
  | .array items => WellFormedItems items
  | .object fields => Table.Sorted fields ∧ WellFormedFields fields
  | .null | .bool _ | .string _ => True

def WellFormedItems : List Json → Prop
  | [] => True
  | v :: rest => v.WellFormed ∧ WellFormedItems rest

def WellFormedFields : List (String × Json) → Prop
  | [] => True
  | (_, v) :: rest => v.WellFormed ∧ WellFormedFields rest
end

theorem wellFormedItems_iff {items : List Json} : WellFormedItems items ↔ ∀ v ∈ items, v.WellFormed := by
  induction items with
  | nil => simp [WellFormedItems]
  | cons v rest ih => simp [WellFormedItems, ih]

theorem wellFormedFields_iff {fields : List (String × Json)} :
    WellFormedFields fields ↔ ∀ e ∈ fields, e.2.WellFormed := by
  induction fields with
  | nil => simp [WellFormedFields]
  | cons e rest ih => simp [WellFormedFields, ih]

theorem WellFormed.sorted {fields : Mapping} (h : (Json.object fields).WellFormed) : fields.Sorted := by
  unfold WellFormed at h
  exact h.1

theorem WellFormed.of_get? {fields : Mapping} (h : (Json.object fields).WellFormed) {key : String} {v : Json}
    (hv : fields.get? key = some v) : v.WellFormed := by
  unfold WellFormed at h
  exact wellFormedFields_iff.1 h.2 _ (Table.mem_of_get? hv)

@[simp] theorem wellFormed_null : Json.null.WellFormed := by simp [WellFormed]

@[simp] theorem wellFormed_bool (b : Bool) : (Json.bool b).WellFormed := by simp [WellFormed]

@[simp] theorem wellFormed_string (s : String) : (Json.string s).WellFormed := by simp [WellFormed]

@[simp] theorem wellFormed_number {n : Number} : (Json.number n).WellFormed ↔ n.WellFormed := by
  simp [WellFormed]

theorem wellFormed_array {items : List Json} :
    (Json.array items).WellFormed ↔ ∀ v ∈ items, v.WellFormed := by
  rw [← wellFormedItems_iff, WellFormed]

theorem wellFormed_array_nil : (Json.array []).WellFormed := wellFormed_array.2 (by simp)

theorem wellFormed_object_nil : (Json.object []).WellFormed := by
  unfold WellFormed
  exact ⟨Table.sorted_nil, trivial⟩

theorem WellFormed.insert {fields : Mapping} (h : (Json.object fields).WellFormed) (key : String) {v : Json}
    (hv : v.WellFormed) : (Json.object (fields.insert key v)).WellFormed := by
  unfold WellFormed at h ⊢
  refine ⟨Table.sorted_insert h.1 key v, wellFormedFields_iff.2 fun e he => ?_⟩
  rcases Table.mem_insert he with rfl | he
  · exact hv
  · exact wellFormedFields_iff.1 h.2 e he

/-! ## Floats -/

end Json

namespace Binary64

variable {x y z : Binary64}

theorem canonical_neg (hx : x.Canonical) : x.neg.Canonical := ⟨hx.mantissa, hx.least, hx.greatest, hx.normal⟩

theorem canonical_ofNat (n : Nat) : (ofNat n).Canonical := by
  rw [ofNat]
  cases h : ofRatio false n 1 with
  | none => exact canonical_zero false
  | some x => exact canonical_of_ofRatio one_ne_zero h

theorem toRatio_snd_ne_zero (x : Binary64) : x.toRatio.2 ≠ 0 := by
  rw [toRatio]
  cases x.exponent with
  | ofNat k => exact one_ne_zero
  | negSucc k => exact (Nat.two_pow_pos _).ne'

theorem toRatio_fst_ne_zero (hm : x.mantissa ≠ 0) : x.toRatio.1 ≠ 0 := by
  rw [toRatio]
  cases x.exponent with
  | ofNat k => exact mul_ne_zero hm (Nat.two_pow_pos k).ne'
  | negSucc k => exact hm

theorem canonical_of_mul (h : x.mul y = some z) : z.Canonical :=
  canonical_of_ofRatio (mul_ne_zero x.toRatio_snd_ne_zero y.toRatio_snd_ne_zero) h

theorem canonical_of_div (hy : y.mantissa ≠ 0) (h : x.div y = some z) : z.Canonical :=
  canonical_of_ofRatio (mul_ne_zero x.toRatio_snd_ne_zero (toRatio_fst_ne_zero hy)) h

end Binary64

namespace Json.Reader

/-- The powers of ten by which numbers are scaled are finite. -/
theorem tenPower_ne_zero : ∀ k ≤ 308,
    ((Binary64.ofRatio false (Nat.pow 10 k) 1).getD .zero).mantissa ≠ 0 := by
  decide +kernel

theorem canonical_of_div_tenPower {x y : Binary64} {k : Nat} (hk : k ≤ 308)
    (h : x.div ((Binary64.ofRatio false (Nat.pow 10 k) 1).getD .zero) = some y) : y.Canonical :=
  Binary64.canonical_of_div (tenPower_ne_zero k hk) h

theorem canonical_of_scaleByTen {fuel : Nat} {x y : Binary64} {e : Int} (hx : x.Canonical)
    (h : scaleByTen fuel x e = some y) : y.Canonical := by
  induction fuel generalizing x e with
  | zero => exact Option.some.inj h ▸ hx
  | succ fuel ih =>
    unfold scaleByTen at h
    dsimp only at h
    split at h
    · rename_i he
      split at h
      · exact Binary64.canonical_of_mul h
      · exact canonical_of_div_tenPower he h
    · split at h
      · exact Option.some.inj h ▸ hx
      · split at h
        · cases h
        · obtain ⟨z, hz, h⟩ := Option.bind_eq_some_iff.1 h
          exact ih (canonical_of_div_tenPower le_rfl hz) h

/-! ## Numbers -/

variable {negative : Bool} {digits : Nat} {e : Int} {cs rest : List Char} {n : Number}

theorem wellFormed_of_floatOf (h : floatOf negative digits e = some n) : n.WellFormed := by
  obtain ⟨x, hx, rfl⟩ := Option.map_eq_some_iff.1 h
  have hcanonical := canonical_of_scaleByTen (Binary64.canonical_ofNat digits) hx
  show Binary64.Canonical _
  split
  · exact Binary64.canonical_neg hcanonical
  · exact hcanonical

theorem wellFormed_of_readExponent (h : readExponent negative digits e cs = some (n, rest)) :
    n.WellFormed := by
  unfold readExponent at h
  dsimp only at h
  split at h
  · cases h
  · split at h
    · obtain ⟨k, hk, he⟩ := Option.map_eq_some_iff.1 h
      obtain ⟨rfl, -⟩ := Prod.mk.inj he
      exact wellFormed_of_floatOf hk
    · split at h
      · cases h
      · obtain ⟨rfl, -⟩ := Prod.mk.inj (Option.some.inj h)
        show Binary64.Canonical _
        cases negative
        · exact Binary64.canonical_zero false
        · exact Binary64.canonical_zero true

theorem wellFormed_of_readScale (h : readScale negative digits e cs = some (n, rest)) : n.WellFormed := by
  have hfloat {tail : List Char} (h : (floatOf negative digits e).map (·, tail) = some (n, rest)) :
      n.WellFormed := by
    obtain ⟨k, hk, he⟩ := Option.map_eq_some_iff.1 h
    obtain ⟨rfl, -⟩ := Prod.mk.inj he
    exact wellFormed_of_floatOf hk
  unfold readScale at h
  split at h
  · split at h
    · exact wellFormed_of_readExponent h
    · exact hfloat h
  · exact hfloat h

/-- Digits are taken while their value stays within 64 bits. -/
theorem takeDigits_lt {acc : Nat} (hacc : acc < digitsBound) (taken : Nat) (cs : List Char) :
    (takeDigits acc taken cs).1 < digitsBound := by
  induction cs generalizing acc taken with
  | nil => exact hacc
  | cons c cs ih =>
    rw [takeDigits]
    split
    · rename_i hn
      exact ih hn _
    · exact hacc

theorem wellFormed_integer (negative : Bool) {k : Nat} (hk : k < digitsBound) :
    (integer negative k).WellFormed := by
  unfold integer
  split
  · exact hk
  · split
    · exact Binary64.canonical_neg (Binary64.canonical_zero false)
    · split
      · rename_i hzero hle
        rw [Nat.pow_eq] at hle
        show k - 1 < 2 ^ 63
        omega
      · exact Binary64.canonical_neg (Binary64.canonical_ofNat k)

theorem wellFormed_of_readUnsigned (h : readUnsigned negative cs = some (n, rest)) : n.WellFormed := by
  unfold readUnsigned at h
  dsimp only at h
  split at h
  · cases h
  · cases h
  · split at h
    · unfold readPart at h
      dsimp only at h
      split at h
      · cases h
      · exact wellFormed_of_readScale h
    · split at h
      · obtain ⟨rfl, -⟩ := Prod.mk.inj (Option.some.inj h)
        exact wellFormed_integer negative (takeDigits_lt (by decide) 0 _)
      · exact wellFormed_of_readScale h

/-! ## Values -/

theorem wellFormed_of_readWord {word : List Char} {value v : Json} (hvalue : value.WellFormed)
    (h : readWord word value cs = some (v, rest)) : v.WellFormed := by
  unfold readWord at h
  split at h
  · obtain ⟨rfl, -⟩ := Prod.mk.inj (Option.some.inj h)
    exact hvalue
  · cases h

theorem exists_of_map {α : Type} {x : Option (α × List Char)} {f : α → Json} {v : Json}
    (h : (x.map fun (a, tail) => (f a, tail)) = some (v, rest)) : ∃ a, x = some (a, rest) ∧ f a = v := by
  obtain ⟨⟨a, tail⟩, hx, he⟩ := Option.map_eq_some_iff.1 h
  obtain ⟨rfl, rfl⟩ := Prod.mk.inj he
  exact ⟨a, hx, rfl⟩

/-- What is read with some fuel is well-formed, if what was read before it is. -/
structure ReadsWellFormed (fuel : Nat) : Prop where
  value {depth : Nat} {cs rest : List Char} {v : Json} (h : readValue fuel depth cs = some (v, rest)) :
    v.WellFormed
  items {depth : Nat} {acc items : List Json} {cs rest : List Char} (hacc : (Json.array acc).WellFormed)
    (h : readItems fuel depth acc cs = some (items, rest)) : (Json.array items).WellFormed
  fields {depth : Nat} {acc fields : Mapping} {cs rest : List Char} (hacc : (Json.object acc).WellFormed)
    (h : readFields fuel depth acc cs = some (fields, rest)) : (Json.object fields).WellFormed

namespace ReadsWellFormed

variable {fuel depth : Nat}

theorem value_succ (hf : ReadsWellFormed fuel) {v : Json}
    (h : readValue (fuel + 1) depth cs = some (v, rest)) : v.WellFormed := by
  unfold readValue at h
  split at h
  · obtain ⟨s, -, rfl⟩ := exists_of_map h
    exact wellFormed_string s
  · split at h
    · cases h
    · split at h
      · obtain ⟨rfl, -⟩ := Prod.mk.inj (Option.some.inj h)
        exact wellFormed_array_nil
      · obtain ⟨items, hread, rfl⟩ := exists_of_map h
        exact hf.items wellFormed_array_nil hread
  · split at h
    · cases h
    · split at h
      · obtain ⟨rfl, -⟩ := Prod.mk.inj (Option.some.inj h)
        exact wellFormed_object_nil
      · obtain ⟨fields, hread, rfl⟩ := exists_of_map h
        exact hf.fields wellFormed_object_nil hread
  · obtain ⟨k, hread, rfl⟩ := exists_of_map h
    exact wellFormed_number.2 (wellFormed_of_readUnsigned hread)
  · exact wellFormed_of_readWord wellFormed_null h
  · exact wellFormed_of_readWord (wellFormed_bool true) h
  · exact wellFormed_of_readWord (wellFormed_bool false) h
  · obtain ⟨k, hread, rfl⟩ := exists_of_map h
    exact wellFormed_number.2 (wellFormed_of_readUnsigned hread)

theorem items_succ (hf : ReadsWellFormed fuel) {acc items : List Json} (hacc : (Json.array acc).WellFormed)
    (h : readItems (fuel + 1) depth acc cs = some (items, rest)) : (Json.array items).WellFormed := by
  unfold readItems at h
  split at h
  · cases h
  · rename_i v tail hv
    have hacc' : (Json.array (v :: acc)).WellFormed :=
      wellFormed_array.2 (List.forall_mem_cons.2 ⟨hf.value hv, wellFormed_array.1 hacc⟩)
    split at h
    · exact hf.items hacc' h
    · obtain ⟨rfl, -⟩ := Prod.mk.inj (Option.some.inj h)
      exact wellFormed_array.2 fun w hw => wellFormed_array.1 hacc' w (List.mem_reverse.1 hw)
    · cases h

theorem fields_succ (hf : ReadsWellFormed fuel) {acc fields : Mapping} (hacc : (Json.object acc).WellFormed)
    (h : readFields (fuel + 1) depth acc cs = some (fields, rest)) : (Json.object fields).WellFormed := by
  unfold readFields at h
  split at h
  · split at h
    · cases h
    · split at h
      · split at h
        · cases h
        · rename_i v tail hv
          have hacc' := fun key => hacc.insert key (hf.value hv)
          dsimp only at h
          split at h
          · exact hf.fields (hacc' _) h
          · obtain ⟨rfl, -⟩ := Prod.mk.inj (Option.some.inj h)
            exact hacc' _
          · cases h
      · cases h
  · cases h

end ReadsWellFormed

theorem readsWellFormed (fuel : Nat) : ReadsWellFormed fuel := by
  induction fuel with
  | zero => constructor <;> simp [readValue, readItems, readFields]
  | succ fuel ih => exact ⟨ih.value_succ, ih.items_succ, ih.fields_succ⟩

end Json.Reader

theorem Json.wellFormed_of_read? {text : String} {v : Json} (h : Json.read? text = some v) :
    v.WellFormed := by
  unfold read? at h
  dsimp only at h
  split at h
  · rename_i hread
    split at h
    · obtain rfl := Option.some.inj h
      exact (Reader.readsWellFormed _).value hread
    · cases h
  · cases h

end ProfileKit

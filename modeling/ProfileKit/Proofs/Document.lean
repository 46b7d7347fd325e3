import ProfileKit.Document
import ProfileKit.Proofs.Json.WellFormed

/-!
# Documents that are read are well formed

Whatever format a document is written in, its mapping is well formed (`Document.wellFormed_of_readMapping`):
for YAML by the structure of the nodes, the scalars of which are numbers only within 64 bits.
-/

namespace ProfileKit

namespace Yaml

/-! ## Scalars -/

theorem wellFormed_of_integerSize {negative : Bool} {n : Nat} {k : Json.Number}
    (h : integerSize negative n = .fits k) : k.WellFormed := by
  unfold integerSize at h
  cases negative with
  | true =>
    rw [if_pos rfl] at h
    split at h
    · exact IntegerSize.fits.inj h ▸ Nat.two_pow_pos 64
    · split at h
      · rename_i hzero hle
        rw [Nat.pow_eq] at hle
        exact IntegerSize.fits.inj h ▸ (by omega : n - 1 < 2 ^ 63)
      · split at h <;> cases h
  | false =>
    rw [if_neg (by decide)] at h
    split at h
    · rename_i hlt
      exact IntegerSize.fits.inj h ▸ hlt
    · split at h <;> cases h

theorem wellFormed_of_readInteger? {s : List Char} {v : Json} (h : readInteger? s = some (some v)) :
    v.WellFormed := by
  unfold readInteger? at h
  split at h
  · cases h
  · split at h
    · rename_i k hk
      obtain rfl := Option.some.inj (Option.some.inj h)
      exact Json.wellFormed_number.2 (wellFormed_of_integerSize hk)
    · cases h
    · cases h

/-- A float is null or what the text of a decimal is read as. -/
theorem wellFormed_of_decimal {infinite undefined signs : Bool} {text : List Char} {v : Json}
    (h : (if infinite then some Json.null else if undefined then some .null else if signs then none
      else (Binary64.ofText? text).map fun x => .number (.float x)) = some v) : v.WellFormed := by
  cases infinite with
  | true => exact Option.some.inj h ▸ Json.wellFormed_null
  | false =>
    cases undefined with
    | true => exact Option.some.inj h ▸ Json.wellFormed_null
    | false =>
      cases signs with
      | true => cases h
      | false =>
        obtain ⟨x, hx, rfl⟩ := Option.map_eq_some_iff.1 h
        exact Json.wellFormed_number.2 (Binary64.canonical_of_ofText? hx)

theorem wellFormed_of_float? {s : List Char} {v : Json} (h : float? s = some v) : v.WellFormed := by
  unfold float? at h
  exact wellFormed_of_decimal h

theorem wellFormed_of_readPlain {text : String} {v : Json} (h : readPlain text = some v) : v.WellFormed := by
  unfold readPlain at h
  dsimp only at h
  split at h
  · exact Option.some.inj h ▸ Json.wellFormed_null
  · split at h
    · exact Option.some.inj h ▸ Json.wellFormed_bool _
    · split at h
      · rename_i hinteger
        exact wellFormed_of_readInteger? (hinteger.trans (congrArg some h))
      · split at h
        · rename_i hfloat
          obtain rfl := Option.some.inj h
          exact wellFormed_of_float? (Option.ite_none_left_eq_some.1 hfloat).2
        · exact Option.some.inj h ▸ Json.wellFormed_string text

theorem wellFormed_of_readScalar {tag : Option String} {plain : Bool} {text : String} {v : Json}
    (h : readScalar tag plain text = some v) : v.WellFormed := by
  unfold readScalar at h
  split at h
  · split at h
    · exact wellFormed_of_readPlain h
    · exact Option.some.inj h ▸ Json.wellFormed_string text
  · split at h
    · cases h
    · split at h
      · obtain ⟨b, -, rfl⟩ := Option.map_eq_some_iff.1 h
        exact Json.wellFormed_bool b
      · split at h
        · exact wellFormed_of_readInteger? (Option.join_eq_some_iff.1 h)
        · split at h
          · exact wellFormed_of_float? h
          · split at h
            · obtain ⟨-, h⟩ := Option.ite_none_right_eq_some.1 h
              exact Option.some.inj h ▸ Json.wellFormed_null
            · exact Option.some.inj h ▸ Json.wellFormed_string text

/-! ## Nodes -/

mutual
theorem wellFormed_of_readNode {n : Node} {v : Json} (h : readNode n = some v) : v.WellFormed := by
  cases n with
  | scalar tag plain text =>
    rw [readNode] at h
    exact wellFormed_of_readScalar h
  | sequence tag items =>
    rw [readNode] at h
    split at h
    · obtain ⟨values, hread, rfl⟩ := Option.map_eq_some_iff.1 h
      exact Json.wellFormed_array.2 (wellFormed_of_readItems hread)
    · cases h
  | mapping tag entries =>
    rw [readNode] at h
    split at h
    · obtain ⟨fields, hread, rfl⟩ := Option.map_eq_some_iff.1 h
      exact wellFormed_of_readEntries Json.wellFormed_object_nil hread
    · cases h

theorem wellFormed_of_readItems {items : List Node} {values : List Json} (h : readItems items = some values) :
    ∀ v ∈ values, v.WellFormed := by
  cases items with
  | nil =>
    rw [readItems] at h
    simp [← Option.some.inj h]
  | cons n rest =>
    rw [readItems] at h
    split at h
    · cases h
    · rename_i v hv
      obtain ⟨values, hread, rfl⟩ := Option.map_eq_some_iff.1 h
      exact List.forall_mem_cons.2 ⟨wellFormed_of_readNode hv, wellFormed_of_readItems hread⟩

theorem wellFormed_of_readEntries {acc fields : Mapping} {entries : List (Node × Node)}
    (hacc : (Json.object acc).WellFormed) (h : readEntries acc entries = some fields) :
    (Json.object fields).WellFormed := by
  cases entries with
  | nil =>
    rw [readEntries] at h
    exact Option.some.inj h ▸ hacc
  | cons e rest =>
    obtain ⟨k, n⟩ := e
    rw [readEntries] at h
    split at h
    · rename_i key v hkey hv
      exact wellFormed_of_readEntries (hacc.insert key (wellFormed_of_readNode hv)) h
    · cases h
end

theorem wellFormed_of_read? {text : String} {v : Json} (h : read? text = some v) : v.WellFormed := by
  obtain ⟨⟨tree, size⟩, -, h⟩ := Option.bind_eq_some_iff.1 h
  cases tree with
  | none => exact Option.some.inj h ▸ Json.wellFormed_null
  | some t => exact wellFormed_of_readNode (Option.ite_none_left_eq_some.1 h).2

end Yaml

namespace Document

theorem wellFormed_of_readEither {text : String} {first f : Format} {v : Json}
    (h : readEither text first = .ok (v, f)) : v.WellFormed := by
  have hread {g : Format} {w : Json} (hw : g.read? text = some w) : w.WellFormed := by
    cases g with
    | json => exact Json.wellFormed_of_read? hw
    | yaml => exact Yaml.wellFormed_of_read? hw
  unfold readEither at h
  split at h
  · rename_i w hfirst
    obtain ⟨rfl, -⟩ := Prod.mk.inj (Except.ok.inj h)
    exact hread hfirst
  · rename_i w _ hother
    obtain ⟨rfl, -⟩ := Prod.mk.inj (Except.ok.inj h)
    exact hread hother
  · cases h

/-- The mapping of a document is well formed. -/
theorem wellFormed_of_readMapping {text : String} {m : Mapping} (h : readMapping text = .ok m) :
    (Json.object m).WellFormed := by
  unfold readMapping at h
  cases heither : readEither text (.guess text) with
  | error e => simp [heither, bind, Except.bind] at h
  | ok r =>
    obtain ⟨v, f⟩ := r
    have hv := wellFormed_of_readEither heither
    replace h : mappingOf f v = .ok m := by simpa [heither, bind, Except.bind] using h
    unfold mappingOf at h
    split at h
    · exact Except.ok.inj h ▸ hv
    · exact Except.ok.inj h ▸ Json.wellFormed_object_nil
    · cases h

end Document
end ProfileKit

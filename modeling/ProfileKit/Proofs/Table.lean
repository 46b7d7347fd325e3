import Mathlib.Data.String.Basic
import ProfileKit.Kind

/-!
# Sorted tables

What the order of a table is good for. `Table.insert` and `Table.erase` keep the keys in increasing
order, every entry of a sorted table is the one that its key looks up (`get?_eq_some_iff`), and two
sorted tables in which every key looks up the same are equal (`Table.ext`). The order of the keys has
to be strict and total, which `LawfulSortKey` says.
-/

namespace ProfileKit

/-- The order of the keys is strict and total. -/
class LawfulSortKey (κ : Type) [SortKey κ] : Prop where
  irrefl : ∀ a : κ, SortKey.before a a = false
  trans : ∀ {a b c : κ}, SortKey.before a b = true → SortKey.before b c = true →
    SortKey.before a c = true
  total : ∀ {a b : κ}, a ≠ b → SortKey.before a b = false → SortKey.before b a = true

instance : LawfulSortKey String where
  irrefl a := by simp [SortKey.before]
  trans hab hbc := by
    simp only [SortKey.before, decide_eq_true_eq] at *
    exact lt_trans hab hbc
  total hne hab := by
    simp only [SortKey.before, decide_eq_true_eq, decide_eq_false_iff_not] at *
    exact lt_of_le_of_ne (not_lt.1 hab) (Ne.symm hne)

theorem Kind.rank_inj {a b : Kind} (h : a.rank = b.rank) : a = b := by
  cases a <;> cases b <;> first | rfl | simp [Kind.rank] at h

theorem Key.mk_ne {j k : Kind} {i id : String} (h : ¬ (j = k ∧ i = id)) : (⟨j, i⟩ : Key) ≠ ⟨k, id⟩ := fun e =>
  h ⟨congrArg Key.kind e, congrArg Key.id e⟩

theorem Key.before_iff {a b : Key} :
    SortKey.before a b = true ↔ a.kind.rank < b.kind.rank ∨ (a.kind = b.kind ∧ a.id < b.id) := by
  simp [SortKey.before, Key.before]

instance : LawfulSortKey Key where
  irrefl a := by simp [SortKey.before, Key.before]
  trans {a b c} hab hbc := by
    rw [Key.before_iff] at *
    rcases hab with hab | ⟨hk, hab⟩ <;> rcases hbc with hbc | ⟨hk', hbc⟩
    · exact .inl (by omega)
    · exact .inl (hk' ▸ hab)
    · exact .inl (hk ▸ hbc)
    · exact .inr ⟨hk.trans hk', lt_trans hab hbc⟩
  total {a b} hne hab := by
    have hab : ¬ (a.kind.rank < b.kind.rank ∨ (a.kind = b.kind ∧ a.id < b.id)) := by
      rw [← Key.before_iff, hab]; simp
    rw [Key.before_iff]
    simp only [not_or, not_lt, not_and] at hab
    obtain ⟨hrank, hid⟩ := hab
    by_cases hk : a.kind = b.kind
    · have hne' : a.id ≠ b.id := fun e => hne (by cases a; cases b; simp_all)
      exact .inr ⟨hk.symm, lt_of_le_of_ne (hid hk) (Ne.symm hne')⟩
    · have : a.kind.rank ≠ b.kind.rank := fun e => hk (Kind.rank_inj e)
      exact .inl (by omega)

namespace Table

variable {κ α : Type} [DecidableEq κ]

/-! ## Looking up -/

theorem get?_cons (key k : κ) (v : α) (t : Table κ α) :
    get? key ((k, v) :: t) = if k = key then some v else get? key t := rfl

theorem mem_of_get? {t : Table κ α} {key : κ} {v : α} (h : t.get? key = some v) : (key, v) ∈ t := by
  induction t with
  | nil => simp [get?] at h
  | cons e rest ih =>
    obtain ⟨k, w⟩ := e
    rw [get?_cons] at h
    split at h
    · rename_i hk
      simp_all
    · exact List.mem_cons_of_mem _ (ih h)

theorem get?_eq_none {t : Table κ α} {key : κ} (h : ∀ e ∈ t, e.1 ≠ key) : t.get? key = none := by
  cases hg : t.get? key with
  | none => rfl
  | some v => exact absurd rfl (h _ (mem_of_get? hg))

theorem contains_iff {t : Table κ α} {key : κ} : t.contains key = true ↔ ∃ v, t.get? key = some v := by
  simp [contains, Option.isSome_iff_exists]

variable [SortKey κ]

theorem contains_insert (key k : κ) (v : α) (t : Table κ α) :
    (t.insert key v).contains k = (decide (key = k) || t.contains k) := by
  rw [contains, get?_insert, contains]
  by_cases h : key = k <;> simp [h]

omit [SortKey κ] in
theorem contains_erase (key k : κ) (t : Table κ α) :
    (t.erase key).contains k = (!decide (key = k) && t.contains k) := by
  rw [contains, get?_erase, contains]
  by_cases h : key = k <;> simp [h]

theorem mem_insert {key : κ} {v : α} {t : Table κ α} {e : κ × α} (h : e ∈ t.insert key v) :
    e = (key, v) ∨ e ∈ t := by
  induction t with
  | nil => exact .inl (by simpa [insert] using h)
  | cons f rest ih =>
    obtain ⟨k, w⟩ := f
    simp only [insert] at h
    split at h
    · rcases List.mem_cons.1 h with rfl | h
      · exact .inl rfl
      · exact .inr (List.mem_cons_of_mem _ h)
    · split at h
      · rcases List.mem_cons.1 h with rfl | h
        · exact .inl rfl
        · exact .inr h
      · rcases List.mem_cons.1 h with rfl | h
        · exact .inr (by simp)
        · exact (ih h).imp_right (List.mem_cons_of_mem _)

omit [SortKey κ] in
theorem mem_erase {key : κ} {t : Table κ α} {e : κ × α} : e ∈ t.erase key ↔ e ∈ t ∧ e.1 ≠ key := by
  simp [erase]

/-- Entries of other keys are not touched by an insertion. -/
theorem filter_insert {key : κ} {v : α} {p : κ → Bool} (h : p key = false) (t : Table κ α) :
    (t.insert key v).filter (fun e => p e.1) = t.filter fun e => p e.1 := by
  induction t with
  | nil => simp [insert, h]
  | cons e rest ih =>
    obtain ⟨k, w⟩ := e
    simp only [insert]
    split
    · rename_i hk
      simp [hk, h]
    · split
      · simp [h]
      · simp [List.filter_cons, ih]

omit [SortKey κ] in
theorem filter_erase {key : κ} {p : κ → Bool} (h : p key = false) (t : Table κ α) :
    (t.erase key).filter (fun e => p e.1) = t.filter fun e => p e.1 := by
  rw [erase, List.filter_filter]
  refine List.filter_congr fun e _ => ?_
  by_cases he : e.1 = key <;> simp [he, h]

omit [SortKey κ] in
theorem get?_filter {key : κ} {p : κ → Bool} (h : p key = true) (t : Table κ α) :
    get? key (t.filter fun e => p e.1) = t.get? key := by
  induction t with
  | nil => rfl
  | cons e rest ih =>
    obtain ⟨k, w⟩ := e
    by_cases hk : k = key
    · simp [get?_cons, hk, h]
    · cases hp : p k <;> simp [hp, get?_cons, hk, ih]

omit [SortKey κ] in
/-- Looking up where the values have been replaced. -/
theorem get?_map {β : Type} (f : κ → α → β) (key : κ) (t : Table κ α) :
    get? key (t.map fun e => (e.1, f e.1 e.2)) = (t.get? key).map (f key) := by
  induction t with
  | nil => rfl
  | cons e rest ih =>
    obtain ⟨k, w⟩ := e
    rw [List.map_cons, get?_cons, get?_cons]
    by_cases hk : k = key
    · simp [hk]
    · rw [if_neg hk, if_neg hk, ih]

theorem mem_put {key : κ} {v : Option α} {t : Table κ α} {e : κ × α} (h : e ∈ t.put key v) :
    (∃ w, v = some w ∧ e = (key, w)) ∨ e ∈ t := by
  cases v with
  | none => exact .inr (mem_erase.1 h).1
  | some w => exact (mem_insert h).imp_left fun he => ⟨w, rfl, he⟩

theorem filter_put {key : κ} {p : κ → Bool} (h : p key = false) (t : Table κ α) (v : Option α) :
    (t.put key v).filter (fun e => p e.1) = t.filter fun e => p e.1 := by
  cases v with
  | none => exact filter_erase h t
  | some v => exact filter_insert h t

/-! ## Order -/

omit [DecidableEq κ] in
theorem sorted_nil : Sorted ([] : Table κ α) := List.Pairwise.nil

theorem sorted_erase {t : Table κ α} (h : Sorted t) (key : κ) : Sorted (t.erase key) :=
  List.Pairwise.filter _ h

omit [DecidableEq κ] in
theorem sorted_map {β : Type} (f : κ → α → β) {t : Table κ α} (h : Sorted t) :
    Sorted (t.map fun e => (e.1, f e.1 e.2)) :=
  List.pairwise_map.2 h

variable [LawfulSortKey κ]

omit [DecidableEq κ] in
theorem ne_of_before {a b : κ} (h : SortKey.before a b = true) : a ≠ b := by
  rintro rfl
  rw [LawfulSortKey.irrefl] at h
  cases h

theorem sorted_insert {t : Table κ α} (h : Sorted t) (key : κ) (v : α) : Sorted (t.insert key v) := by
  induction t with
  | nil => exact List.pairwise_singleton _ _
  | cons e rest ih =>
    obtain ⟨k, w⟩ := e
    obtain ⟨hk, hrest⟩ := List.pairwise_cons.1 h
    simp only [insert]
    split
    · rename_i e
      subst e
      exact List.pairwise_cons.2 ⟨hk, hrest⟩
    · rename_i hne
      split
      · rename_i hlt
        refine List.pairwise_cons.2 ⟨fun f hf => ?_, h⟩
        rcases List.mem_cons.1 hf with rfl | hf
        · exact hlt
        · exact LawfulSortKey.trans hlt (hk f hf)
      · rename_i hlt
        have hgt := LawfulSortKey.total (Ne.symm hne) (by simpa using hlt)
        refine List.pairwise_cons.2 ⟨fun f hf => ?_, ih hrest⟩
        rcases mem_insert hf with rfl | hf
        · exact hgt
        · exact hk f hf

theorem sorted_put {t : Table κ α} (h : Sorted t) (key : κ) (v : Option α) : Sorted (t.put key v) := by
  cases v with
  | none => exact sorted_erase h key
  | some v => exact sorted_insert h key v

omit [DecidableEq κ] in
theorem nodup_keys {t : Table κ α} (h : Sorted t) : (t.map Prod.fst).Nodup :=
  List.pairwise_map.2 (h.imp ne_of_before)

omit [DecidableEq κ] in
theorem nodup {t : Table κ α} (h : Sorted t) : t.Nodup :=
  h.imp fun hlt e => ne_of_before hlt (congrArg Prod.fst e)

/-- Looking up in a sorted table finds exactly its entries. -/
theorem get?_eq_some_iff {t : Table κ α} (h : Sorted t) {key : κ} {v : α} :
    t.get? key = some v ↔ (key, v) ∈ t := by
  refine ⟨mem_of_get?, fun hm => ?_⟩
  induction t with
  | nil => simp at hm
  | cons e rest ih =>
    obtain ⟨k, w⟩ := e
    obtain ⟨hk, hrest⟩ := List.pairwise_cons.1 h
    rw [get?_cons]
    rcases List.mem_cons.1 hm with heq | hm
    · simp_all
    · rw [if_neg (ne_of_before (hk _ hm)), ih hrest hm]

/-- Two sorted tables in which every key looks up the same are equal. -/
theorem ext {t u : Table κ α} (ht : Sorted t) (hu : Sorted u) (h : ∀ key, t.get? key = u.get? key) :
    t = u := by
  have hmem : ∀ e, e ∈ t ↔ e ∈ u := fun e => by
    rw [← get?_eq_some_iff ht, h, get?_eq_some_iff hu]
  refine List.Perm.eq_of_pairwise (fun a b _ _ hab hba => ?_) ht hu
    ((List.perm_ext_iff_of_nodup (nodup ht) (nodup hu)).2 hmem)
  exact absurd rfl (ne_of_before (LawfulSortKey.trans hab hba))

theorem insert_insert {t : Table κ α} (h : Sorted t) (key : κ) (v : α) :
    (t.insert key v).insert key v = t.insert key v := by
  have hsorted := sorted_insert h key v
  refine ext (sorted_insert hsorted key v) hsorted fun k => ?_
  rw [get?_insert, get?_insert]
  split <;> rfl

end Table
end ProfileKit

import ProfileKit.Proofs.Id
import ProfileKit.Proofs.Profile.RoundTrip
import ProfileKit.Store.Memory

/-!
# What a store in memory holds

A store in memory has its keys in order, and since a save checks the id
(`MemoryStore.save_eq_ok`), every id in it is valid (`MemoryStore.WellFormed`). Both survive what
calls do to a store, whatever the texts are: `MemoryStore.WellFormed.insert` and
`MemoryStore.WellFormed.erase`. A listing has the ids of a kind in increasing order, so the first
other id that it shows is the least one (`MemoryStore.WellFormed.firstOther?_eq_some_iff`).
-/

namespace ProfileKit

namespace Table

variable {κ α : Type} [DecidableEq κ]

theorem contains_iff_mem {t : Table κ α} {key : κ} : t.contains key = true ↔ ∃ v, (key, v) ∈ t := by
  induction t with
  | nil => simp [contains, get?]
  | cons e rest ih =>
    obtain ⟨k, w⟩ := e
    by_cases hk : k = key
    · simp [contains, get?_cons, hk]
    · rw [contains, get?_cons, if_neg hk]
      simp only [contains] at ih
      simp [ih, Ne.symm hk]

end Table

namespace MemoryStore

variable {s : MemoryStore}

/-! ## Calls -/

@[simp] theorem eval_list (k : Kind) (s : MemoryStore) : (store.list k).eval s = (.ok (list k s), s) := rfl

@[simp] theorem eval_load (k : Kind) (id : String) (s : MemoryStore) :
    (store.load k id).eval s = (load k id s, s) := rfl

@[simp] theorem eval_save (k : Kind) (id text : String) (overwrite : Bool) (s : MemoryStore) :
    (store.save k id text overwrite).eval s = save k id text overwrite s := rfl

@[simp] theorem eval_delete (k : Kind) (id : String) (s : MemoryStore) :
    (store.delete k id).eval s = delete k id s := rfl

theorem load_eq_ok_iff {k : Kind} {id : String} {loaded : StoredProfile} :
    load k id s = .ok loaded ↔
      s.get? ⟨k, id⟩ = some loaded.text ∧ Profile.parse k loaded.text = .ok loaded.profile := by
  obtain ⟨p, text⟩ := loaded
  unfold load StoredProfile.ofText
  cases hg : s.get? ⟨k, id⟩ with
  | none => simp
  | some t =>
    simp only [Profile.map_eq_ok_iff, Option.some.injEq, StoredProfile.mk.injEq]
    constructor
    · rintro ⟨q, hq, rfl, rfl⟩
      exact ⟨rfl, hq⟩
    · rintro ⟨rfl, hq⟩
      exact ⟨p, hq, rfl, rfl⟩

/-- A save that may replace what is there succeeds with every valid id. -/
theorem save_overwrite {k : Kind} {id : String} (h : Id.isValid id = true) (text : String)
    (s : MemoryStore) : save k id text true s = (.ok [], s.insert ⟨k, id⟩ text) := by
  simp [save, Id.check, h]

/-- A save succeeds with a valid id, unless it would replace what may not be replaced. -/
theorem save_eq_ok {k : Kind} {id text : String} {overwrite : Bool} {warnings : List String}
    {s' : MemoryStore} (h : save k id text overwrite s = (.ok warnings, s')) :
    Id.isValid id = true ∧ (overwrite = true ∨ s.contains ⟨k, id⟩ = false) ∧ warnings = [] ∧
      s' = s.insert ⟨k, id⟩ text := by
  unfold save Id.check at h
  by_cases hid : Id.isValid id = true
  · simp only [hid, if_true] at h
    split at h
    · simp at h
    · rename_i hfree
      cases overwrite <;> simp_all
  · simp [hid] at h

/-- A save that fails has no effect. -/
theorem save_eq_error {k : Kind} {id text : String} {overwrite : Bool} {e : ProfileError}
    {s' : MemoryStore} (h : save k id text overwrite s = (.error e, s')) : s' = s := by
  unfold save at h
  split at h
  · exact (Prod.mk.inj h).2.symm
  · split at h
    · exact (Prod.mk.inj h).2.symm
    · simp at h

theorem delete_eq_ok {k : Kind} {id : String} {s' : MemoryStore} (h : delete k id s = (.ok (), s')) :
    s.contains ⟨k, id⟩ = true ∧ s' = Table.erase ⟨k, id⟩ s := by
  unfold delete at h
  split at h
  · rename_i hc
    exact ⟨hc, (Prod.mk.inj h).2.symm⟩
  · simp at h

theorem delete_eq_error {k : Kind} {id : String} {e : ProfileError} {s' : MemoryStore}
    (h : delete k id s = (.error e, s')) : s' = s := by
  unfold delete at h
  split at h
  · simp at h
  · exact (Prod.mk.inj h).2.symm

/-! ## Content -/

/-- The keys are in order and the ids are valid. -/
structure WellFormed (s : MemoryStore) : Prop where
  sorted : Table.Sorted s
  isValid {key : Key} (h : s.contains key = true) : Id.isValid key.id = true

theorem wellFormed_nil : WellFormed [] where
  sorted := Table.sorted_nil
  isValid h := by simp [Table.contains, Table.get?] at h

theorem wellFormed_of_forall_mem (hsorted : s.Pairwise fun a b => Key.before a.1 b.1 = true)
    (hvalid : ∀ e ∈ s, Id.isValid e.1.id = true) : WellFormed s where
  sorted := hsorted
  isValid hk := by
    obtain ⟨text, he⟩ := Table.contains_iff_mem.1 hk
    exact hvalid _ he

theorem WellFormed.insert (h : WellFormed s) (key : Key) (hid : Id.isValid key.id = true)
    (text : String) : WellFormed (Table.insert key text s) where
  sorted := Table.sorted_insert h.sorted key text
  isValid {k} hk := by
    rw [Table.contains_insert, Bool.or_eq_true, decide_eq_true_eq] at hk
    rcases hk with rfl | hk
    · exact hid
    · exact h.isValid hk

theorem WellFormed.erase (h : WellFormed s) (key : Key) : WellFormed (Table.erase key s) where
  sorted := Table.sorted_erase h.sorted key
  isValid {k} hk := by
    rw [Table.contains_erase, Bool.and_eq_true] at hk
    exact h.isValid hk.2

/-- Every text reads as a profile with the id that it is stored under. -/
structure Consistent (s : MemoryStore) : Prop extends WellFormed s where
  reads {key : Key} {text : String} (h : s.get? key = some text) :
    ∃ p, Profile.parse key.kind text = .ok p ∧ p.trimmedId? = some key.id

theorem consistent_nil : Consistent [] where
  toWellFormed := wellFormed_nil
  reads h := by simp [Table.get?] at h

theorem Consistent.insert (h : Consistent s) (key : Key) {text : String} {p : Profile}
    (hid : Id.isValid key.id = true) (hp : Profile.parse key.kind text = .ok p)
    (hpid : p.trimmedId? = some key.id) : Consistent (Table.insert key text s) where
  toWellFormed := h.toWellFormed.insert key hid text
  reads {k t} hk := by
    rw [Table.get?_insert] at hk
    split at hk
    · rename_i e
      subst e
      obtain rfl := Option.some.inj hk
      exact ⟨p, hp, hpid⟩
    · exact h.reads hk

theorem Consistent.erase (h : Consistent s) (key : Key) : Consistent (Table.erase key s) where
  toWellFormed := h.toWellFormed.erase key
  reads {k t} hk := by
    rw [Table.get?_erase] at hk
    split at hk
    · cases hk
    · exact h.reads hk

theorem Consistent.pipeline (h : Consistent s) {id text : String} (hg : s.get? ⟨.pipeline, id⟩ = some text) :
    ∃ p, Profile.parse .pipeline text = .ok (.pipeline p) ∧ p.id.bind Text.nonBlank? = some id := by
  obtain ⟨q, hq, hid⟩ := h.reads hg
  obtain ⟨hkind, -⟩ := Profile.keeps_of_parse hq
  cases q with
  | pipeline p => exact ⟨p, hq, hid⟩
  | _ => cases hkind

/-! ## Listings -/

/-- The ids of a kind, in the order of the listing. -/
def ids (k : Kind) (s : MemoryStore) : List String := (list k s).map Summary.id

theorem ids_eq (k : Kind) (s : MemoryStore) :
    ids k s = (s.filter fun e => e.1.kind = k).map fun e => e.1.id := by
  simp [ids, list, Summary.ofText]

theorem mem_ids {k : Kind} {id : String} : id ∈ ids k s ↔ s.contains ⟨k, id⟩ = true := by
  rw [ids_eq, Table.contains_iff_mem]
  simp only [List.mem_map, List.mem_filter, decide_eq_true_eq]
  constructor
  · rintro ⟨⟨⟨_, _⟩, text⟩, ⟨he, rfl⟩, rfl⟩
    exact ⟨text, he⟩
  · rintro ⟨text, he⟩
    exact ⟨_, ⟨he, rfl⟩, rfl⟩

theorem sorted_ids (h : Table.Sorted s) (k : Kind) : (ids k s).Pairwise (· < ·) := by
  rw [ids_eq, List.pairwise_map]
  refine (List.Pairwise.filter _ h).imp_of_mem fun {a b} ha hb hab => ?_
  rw [Key.before_iff] at hab
  simp only [List.mem_filter, decide_eq_true_eq] at ha hb
  rcases hab with hlt | ⟨-, hlt⟩
  · rw [ha.2, hb.2] at hlt
    exact absurd hlt (lt_irrefl _)
  · exact hlt

theorem WellFormed.sorted_ids (h : WellFormed s) (k : Kind) : (ids k s).Pairwise (· < ·) :=
  MemoryStore.sorted_ids h.sorted k

/-- The first id of a kind in the listing that is another one. -/
def firstOther? (k : Kind) (id : String) (s : MemoryStore) : Option String :=
  (ids k s).find? (· ≠ id)

theorem firstOther?_erase (k : Kind) (id : String) (s : MemoryStore) :
    firstOther? k id (Table.erase ⟨k, id⟩ s) = firstOther? k id s := by
  rw [firstOther?, firstOther?, ids_eq, ids_eq, Table.erase, List.filter_filter]
  simp only [List.find?_map, List.find?_filter]
  refine congrArg _ (congrArg (List.find? · s) (funext fun e => ?_))
  obtain ⟨⟨j, i⟩, text⟩ := e
  by_cases hj : j = k <;> simp [hj]

theorem firstOther?_eq_none_iff {k : Kind} {id : String} :
    firstOther? k id s = none ↔ ∀ other, s.contains ⟨k, other⟩ = true → other = id := by
  simp [firstOther?, List.find?_eq_none, mem_ids]

/-- The first other id is the least one. -/
theorem WellFormed.firstOther?_eq_some_iff (h : WellFormed s) {k : Kind} {id first : String} :
    firstOther? k id s = some first ↔
      s.contains ⟨k, first⟩ = true ∧ first ≠ id ∧
        ∀ other, s.contains ⟨k, other⟩ = true → other ≠ id → first ≤ other := by
  have hsorted := h.sorted_ids k
  simp only [firstOther?, ← mem_ids]
  generalize ids k s = xs at hsorted
  induction xs with
  | nil => simp
  | cons x rest ih =>
    obtain ⟨hx, hrest⟩ := List.pairwise_cons.1 hsorted
    by_cases hxid : x = id
    · subst hxid
      rw [List.find?_cons_of_neg (by simp)]
      refine (ih hrest).trans ?_
      constructor
      · rintro ⟨hmem, hne, hle⟩
        exact ⟨List.mem_cons_of_mem _ hmem, hne, fun other ho hne' =>
          hle other ((List.mem_cons.1 ho).resolve_left hne') hne'⟩
      · rintro ⟨hmem, hne, hle⟩
        exact ⟨(List.mem_cons.1 hmem).resolve_left hne, hne, fun other ho =>
          hle other (List.mem_cons_of_mem _ ho)⟩
    · rw [List.find?_cons_of_pos (by simpa using hxid), Option.some.injEq]
      constructor
      · rintro rfl
        refine ⟨by simp, hxid, fun other ho _ => ?_⟩
        rcases List.mem_cons.1 ho with rfl | ho
        · exact le_rfl
        · exact (hx other ho).le
      · rintro ⟨hmem, -, hle⟩
        rcases List.mem_cons.1 hmem with rfl | hmem
        · rfl
        · exact absurd (hx first hmem) (not_lt.2 (hle x (by simp) hxid))

theorem WellFormed.isValid_firstOther? (h : WellFormed s) {k : Kind} {id first : String}
    (hfirst : firstOther? k id s = some first) : Id.isValid first = true :=
  h.isValid (h.firstOther?_eq_some_iff.1 hfirst).1

end MemoryStore
end ProfileKit

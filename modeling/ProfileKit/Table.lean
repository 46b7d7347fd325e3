/-!
# Sorted tables

A table is a list of entries in increasing order of their keys, each key once. Looking up is plain
search, so the laws of a table do not depend on its order; the order only shows when the entries are
listed.

A table stands for each of the maps of glossa-core that are kept in the order of their keys:
`document::ExtraFields`, `sync::Mapping`, the profiles of `MemoryProfileStore`, what `FieldCache`
remembers, and the ids and chunk types of `ReferenceIndex`.
-/

namespace ProfileKit

/-- Keys that entries can be ordered by. -/
class SortKey (κ : Type) where
  before : κ → κ → Bool

instance : SortKey String := ⟨fun a b => decide (a < b)⟩

/-- Entries in increasing order of their keys. -/
abbrev Table (κ α : Type) := List (κ × α)

namespace Table

variable {κ α : Type}

/-- The value under a key. -/
def get? [DecidableEq κ] (key : κ) : Table κ α → Option α
  | [] => none
  | (k, v) :: rest => if k = key then some v else get? key rest

def contains [DecidableEq κ] (t : Table κ α) (key : κ) : Bool := (t.get? key).isSome

/-- Puts a value under a key, in its place by the order of the keys. -/
def insert [DecidableEq κ] [SortKey κ] (key : κ) (value : α) : Table κ α → Table κ α
  | [] => [(key, value)]
  | (k, v) :: rest =>
    if k = key then (key, value) :: rest
    else if SortKey.before key k then (key, value) :: (k, v) :: rest
    else (k, v) :: insert key value rest

/-- Removes a key. -/
def erase [DecidableEq κ] (key : κ) (t : Table κ α) : Table κ α := t.filter fun e => e.1 ≠ key

/-- Puts a value under a key, or removes the key. -/
def put [DecidableEq κ] [SortKey κ] (t : Table κ α) (key : κ) : Option α → Table κ α
  | some v => t.insert key v
  | none => t.erase key

/-- The table of a list of entries, of which the last one counts for its key. -/
def ofList [DecidableEq κ] [SortKey κ] (entries : List (κ × α)) : Table κ α :=
  entries.foldl (fun t e => t.insert e.1 e.2) []

def keys (t : Table κ α) : List κ := t.map Prod.fst

/-- Keys stand in increasing order. -/
def Sorted [SortKey κ] (t : Table κ α) : Prop :=
  t.Pairwise fun a b => SortKey.before a.1 b.1 = true

theorem get?_insert [DecidableEq κ] [SortKey κ] (key k : κ) (value : α) (t : Table κ α) :
    (t.insert key value).get? k = if key = k then some value else t.get? k := by
  induction t with
  | nil => simp [insert, get?]
  | cons e rest ih => grind [insert, get?]

theorem get?_erase [DecidableEq κ] (key k : κ) (t : Table κ α) :
    (t.erase key).get? k = if key = k then none else t.get? k := by
  induction t with
  | nil => simp [erase, get?]
  | cons e rest ih =>
    obtain ⟨j, v⟩ := e
    simp only [erase] at ih
    by_cases hj : j = key
    · by_cases hk : key = k
      · subst hk; simpa [erase, get?, hj] using ih
      · simpa [erase, get?, hj, hk] using ih
    · by_cases hk : j = k
      · subst hk
        simp [erase, get?, hj, Ne.symm hj]
      · simpa [erase, get?, hj, hk] using ih

theorem get?_put [DecidableEq κ] [SortKey κ] (t : Table κ α) (key k : κ) (value : Option α) :
    (t.put key value).get? k = if key = k then value else t.get? k := by
  cases value with
  | none => exact get?_erase key k t
  | some v => exact get?_insert key k v t

end Table
end ProfileKit

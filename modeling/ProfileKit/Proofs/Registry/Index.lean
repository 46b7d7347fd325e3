import ProfileKit.Proofs.Check.Index
import ProfileKit.Proofs.Store.Memory
import ProfileKit.Registry

/-!
# The index of a store in memory

`Registry.index` lists every kind and loads the chunk profiles; on a well-formed store in memory it always
succeeds, and it is a fold over the entries (`MemoryStore.eval_index`). What it knows about a kind depends
on the entries of that kind alone (`MemoryStore.contains_index_congr`). In a consistent store an id is known
exactly if it is stored, and a chunk type is the one of the stored text (`MemoryStore.Consistent`).
-/

namespace ProfileKit

namespace MemoryStore

variable {s t : MemoryStore}

/-! ## Entries -/

/-- Adds an entry to an index. -/
def insertEntry (x : ReferenceIndex) (e : Key × String) : ReferenceIndex :=
  if e.1.kind = .chunk then
    match Profile.parse .chunk e.2 with
    | .ok p => x.insertProfile p
    | .error _ => x.insert .chunk e.1.id
  else x.insert e.1.kind e.1.id

/-- The key under which an entry is known: for a chunk profile that reads, it is the id in the text. -/
def knownAs (e : Key × String) : Option Key :=
  if e.1.kind = .chunk then
    match Profile.parse .chunk e.2 with
    | .ok p => p.trimmedId?.map (Key.mk .chunk)
    | .error _ => some e.1
  else some e.1

theorem kind_of_knownAs {e : Key × String} {key : Key} (h : knownAs e = some key) :
    key.kind = e.1.kind := by
  unfold knownAs at h
  split at h
  · rename_i hk
    split at h
    · obtain ⟨id, -, rfl⟩ := Option.map_eq_some_iff.1 h
      exact hk.symm
    · exact congrArg Key.kind (Option.some.inj h).symm
  · exact congrArg Key.kind (Option.some.inj h).symm

theorem contains_insertEntry (x : ReferenceIndex) (e : Key × String) (k : Kind) (id : String) :
    (insertEntry x e).contains k id = (decide (knownAs e = some ⟨k, id⟩) || x.contains k id) := by
  obtain ⟨⟨j, i⟩, text⟩ := e
  unfold insertEntry knownAs
  by_cases hj : j = .chunk
  · subst hj
    simp only [if_true]
    cases hp : Profile.parse .chunk text with
    | error e => simp [ReferenceIndex.contains_insert]
    | ok p =>
      obtain ⟨hkind, -⟩ := Profile.keeps_of_parse hp
      rw [ReferenceIndex.contains_insertProfile, hkind]
      cases hid : p.trimmedId? with
      | none => simp [hid]
      | some i => simp [hid, and_comm]
  · simp [hj, ReferenceIndex.contains_insert]

/-- The id and the type of a chunk profile that reads. -/
def typed? (e : Key × String) : Option (String × ChunkType) :=
  if e.1.kind = .chunk then
    match Profile.parse .chunk e.2 with
    | .ok (.chunk c) =>
      match (Profile.chunk c).trimmedId?, c.type? with
      | some id, some type => some (id, type)
      | _, _ => none
    | _ => none
  else none

/-- Adds an entry to a table of chunk types. -/
def insertType (types : Table String ChunkType) (e : Key × String) : Table String ChunkType :=
  match typed? e with
  | some (id, type) => types.insert id type
  | none => types

theorem chunkTypes_insertEntry (x : ReferenceIndex) (e : Key × String) :
    (insertEntry x e).chunkTypes = insertType x.chunkTypes e := by
  obtain ⟨⟨j, i⟩, text⟩ := e
  unfold insertEntry insertType typed?
  by_cases hj : j = .chunk
  · subst hj
    simp only [if_true]
    cases hp : Profile.parse .chunk text with
    | error e => rfl
    | ok p =>
      obtain ⟨hkind, -⟩ := Profile.keeps_of_parse hp
      cases p with
      | chunk c =>
        simp only [ReferenceIndex.insertProfile]
        cases (Profile.chunk c).trimmedId? with
        | none => rfl
        | some id => cases c.type? <;> rfl
      | _ => cases hkind
  · simp [hj, ReferenceIndex.insert]

/-! ## Folds of entries -/

/-- What is known after adding entries in turn, if adding an entry makes one key known. -/
theorem contains_foldl {add : ReferenceIndex → Key × String → ReferenceIndex}
    {known : Key × String → Option Key} {k : Kind} {id : String}
    (hadd : ∀ x e, (add x e).contains k id = (decide (known e = some ⟨k, id⟩) || x.contains k id))
    (es : List (Key × String)) (x : ReferenceIndex) :
    (es.foldl add x).contains k id =
      (x.contains k id || es.any fun e => decide (known e = some ⟨k, id⟩)) := by
  induction es generalizing x with
  | nil => simp
  | cons e rest ih =>
    rw [List.foldl_cons, ih, hadd, List.any_cons]
    rw [Bool.or_assoc, Bool.or_left_comm]

theorem chunkTypes_foldl_insertEntry (es : List (Key × String)) (x : ReferenceIndex) :
    (es.foldl insertEntry x).chunkTypes = es.foldl insertType x.chunkTypes := by
  induction es generalizing x with
  | nil => rfl
  | cons e rest ih => rw [List.foldl_cons, ih, chunkTypes_insertEntry, List.foldl_cons]

/-- Only the chunk profiles add to the chunk types. -/
theorem foldl_insertType_filter (es : List (Key × String)) (types : Table String ChunkType) :
    (es.filter fun e => e.1.kind = .chunk).foldl insertType types = es.foldl insertType types := by
  induction es generalizing types with
  | nil => rfl
  | cons e rest ih =>
    by_cases he : e.1.kind = .chunk
    · rw [List.filter_cons_of_pos (by simpa using he), List.foldl_cons, List.foldl_cons, ih]
    · have hsame : insertType types e = types := by simp [insertType, typed?, he]
      rw [List.filter_cons_of_neg (by simpa using he), List.foldl_cons, hsame, ih]

/-! ## The index -/

/-- The entries of a store, kind by kind. -/
def entries (s : MemoryStore) : List (Key × String) :=
  Kind.all.flatMap fun k => s.filter fun e => e.1.kind = k

theorem mem_entries {e : Key × String} : e ∈ entries s ↔ e ∈ s := by
  simp [entries, Kind.mem_all]

theorem filter_entries_chunk :
    ((entries s).filter fun e => e.1.kind = .chunk) = s.filter fun e => e.1.kind = .chunk := by
  have hno : ∀ k ∈ Kind.all, k ≠ .chunk →
      ((s.filter fun e => e.1.kind = k).filter fun e => decide (e.1.kind = .chunk)) = [] := by
    intro k _ hk
    rw [List.filter_filter, List.filter_eq_nil_iff]
    intro e _
    simp only [Bool.and_eq_true, decide_eq_true_eq, not_and]
    exact fun he he' => hk (he'.symm.trans he)
  simp only [entries, Kind.all, List.flatMap_cons, List.flatMap_nil, List.filter_append, List.append_nil]
  rw [hno .api (by decide) (by decide), hno .pipeline (by decide) (by decide),
    hno .prompt (by decide) (by decide), hno .parser (by decide) (by decide),
    hno .policy (by decide) (by decide), List.filter_filter]
  simp

/-- The index of a store. -/
def index (s : MemoryStore) : ReferenceIndex := (entries s).foldl insertEntry .empty

/-- The registry of a store in memory. -/
def registry (strict : Bool) : Registry MemoryStore := ⟨store, strict⟩

theorem eval_indexSummary (h : s.WellFormed) (strict : Bool) {e : Key × String} (he : e ∈ s)
    (x : ReferenceIndex) :
    ((registry strict).indexSummary e.1.kind x (Summary.ofText e.1.kind e.1.id e.2)).eval s =
      (.ok (insertEntry x e), s) := by
  obtain ⟨⟨j, i⟩, text⟩ := e
  have hg : s.get? ⟨j, i⟩ = some text := (Table.get?_eq_some_iff h.sorted).2 he
  simp only [Registry.indexSummary, registry, insertEntry, Summary.ofText]
  by_cases hj : j = .chunk
  · subst hj
    simp only [if_true, Action.eval_bind, Action.eval_attempt, eval_load, load, hg, StoredProfile.ofText]
    cases Profile.parse .chunk text <;> simp [Except.map]
  · simp [hj]

theorem eval_foldlM_indexSummary (h : s.WellFormed) (strict : Bool) (k : Kind) (es : List (Key × String))
    (hes : ∀ e ∈ es, e ∈ s ∧ e.1.kind = k) (x : ReferenceIndex) :
    ((es.map fun e => Summary.ofText k e.1.id e.2).foldlM ((registry strict).indexSummary k) x).eval s =
      (.ok (es.foldl insertEntry x), s) := by
  induction es generalizing x with
  | nil => rfl
  | cons e rest ih =>
    obtain ⟨he, rfl⟩ := hes e (by simp)
    simp only [List.map_cons, List.foldlM_cons, Action.eval_bind, eval_indexSummary h strict he]
    exact ih (fun f hf => hes f (by simp [hf])) _

theorem eval_foldlM_indexKind (h : s.WellFormed) (strict : Bool) (ks : List Kind) (x : ReferenceIndex) :
    (ks.foldlM (registry strict).indexKind x).eval s =
      (.ok ((ks.flatMap fun k => s.filter fun e => e.1.kind = k).foldl insertEntry x), s) := by
  induction ks generalizing x with
  | nil => rfl
  | cons k rest ih =>
    have hkind : ((registry strict).indexKind x k).eval s =
        (.ok ((s.filter fun e => e.1.kind = k).foldl insertEntry x), s) := by
      simp only [Registry.indexKind, registry, Action.eval_bind, eval_list]
      exact eval_foldlM_indexSummary h strict k _ (fun e he => by simpa using he) x
    simp only [List.foldlM_cons, Action.eval_bind, hkind]
    rw [ih, List.flatMap_cons, List.foldl_append]

/-- Indexing a store in memory succeeds, and leaves it as it is. -/
theorem eval_index (h : s.WellFormed) (strict : Bool) :
    (registry strict).index.eval s = (.ok (index s), s) :=
  eval_foldlM_indexKind h strict Kind.all .empty

/-! ## What is known -/

theorem contains_index (k : Kind) (id : String) :
    (index s).contains k id = true ↔ ∃ e ∈ s, knownAs e = some ⟨k, id⟩ := by
  rw [index, contains_foldl fun x e => contains_insertEntry x e k id]
  simp [ReferenceIndex.contains, ReferenceIndex.empty, Table.contains, Table.get?, mem_entries]

theorem chunkTypes_index :
    (index s).chunkTypes = (s.filter fun e => e.1.kind = .chunk).foldl insertType [] := by
  rw [index, chunkTypes_foldl_insertEntry, ← foldl_insertType_filter, filter_entries_chunk]
  rfl

/-- What is known about a kind depends on the entries of the kind. -/
theorem contains_index_congr {k : Kind}
    (h : (s.filter fun e => e.1.kind = k) = t.filter fun e => e.1.kind = k) (id : String) :
    (index s).contains k id = (index t).contains k id := by
  rw [Bool.eq_iff_iff, contains_index, contains_index]
  have hmem : ∀ e : Key × String, e.1.kind = k → (e ∈ s ↔ e ∈ t) := fun e he => by
    have := congrArg (e ∈ ·) h
    simpa [he] using this
  constructor
  · rintro ⟨e, he, hk⟩
    exact ⟨e, (hmem e (kind_of_knownAs hk).symm).1 he, hk⟩
  · rintro ⟨e, he, hk⟩
    exact ⟨e, (hmem e (kind_of_knownAs hk).symm).2 he, hk⟩

/-- Which chunk types are known depends on the chunk profiles. -/
theorem chunkTypes_index_congr
    (h : (s.filter fun e => e.1.kind = .chunk) = t.filter fun e => e.1.kind = .chunk) :
    (index s).chunkTypes = (index t).chunkTypes := by
  rw [chunkTypes_index, chunkTypes_index, h]

/-- Profiles that are not chunk profiles are known by the ids that they are stored under. -/
theorem contains_index_of_ne {k : Kind} (hk : k ≠ .chunk) (id : String) :
    (index s).contains k id = s.contains ⟨k, id⟩ := by
  rw [Bool.eq_iff_iff, contains_index, Table.contains_iff_mem]
  constructor
  · rintro ⟨⟨key, text⟩, he, hkey⟩
    have hkind : key.kind ≠ .chunk := (kind_of_knownAs hkey) ▸ hk
    simp only [knownAs, if_neg hkind, Option.some.injEq] at hkey
    exact ⟨text, hkey ▸ he⟩
  · rintro ⟨text, he⟩
    exact ⟨_, he, by simp [knownAs, hk]⟩

/-! ## Consistent stores -/

/-- The type of the chunk profile of a text. -/
def chunkTypeOf? (text : String) : Option ChunkType :=
  match Profile.parse .chunk text with
  | .ok (.chunk c) => c.type?
  | _ => none

theorem Consistent.knownAs (h : s.Consistent) {e : Key × String} (he : e ∈ s) : knownAs e = some e.1 := by
  obtain ⟨⟨j, i⟩, text⟩ := e
  obtain ⟨p, hp, hid⟩ := h.reads ((Table.get?_eq_some_iff h.sorted).2 he)
  unfold MemoryStore.knownAs
  by_cases hj : j = .chunk
  · subst hj
    simp [hp, hid]
  · simp [hj]

theorem Consistent.typed? (h : s.Consistent) {e : Key × String} (he : e ∈ s) :
    typed? e = if e.1.kind = .chunk then (chunkTypeOf? e.2).map (e.1.id, ·) else none := by
  obtain ⟨⟨j, i⟩, text⟩ := e
  obtain ⟨p, hp, hid⟩ := h.reads ((Table.get?_eq_some_iff h.sorted).2 he)
  unfold MemoryStore.typed? chunkTypeOf?
  by_cases hj : j = .chunk
  · subst hj
    obtain ⟨hkind, -⟩ := Profile.keeps_of_parse hp
    cases p with
    | chunk c => cases hc : c.type? <;> simp [hp, hid, hc]
    | _ => cases hkind
  · simp [hj]

/-- In a consistent store the ids that are known are the ones that are stored. -/
theorem Consistent.contains_index (h : s.Consistent) (k : Kind) (id : String) :
    (index s).contains k id = s.contains ⟨k, id⟩ := by
  rw [Bool.eq_iff_iff, MemoryStore.contains_index, Table.contains_iff_mem]
  constructor
  · rintro ⟨⟨key, text⟩, he, hkey⟩
    rw [h.knownAs he] at hkey
    exact ⟨text, Option.some.inj hkey ▸ he⟩
  · rintro ⟨text, he⟩
    exact ⟨_, he, h.knownAs he⟩

/-- Entries with distinct keys are looked up in the table of types that is made of them. -/
theorem get?_foldl_insertType {es : List (Key × String)} (hnodup : (es.map Prod.fst).Nodup)
    (hes : ∀ e ∈ es, e.1.kind = .chunk ∧ typed? e = (chunkTypeOf? e.2).map (e.1.id, ·))
    (types : Table String ChunkType) (id : String) :
    (es.foldl insertType types).get? id =
      ((Table.get? ⟨.chunk, id⟩ es).bind chunkTypeOf?).or (types.get? id) := by
  induction es generalizing types with
  | nil => simp [Table.get?]
  | cons e rest ih =>
    obtain ⟨⟨j, i⟩, text⟩ := e
    rw [List.map_cons, List.nodup_cons] at hnodup
    obtain ⟨hj, htyped⟩ := hes _ (List.mem_cons_self ..)
    obtain rfl : j = .chunk := hj
    rw [List.foldl_cons, ih hnodup.2 (fun e he => hes e (by simp [he])), Table.get?_cons, insertType, htyped]
    by_cases hi : i = id
    · subst hi
      have hnone : Table.get? ⟨.chunk, i⟩ rest = none :=
        Table.get?_eq_none fun e he heq => hnodup.1 (List.mem_map.2 ⟨e, he, heq⟩)
      rw [hnone, if_pos rfl]
      cases hc : chunkTypeOf? text <;> simp [hc, Table.get?_insert]
    · have hne : (⟨.chunk, i⟩ : Key) ≠ ⟨.chunk, id⟩ := fun heq => hi (congrArg Key.id heq)
      rw [if_neg hne]
      cases chunkTypeOf? text <;> simp [Table.get?_insert, hi]

/-- In a consistent store the known type of a chunk profile is the one in its text. -/
theorem Consistent.chunkType?_index (h : s.Consistent) (id : String) :
    (index s).chunkType? id = (s.get? ⟨.chunk, id⟩).bind chunkTypeOf? := by
  have hchunks : ∀ e ∈ s.filter fun e => e.1.kind = .chunk,
      e.1.kind = .chunk ∧ MemoryStore.typed? e = (chunkTypeOf? e.2).map (e.1.id, ·) := by
    intro e he
    simp only [List.mem_filter, decide_eq_true_eq] at he
    exact ⟨he.2, by rw [h.typed? he.1, if_pos he.2]⟩
  have hget : Table.get? ⟨.chunk, id⟩ (s.filter fun e => e.1.kind = .chunk) = s.get? ⟨.chunk, id⟩ :=
    Table.get?_filter (p := fun key : Key => decide (key.kind = .chunk)) (by simp) s
  rw [ReferenceIndex.chunkType?, chunkTypes_index,
    get?_foldl_insertType (Table.nodup_keys (h.sorted.filter _)) hchunks, hget]
  simp [Table.get?]

end MemoryStore
end ProfileKit

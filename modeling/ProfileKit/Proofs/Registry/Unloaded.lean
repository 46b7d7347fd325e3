import ProfileKit.Proofs.Registry.Index
import ProfileKit.Proofs.Store.Unreliable

/-!
# The index of a store that cannot be relied on

Building an index stops where a kind cannot be listed, but not where a chunk profile cannot be loaded: of that
one only the id is known that it is listed under. So what comes out is the index of what the store holds, but
for the chunk profiles that were not loaded (`Registry.eval_index_cases`). Of the other kinds the stored ids are
known. A chunk profile that is loaded is known by the id in its text and not by the one that it is stored under
(`Registry.index_knowsStored`), so one without an id is stored and not known (`Registry.unknown_namelessChunk`).
-/

namespace ProfileKit

namespace MemoryStore

variable {s : MemoryStore} {unloaded other : List String} {es : List (Key × String)}

/-- Adds an entry to an index. Of a chunk profile that was not loaded only the id is known. -/
def insertListed (unloaded : List String) (x : ReferenceIndex) (e : Key × String) : ReferenceIndex :=
  if e.1.kind = .chunk ∧ e.1.id ∈ unloaded then x.insert .chunk e.1.id else insertEntry x e

/-- The index of a store some of whose chunk profiles were not loaded. -/
def indexWithout (unloaded : List String) (s : MemoryStore) : ReferenceIndex :=
  (entries s).foldl (insertListed unloaded) .empty

theorem insertListed_of_loaded {e : Key × String} (h : e.1.kind = .chunk → e.1.id ∉ unloaded)
    (x : ReferenceIndex) : insertListed unloaded x e = insertEntry x e :=
  if_neg fun he => h he.1 he.2

/-- Which chunk profiles were not loaded matters for the entries of those only. -/
theorem foldl_insertListed_congr
    (h : ∀ e ∈ es, e.1.kind = .chunk → (e.1.id ∈ unloaded ↔ e.1.id ∈ other)) (x : ReferenceIndex) :
    es.foldl (insertListed unloaded) x = es.foldl (insertListed other) x := by
  refine List.foldl_ext _ _ x fun y e he => ?_
  unfold insertListed
  by_cases hk : e.1.kind = .chunk
  · simp only [hk, true_and, h e he hk]
  · simp [hk]

theorem foldl_insertListed_of_ne (h : ∀ e ∈ es, e.1.kind ≠ .chunk) (x : ReferenceIndex) :
    es.foldl (insertListed unloaded) x = es.foldl insertEntry x :=
  List.foldl_ext _ _ x fun y e he => insertListed_of_loaded (fun hk => absurd hk (h e he)) y

/-- A chunk profile that does not read is known in the same way when it is loaded. -/
theorem indexWithout_eq_index (h : s.Sorted)
    (hun : ∀ id ∈ unloaded, ∀ loaded, load .chunk id s ≠ .ok loaded) : indexWithout unloaded s = index s := by
  refine List.foldl_ext _ _ _ fun x e he => ?_
  obtain ⟨⟨j, i⟩, text⟩ := e
  unfold insertListed
  split
  · rename_i hk
    obtain ⟨rfl, hi⟩ : j = .chunk ∧ i ∈ unloaded := hk
    have hg : s.get? ⟨.chunk, i⟩ = some text := (Table.get?_eq_some_iff h).2 (mem_entries.1 he)
    simp only [insertEntry, if_true]
    cases hp : Profile.parse .chunk text with
    | error _ => rfl
    | ok p =>
      have hload : load .chunk i s = .ok ⟨p, text⟩ := load_eq_ok_iff.2 ⟨hg, hp⟩
      exact absurd hload (hun i hi _)
  · rfl

/-- The key under which an entry is known when some chunk profiles were not loaded. -/
def knownWithout (unloaded : List String) (e : Key × String) : Option Key :=
  if e.1.kind = .chunk ∧ e.1.id ∈ unloaded then some e.1 else knownAs e

theorem kind_of_knownWithout {e : Key × String} {key : Key} (h : knownWithout unloaded e = some key) :
    key.kind = e.1.kind := by
  unfold knownWithout at h
  split at h
  · exact congrArg Key.kind (Option.some.inj h).symm
  · exact kind_of_knownAs h

theorem knownWithout_of_ne {e : Key × String} (h : e.1.kind ≠ .chunk) : knownWithout unloaded e = some e.1 := by
  simp [knownWithout, knownAs, h]

/-- The id that is known of a chunk profile. -/
theorem knownWithout_chunk {i id text : String} :
    knownWithout unloaded (⟨.chunk, i⟩, text) = some ⟨.chunk, id⟩ ↔
      match Profile.parse .chunk text with
      | .ok p => if i ∈ unloaded then id = i else p.trimmedId? = some id
      | .error _ => id = i := by
  unfold knownWithout knownAs
  by_cases hi : i ∈ unloaded
  · cases Profile.parse .chunk text <;> simp [hi, eq_comm]
  · cases Profile.parse .chunk text with
    | error _ => simp [hi, eq_comm]
    | ok p => simp [hi, Option.map_eq_some_iff]

theorem contains_insertListed (x : ReferenceIndex) (e : Key × String) (k : Kind) (id : String) :
    (insertListed unloaded x e).contains k id =
      (decide (knownWithout unloaded e = some ⟨k, id⟩) || x.contains k id) := by
  obtain ⟨⟨j, i⟩, text⟩ := e
  unfold insertListed knownWithout
  split
  · rename_i hk
    obtain rfl : j = .chunk := hk.1
    simp [ReferenceIndex.contains_insert]
  · exact contains_insertEntry x _ k id

theorem contains_indexWithout (k : Kind) (id : String) :
    (indexWithout unloaded s).contains k id = true ↔ ∃ e ∈ s, knownWithout unloaded e = some ⟨k, id⟩ := by
  rw [indexWithout, contains_foldl fun x e => contains_insertListed x e k id]
  simp [ReferenceIndex.contains, ReferenceIndex.empty, Table.contains, Table.get?, mem_entries]

end MemoryStore

/-! ## Building an index -/

variable {σ : Type} {st : Store σ} {content : σ → MemoryStore}

namespace Store

/-- Lists every kind. -/
def listAll (st : Store σ) (ks : List Kind) : Action σ Unit := forM ks fun k => do let _ ← st.list k

/-- The ids whose chunk profiles could not be loaded, when they are loaded in turn. -/
def failedLoads (st : Store σ) : List String → σ → List String
  | [], _ => []
  | id :: rest, x =>
    match (st.load .chunk id).eval x with
    | (.error _, x') => id :: failedLoads st rest x'
    | (.ok _, x') => failedLoads st rest x'

theorem mem_of_mem_failedLoads {ids : List String} {x : σ} {id : String} (h : id ∈ st.failedLoads ids x) :
    id ∈ ids := by
  induction ids generalizing x with
  | nil => exact h
  | cons i rest ih =>
    unfold failedLoads at h
    split at h
    · exact (List.mem_cons.1 h).elim (fun e => e ▸ List.mem_cons_self) fun h => List.mem_cons_of_mem _ (ih h)
    · exact List.mem_cons_of_mem _ (ih h)

end Store

namespace Registry

open MemoryStore

variable {strict : Bool} {es : List (Key × String)} {x : ReferenceIndex} {y y' : σ}

/-- Adding the chunk profiles of a listing to an index comes to an end, whatever loads fail. -/
theorem eval_foldlM_indexSummary_chunk (hu : Unreliable st content) (strict : Bool) (x : ReferenceIndex)
    (hs : Table.Sorted (content y)) (hes : ∀ e ∈ es, e ∈ content y ∧ e.1.kind = .chunk)
    (hnodup : (es.map fun e => e.1.id).Nodup) :
    ∃ y', ((es.map fun e => Summary.ofText .chunk e.1.id e.2).foldlM
        (indexSummary ⟨st, strict⟩ .chunk) x).eval y =
          (.ok (es.foldl (insertListed (st.failedLoads (es.map fun e => e.1.id) y)) x), y') ∧
      content y' = content y := by
  induction es generalizing x y with
  | nil => exact ⟨y, rfl, rfl⟩
  | cons e rest ih =>
    obtain ⟨⟨j, i⟩, text⟩ := e
    obtain ⟨he, rfl⟩ : _ ∧ j = .chunk := hes _ List.mem_cons_self
    obtain ⟨hi, hrest⟩ := List.nodup_cons.1 hnodup
    have hg : (content y).get? ⟨.chunk, i⟩ = some text := (Table.get?_eq_some_iff hs).2 he
    simp only [List.map_cons, List.foldlM_cons, List.foldl_cons, Action.eval_bind, indexSummary,
      Summary.ofText, if_true, Action.eval_attempt, Store.failedLoads]
    rcases hload : (st.load .chunk i).eval y with ⟨_ | loaded, y₁⟩
    · have hy₁ := hu.load_error hload
      obtain ⟨y', heval, hy'⟩ := ih (x.insert .chunk i) (hy₁ ▸ hs)
        (fun f hf => hy₁ ▸ hes f (List.mem_cons_of_mem _ hf)) hrest
      refine ⟨y', ?_, hy'.trans hy₁⟩
      have hhead : insertListed (i :: st.failedLoads (rest.map fun e => e.1.id) y₁) x (⟨.chunk, i⟩, text) =
          x.insert .chunk i := if_pos ⟨rfl, List.mem_cons_self⟩
      -- The ids are different, so the later entries do not depend on what happened to this one.
      rw [hhead, foldl_insertListed_congr fun f hf _ => List.mem_cons.trans (or_iff_right ?_)]
      · exact heval
      · rintro rfl
        exact hi (List.mem_map.2 ⟨f, hf, rfl⟩)
    · obtain ⟨hy₁, hloaded⟩ := hu.load_ok hload
      obtain ⟨hg', hp⟩ := load_eq_ok_iff.1 hloaded
      obtain rfl : text = loaded.text := Option.some.inj (hg.symm.trans hg')
      obtain ⟨y', heval, hy'⟩ := ih (x.insertProfile loaded.profile) (hy₁ ▸ hs)
        (fun f hf => hy₁ ▸ hes f (List.mem_cons_of_mem _ hf)) hrest
      refine ⟨y', ?_, hy'.trans hy₁⟩
      have hhead : insertListed (st.failedLoads (rest.map fun e => e.1.id) y₁) x (⟨.chunk, i⟩, loaded.text) =
          x.insertProfile loaded.profile := by
        rw [insertListed_of_loaded fun _ hmem => hi (Store.mem_of_mem_failedLoads hmem)]
        simp [insertEntry, hp]
      rw [hhead]
      exact heval

/-- A kind cannot be listed, or it is listed as in memory and its profiles are added in turn. -/
theorem eval_indexKind_cases (hu : Unreliable st content) {k : Kind} {r : Except ProfileError ReferenceIndex}
    (h : (indexKind ⟨st, strict⟩ x k).eval y = (r, y')) :
    (content y' = content y ∧ ∀ idx, r ≠ .ok idx) ∨
      ∃ y₁, (st.list k).eval y = (.ok (list k (content y)), y₁) ∧ content y₁ = content y ∧
        ((list k (content y)).foldlM (indexSummary ⟨st, strict⟩ k) x).eval y₁ = (r, y') := by
  unfold indexKind at h
  rcases Action.eval_bind_cases h with ⟨e, hlist, rfl⟩ | ⟨listed, y₁, hlist, h⟩
  · exact .inl ⟨hu.list_error hlist, nofun⟩
  · obtain ⟨hy₁, rfl⟩ := hu.list_ok hlist
    exact .inr ⟨y₁, hlist, hy₁, h⟩

/-- The profiles of other kinds are not loaded. -/
theorem eval_foldlM_indexSummary_of_ne {k : Kind} (hk : k ≠ .chunk) (hes : ∀ e ∈ es, e.1.kind = k)
    (x : ReferenceIndex) :
    ((es.map fun e => Summary.ofText k e.1.id e.2).foldlM (indexSummary ⟨st, strict⟩ k) x).eval y =
      (.ok (es.foldl insertEntry x), y) := by
  induction es generalizing x with
  | nil => rfl
  | cons e rest ih =>
    obtain rfl : e.1.kind = k := hes e List.mem_cons_self
    have hhead : insertEntry x e = x.insert e.1.kind e.1.id := if_neg hk
    simp only [List.map_cons, List.foldlM_cons, Action.eval_bind, indexSummary, Summary.ofText, if_neg hk,
      Action.eval_pure, List.foldl_cons, hhead]
    exact ih (fun f hf => hes f (List.mem_cons_of_mem _ hf)) _

theorem eval_indexKind_of_ne (hu : Unreliable st content) {k : Kind} (hk : k ≠ .chunk)
    {r : Except ProfileError ReferenceIndex} (h : (indexKind ⟨st, strict⟩ x k).eval y = (r, y')) :
    content y' = content y ∧ ∀ idx, r = .ok idx → (∃ listed, (st.list k).eval y = (.ok listed, y')) ∧
      idx = ((content y).filter fun e => e.1.kind = k).foldl insertEntry x := by
  rcases eval_indexKind_cases hu h with ⟨hy', hno⟩ | ⟨y₁, hlist, hy₁, h⟩
  · exact ⟨hy', fun idx hr => absurd hr (hno idx)⟩
  rw [list, eval_foldlM_indexSummary_of_ne hk fun e he => by simpa using (List.mem_filter.1 he).2] at h
  obtain ⟨rfl, rfl⟩ := Prod.mk.inj h
  exact ⟨hy₁, fun idx hr => ⟨⟨_, hlist⟩, (Except.ok.inj hr).symm⟩⟩

theorem eval_foldlM_indexKind_of_ne (hu : Unreliable st content) {ks : List Kind} (hks : ∀ k ∈ ks, k ≠ .chunk)
    {r : Except ProfileError ReferenceIndex} (h : (ks.foldlM (indexKind ⟨st, strict⟩) x).eval y = (r, y')) :
    content y' = content y ∧ ∀ idx, r = .ok idx → (st.listAll ks).eval y = (.ok (), y') ∧
      idx = (ks.flatMap fun k => (content y).filter fun e => e.1.kind = k).foldl insertEntry x := by
  induction ks generalizing x y with
  | nil =>
    obtain ⟨rfl, rfl⟩ := Prod.mk.inj h
    exact ⟨rfl, fun idx hr => ⟨rfl, (Except.ok.inj hr).symm⟩⟩
  | cons k rest ih =>
    rw [List.foldlM_cons] at h
    rcases Action.eval_bind_cases h with ⟨e, hkind, rfl⟩ | ⟨x₁, y₁, hkind, h⟩
    · exact ⟨(eval_indexKind_of_ne hu (hks k List.mem_cons_self) hkind).1, fun _ hr => nomatch hr⟩
    obtain ⟨hy₁, hok⟩ := eval_indexKind_of_ne hu (hks k List.mem_cons_self) hkind
    obtain ⟨⟨listed, hlist⟩, rfl⟩ := hok x₁ rfl
    obtain ⟨hy', hrest⟩ := ih (fun j hj => hks j (List.mem_cons_of_mem _ hj)) h
    refine ⟨hy'.trans hy₁, fun idx hr => ?_⟩
    obtain ⟨hall, rfl⟩ := hrest idx hr
    constructor
    · simp only [Store.listAll, List.forM_cons, Action.eval_bind, hlist, Action.eval_pure]
      exact hall
    · rw [List.flatMap_cons, List.foldl_append, hy₁]

/-- The chunk profiles are listed, and then loaded in turn. -/
theorem eval_indexKind_chunk (hu : Unreliable st content) (hs : Table.Sorted (content y))
    {r : Except ProfileError ReferenceIndex} (h : (indexKind ⟨st, strict⟩ x .chunk).eval y = (r, y')) :
    content y' = content y ∧ ∀ idx, r = .ok idx → ∃ listed y₁, (st.list .chunk).eval y = (.ok listed, y₁) ∧
      idx = ((content y).filter fun e => e.1.kind = .chunk).foldl
        (insertListed (st.failedLoads (ids .chunk (content y)) y₁)) x := by
  rcases eval_indexKind_cases hu h with ⟨hy', hno⟩ | ⟨y₁, hlist, hy₁, h⟩
  · exact ⟨hy', fun idx hr => absurd hr (hno idx)⟩
  have hnodup : (ids .chunk (content y)).Nodup := (sorted_ids hs .chunk).imp ne_of_lt
  have hchunks : ∀ e ∈ (content y).filter fun e => e.1.kind = .chunk, e ∈ content y₁ ∧ e.1.kind = .chunk :=
    fun e he => by
      rw [hy₁]
      simpa using he
  rw [ids_eq] at hnodup ⊢
  obtain ⟨y₂, heval, hy₂⟩ := eval_foldlM_indexSummary_chunk hu strict x (hy₁ ▸ hs) hchunks hnodup
  obtain ⟨rfl, rfl⟩ := Prod.mk.inj (heval.symm.trans h)
  exact ⟨hy₂.trans hy₁, fun idx hr => ⟨_, y₁, hlist, (Except.ok.inj hr).symm⟩⟩

/-- The kinds whose profiles are not loaded. They come before the chunk profiles. -/
def unloadedKinds : List Kind := [.api, .pipeline, .prompt, .parser, .policy]

theorem ne_chunk_of_mem {k : Kind} (h : k ∈ unloadedKinds) : k ≠ .chunk := by
  rintro rfl
  revert h
  decide

theorem all_eq_append : Kind.all = unloadedKinds ++ [.chunk] := rfl

theorem entries_eq_append (s : MemoryStore) :
    entries s = (unloadedKinds.flatMap fun k => s.filter fun e => e.1.kind = k) ++
      s.filter fun e => e.1.kind = .chunk := by
  simp [entries, all_eq_append]

/-- Building an index does not touch what the store holds. Where it succeeds, every kind was listed, the chunk
profiles last of all, and these were loaded in turn. -/
theorem eval_index_cases (hu : Unreliable st content) (hs : Table.Sorted (content y))
    {r : Except ProfileError ReferenceIndex} (h : (index ⟨st, strict⟩).eval y = (r, y')) :
    content y' = content y ∧ ∀ idx, r = .ok idx → ∃ y₁, (st.listAll Kind.all).eval y = (.ok (), y₁) ∧
      idx = indexWithout (st.failedLoads (ids .chunk (content y)) y₁) (content y) := by
  unfold index at h
  rw [all_eq_append, List.foldlM_append] at h
  rcases Action.eval_bind_cases h with ⟨e, hothers, rfl⟩ | ⟨x₁, y₁, hothers, h⟩
  · exact ⟨(eval_foldlM_indexKind_of_ne hu (fun _ => ne_chunk_of_mem) hothers).1, fun _ hr => nomatch hr⟩
  obtain ⟨hy₁, hok⟩ := eval_foldlM_indexKind_of_ne hu (fun _ => ne_chunk_of_mem) hothers
  obtain ⟨hlisted, rfl⟩ := hok x₁ rfl
  simp only [List.foldlM_cons, List.foldlM_nil, bind_pure] at h
  obtain ⟨hy', hok⟩ := eval_indexKind_chunk hu (hy₁ ▸ hs) h
  refine ⟨hy'.trans hy₁, fun idx hr => ?_⟩
  obtain ⟨listed, y₂, hlist, rfl⟩ := hok idx hr
  refine ⟨y₂, ?_, ?_⟩
  · simp only [Store.listAll, all_eq_append, List.forM_append] at hlisted ⊢
    simp only [Action.eval_bind, hlisted, List.forM_cons, List.forM_nil, hlist, Action.eval_pure]
  · have hno : ∀ e ∈ unloadedKinds.flatMap fun k => (content y).filter fun e => e.1.kind = k,
        e.1.kind ≠ .chunk := fun e he => by
      obtain ⟨k, hk, he⟩ := List.mem_flatMap.1 he
      have hkind : e.1.kind = k := by simpa using (List.mem_filter.1 he).2
      exact hkind ▸ ne_chunk_of_mem hk
    rw [indexWithout, entries_eq_append, List.foldl_append, foldl_insertListed_of_ne hno, hy₁]

/-! ## What is known -/

/-- The ids that are known are those that are stored, but for chunk profiles that were loaded: such a profile is
known by the id in its text, if there is one. -/
structure KnowsStored (st : Store σ) (content : σ → MemoryStore) (y : σ) (x : ReferenceIndex) : Prop where
  others {k : Kind} (hk : k ≠ .chunk) (id : String) : x.contains k id = true ↔ id ∈ ids k (content y)
  chunks : ∃ y₁, (st.listAll Kind.all).eval y = (.ok (), y₁) ∧
    ∀ id, x.contains .chunk id = true ↔ ∃ i text, (content y).get? ⟨.chunk, i⟩ = some text ∧
      match Profile.parse .chunk text with
      | .ok p => if i ∈ st.failedLoads (ids .chunk (content y)) y₁ then id = i else p.trimmedId? = some id
      | .error _ => id = i

/-- Wherever building an index succeeds, that is what the index knows. -/
theorem index_knowsStored (hu : Unreliable st content) (hs : Table.Sorted (content y)) {x : ReferenceIndex}
    (h : (index ⟨st, strict⟩).eval y = (.ok x, y')) : KnowsStored st content y x := by
  obtain ⟨-, hok⟩ := eval_index_cases hu hs h
  obtain ⟨y₁, hlisted, rfl⟩ := hok x rfl
  refine ⟨fun {k} hk id => ?_, y₁, hlisted, fun id => ?_⟩
  · rw [contains_indexWithout, mem_ids, Table.contains_iff_mem]
    constructor
    · rintro ⟨⟨key, text⟩, he, hknown⟩
      have hkey : key.kind ≠ .chunk := kind_of_knownWithout hknown ▸ hk
      rw [knownWithout_of_ne hkey] at hknown
      exact ⟨text, Option.some.inj hknown ▸ he⟩
    · rintro ⟨text, he⟩
      exact ⟨_, he, knownWithout_of_ne hk⟩
  · rw [contains_indexWithout]
    constructor
    · rintro ⟨⟨⟨j, i⟩, text⟩, he, hknown⟩
      obtain rfl : .chunk = j := kind_of_knownWithout hknown
      exact ⟨i, text, (Table.get?_eq_some_iff hs).2 he, knownWithout_chunk.1 hknown⟩
    · rintro ⟨i, text, hg, hknown⟩
      exact ⟨_, Table.mem_of_get? hg, knownWithout_chunk.2 hknown⟩

/-- A chunk profile without an id in its text. -/
def namelessChunk : MemoryStore := [(⟨.chunk, "c"⟩, "name: C\n")]

theorem index_knowsStored_namelessChunk :
    (index (registry false)).eval namelessChunk = (.ok .empty, namelessChunk) ∧
      Table.Sorted namelessChunk ∧ KnowsStored MemoryStore.store id namelessChunk .empty := by
  have h : (index (registry false)).eval namelessChunk = (.ok .empty, namelessChunk) := by decide +kernel
  have hs : Table.Sorted namelessChunk := by unfold Table.Sorted; decide
  exact ⟨h, hs, index_knowsStored unreliable_store hs h⟩

/-- It is listed under its id, which is not known. -/
theorem unknown_namelessChunk :
    ∃ x, (index (registry false)).eval namelessChunk = (.ok x, namelessChunk) ∧
      (MemoryStore.store.list .chunk).eval namelessChunk = (.ok [⟨"c", some "C"⟩], namelessChunk) ∧
      x.contains .chunk "c" = false ∧ x.ids .chunk = [] :=
  ⟨.empty, by decide +kernel, by decide +kernel, by decide, by decide⟩

end Registry
end ProfileKit

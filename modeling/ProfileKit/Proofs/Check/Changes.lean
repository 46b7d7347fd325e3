import ProfileKit.Proofs.Check.Index

/-!
# An index under changes

An index is kept up to date by inserting and removing single profiles. What is *present* under a key after a
list of changes is said apart from any index: the profile of the last insertion under the key, unless a removal
came after it (`Change.IsPresent`).

An index that is kept up to date contains the keys of the profiles present, as an index built anew from them
does (`contains_ofChanges`, `contains_ofProfiles_of_isPresent`). Types are another matter: an insertion without
a type leaves the type of the profile it replaces, so the last insertion *that tells a type* decides
(`chunkType?_ofChanges`), not the last one. `ReferenceIndex.ofChanges_agrees_iff` puts this together: both
indexes answer alike, but for the type of a chunk profile that is present without one and has replaced one
with a type (`Change.LeavesType`).
-/

namespace ProfileKit

namespace Profile

/-- The key that a profile is known under, if it has an id. -/
def key? (p : Profile) : Option Key := p.trimmedId?.map (Key.mk p.kind)

/-- The type of a chunk profile, if it is known. -/
def chunkType? : Profile → Option ChunkType
  | .chunk c => c.type?
  | _ => none

theorem key?_eq_some_iff {p : Profile} {k : Kind} {id : String} :
    p.key? = some ⟨k, id⟩ ↔ p.kind = k ∧ p.trimmedId? = some id := by
  cases h : p.trimmedId? <;> simp [key?, h]

end Profile

/-- A change of an index. -/
inductive Change where
  | insert (p : Profile)
  | remove (k : Kind) (id : String)
deriving DecidableEq, Repr

namespace Change

/-- The key that a change is about. A profile without an id changes nothing. -/
def key? : Change → Option Key
  | insert p => p.key?
  | remove k id => some ⟨k, id⟩

/-- The type of the profile inserted. -/
def chunkType? : Change → Option ChunkType
  | insert p => p.chunkType?
  | remove .. => none

def isInsert : Change → Bool
  | insert _ => true
  | remove .. => false

/-- The last of the changes that pass a test. -/
def last? (test : Change → Bool) (cs : List Change) : Option Change := (cs.filter test).getLast?

/-- The last change about a key. -/
def lastAbout? (key : Key) (cs : List Change) : Option Change := last? (fun c => c.key? = some key) cs

/-- A change after which the type of a chunk profile is another one or none: a removal, or an insertion of a
profile that has a type. -/
def decidesType (id : String) (c : Change) : Bool :=
  c.key? = some ⟨.chunk, id⟩ && (!c.isInsert || c.chunkType?.isSome)

/-- A profile is there under a key: it was inserted under it, and the key was not changed since. -/
def IsPresent (cs : List Change) (key : Key) (p : Profile) : Prop := lastAbout? key cs = some (.insert p)

instance {cs : List Change} {key : Key} {p : Profile} : Decidable (IsPresent cs key p) :=
  inferInstanceAs (Decidable (lastAbout? key cs = some (.insert p)))

/-- The profiles present under some key. -/
def present (cs : List Change) : List Profile :=
  cs.filterMap fun
    | insert p => if p.key?.bind (lastAbout? · cs) = some (insert p) then some p else none
    | remove .. => none

/-- The chunk profile present under an id has no type, but replaced one that had, with no removal in between. -/
def LeavesType (cs : List Change) (id : String) : Prop :=
  (∃ p, IsPresent cs ⟨.chunk, id⟩ p ∧ p.chunkType? = none) ∧
    ∃ p, last? (decidesType id) cs = some (.insert p)

variable {test : Change → Bool} {cs : List Change} {c : Change} {key : Key} {id : String} {p : Profile}

/-! ## The last change that passes a test -/

theorem last?_concat : last? test (cs ++ [c]) = if test c then some c else last? test cs := by
  cases h : test c <;> simp [last?, List.filter_append, h]

theorem mem_of_last? (h : last? test cs = some c) : c ∈ cs ∧ test c = true :=
  List.mem_filter.1 (List.mem_of_getLast? h)

theorem exists_last?_of_mem (hc : c ∈ cs) (ht : test c = true) : ∃ d, last? test cs = some d :=
  ⟨_, List.getLast?_eq_some_getLast (List.ne_nil_of_mem (List.mem_filter.2 ⟨hc, ht⟩))⟩

/-- If the last change that passes a test passes a stronger one, it is the last one to do so. -/
theorem last?_eq_some_of_imp {stronger : Change → Bool} (himp : ∀ d, stronger d = true → test d = true)
    (hlast : last? test cs = some c) (hc : stronger c = true) : last? stronger cs = some c := by
  induction cs using List.reverseRecOn with
  | nil => simp [last?] at hlast
  | append_singleton cs d ih =>
    rw [last?_concat] at hlast ⊢
    split at hlast
    · obtain rfl := Option.some.inj hlast
      simp [hc]
    · rename_i hd
      rw [if_neg (fun h => hd (himp d h)), ih hlast]

/-- The last of some insertions. -/
theorem exists_mem_of_last?_map {docs : List Profile} (h : last? test (docs.map .insert) = some c) :
    ∃ p ∈ docs, c = .insert p ∧ test (.insert p) = true := by
  obtain ⟨hmem, htest⟩ := mem_of_last? h
  obtain ⟨p, hp, rfl⟩ := List.mem_map.1 hmem
  exact ⟨p, hp, rfl, htest⟩

theorem key?_of_decidesType (h : decidesType id c = true) : c.key? = some ⟨.chunk, id⟩ := by
  simp only [decidesType, Bool.and_eq_true, decide_eq_true_eq] at h
  exact h.1

/-! ## What is present -/

theorem IsPresent.key?_eq (h : IsPresent cs key p) : p.key? = some key :=
  of_decide_eq_true (mem_of_last? h).2

theorem IsPresent.eq {q : Profile} (h : IsPresent cs key p) (h' : IsPresent cs key q) : p = q := by
  rw [IsPresent, h] at h'
  simpa using h'

theorem mem_present : p ∈ present cs ↔ ∃ key, IsPresent cs key p := by
  simp only [present, List.mem_filterMap]
  constructor
  · rintro ⟨c, -, hc⟩
    cases c with
    | remove => cases hc
    | insert q =>
      simp only [Option.ite_none_right_eq_some, Option.some.injEq] at hc
      obtain ⟨hlast, rfl⟩ := hc
      obtain ⟨key, -, hkey⟩ := Option.bind_eq_some_iff.1 hlast
      exact ⟨key, hkey⟩
  · rintro ⟨key, hp⟩
    refine ⟨.insert p, (mem_of_last? hp).1, ?_⟩
    have hlast : lastAbout? key cs = some (.insert p) := hp
    simp [hp.key?_eq, hlast]

end Change

namespace ReferenceIndex

open Change (IsPresent LeavesType decidesType isInsert last? lastAbout? last?_concat mem_of_last?
  exists_last?_of_mem last?_eq_some_of_imp exists_mem_of_last?_map)

/-- One change. -/
def change (x : ReferenceIndex) : Change → ReferenceIndex
  | .insert p => x.insertProfile p
  | .remove k id => x.remove k id

/-- The index after a list of changes, from nothing known. -/
def ofChanges (cs : List Change) : ReferenceIndex := cs.foldl change empty

variable {x : ReferenceIndex} {cs : List Change} {c : Change} {k : Kind} {id : String} {docs : List Profile}

theorem ofChanges_concat : ofChanges (cs ++ [c]) = (ofChanges cs).change c := by
  simp [ofChanges]

/-- To build an index is to insert every profile. -/
theorem ofProfiles_eq_ofChanges : ofProfiles docs = ofChanges (docs.map .insert) := by
  simp only [ofProfiles, ofChanges, List.foldl_map, change]

/-! ## One change -/

theorem contains_remove (j : Kind) (i : String) :
    (x.remove j i).contains k id = (!decide (j = k ∧ i = id) && x.contains k id) := by
  simp only [contains, remove, Table.contains_erase, Key.mk.injEq]

theorem contains_change :
    (x.change c).contains k id = if c.key? = some ⟨k, id⟩ then c.isInsert else x.contains k id := by
  cases c with
  | insert p =>
    simp only [change, contains_insertProfile, Change.key?, Profile.key?_eq_some_iff, isInsert]
    by_cases h : p.kind = k ∧ p.trimmedId? = some id <;> simp [h]
  | remove j i =>
    simp only [change, contains_remove, Change.key?, Option.some.injEq, Key.mk.injEq, isInsert]
    by_cases h : j = k ∧ i = id <;> simp [h]

theorem chunkType?_insertProfile (x : ReferenceIndex) (p : Profile) :
    (x.insertProfile p).chunkType? id =
      if p.key? = some ⟨.chunk, id⟩ then p.chunkType?.or (x.chunkType? id) else x.chunkType? id := by
  simp only [Profile.key?_eq_some_iff]
  unfold insertProfile
  cases hid : p.trimmedId? with
  | none => simp
  | some i =>
    cases p with
    | chunk p =>
      cases ht : p.type? <;> by_cases hi : i = id <;>
        simp [ht, hi, chunkType?, insert, insertChunk, Table.get?_insert, Profile.kind, Profile.chunkType?]
    | _ => simp [Profile.kind, chunkType?, insert]

theorem chunkType?_remove (j : Kind) (i : String) :
    (x.remove j i).chunkType? id = if j = .chunk ∧ i = id then none else x.chunkType? id := by
  by_cases hj : j = .chunk <;> simp [chunkType?, remove, hj, Table.get?_erase]

theorem chunkType?_change :
    (x.change c).chunkType? id = if decidesType id c then c.chunkType? else x.chunkType? id := by
  cases c with
  | insert p =>
    simp only [change, chunkType?_insertProfile, decidesType, Change.key?, Change.chunkType?, isInsert]
    by_cases h : p.key? = some ⟨.chunk, id⟩
    · simp only [h, decide_true, Bool.not_true, Bool.false_or, Bool.true_and, if_true]
      cases p.chunkType? <;> rfl
    · simp [h]
  | remove j i =>
    simp only [change, chunkType?_remove, decidesType, Change.key?, Change.chunkType?, isInsert]
    by_cases h : j = .chunk ∧ i = id <;> simp [h]

/-! ## A list of changes -/

/-- A key is contained if the last change about it is an insertion. -/
theorem contains_ofChanges :
    (ofChanges cs).contains k id = true ↔ ∃ p, IsPresent cs ⟨k, id⟩ p := by
  -- The last change is looked at first: it decides, or what was there before it stays.
  induction cs using List.reverseRecOn with
  | nil => simp [ofChanges, contains, empty, Table.contains, Table.get?, IsPresent, lastAbout?, last?]
  | append_singleton cs c ih =>
    simp only [IsPresent, lastAbout?] at ih
    simp only [ofChanges_concat, contains_change, IsPresent, lastAbout?, last?_concat, decide_eq_true_eq]
    split
    · cases c <;> simp [isInsert]
    · exact ih

/-- The type of a chunk profile is told by the last change that decides it. -/
theorem chunkType?_ofChanges :
    (ofChanges cs).chunkType? id = (last? (decidesType id) cs).bind Change.chunkType? := by
  induction cs using List.reverseRecOn with
  | nil => rfl
  | append_singleton cs c ih =>
    rw [ofChanges_concat, chunkType?_change, last?_concat, ih]
    split <;> rfl

/-! ## The index built anew -/

section Present

variable (hdocs : ∀ p, p ∈ docs ↔ ∃ key, IsPresent cs key p)
include hdocs

theorem isPresent_iff_mem {key : Key} {p : Profile} : IsPresent cs key p ↔ p ∈ docs ∧ p.key? = some key := by
  rw [hdocs]
  constructor
  · exact fun h => ⟨⟨key, h⟩, h.key?_eq⟩
  · rintro ⟨⟨key', h⟩, hkey⟩
    obtain rfl : key' = key := by simpa [h.key?_eq] using hkey
    exact h

/-- An index built anew from the profiles present contains their keys, as the index kept up to date does. -/
theorem contains_ofProfiles_of_isPresent : (ofProfiles docs).contains k id = (ofChanges cs).contains k id := by
  rw [Bool.eq_iff_iff, ofProfiles_eq_ofChanges, contains_ofChanges, contains_ofChanges]
  constructor
  · rintro ⟨p, hlast⟩
    obtain ⟨q, hq, heq, -⟩ := exists_mem_of_last?_map hlast
    obtain rfl : p = q := by simpa using heq
    exact ⟨p, (isPresent_iff_mem hdocs).2 ⟨hq, hlast.key?_eq⟩⟩
  · rintro ⟨p, hp⟩
    obtain ⟨hmem, hkey⟩ := (isPresent_iff_mem hdocs).1 hp
    obtain ⟨c, hlast⟩ : ∃ c, lastAbout? ⟨k, id⟩ (docs.map .insert) = some c :=
      exists_last?_of_mem (List.mem_map_of_mem hmem) (decide_eq_true hkey)
    obtain ⟨q, -, rfl, -⟩ := exists_mem_of_last?_map hlast
    exact ⟨q, hlast⟩

/-- An index built anew from the profiles present tells the types of these, and no others. -/
theorem chunkType?_ofProfiles_of_isPresent {t : ChunkType} :
    (ofProfiles docs).chunkType? id = some t ↔
      ∃ p, IsPresent cs ⟨.chunk, id⟩ p ∧ p.chunkType? = some t := by
  rw [ofProfiles_eq_ofChanges, chunkType?_ofChanges, Option.bind_eq_some_iff]
  constructor
  · rintro ⟨c, hlast, ht⟩
    obtain ⟨p, hp, rfl, htest⟩ := exists_mem_of_last?_map hlast
    exact ⟨p, (isPresent_iff_mem hdocs).2 ⟨hp, Change.key?_of_decidesType htest⟩, ht⟩
  · rintro ⟨p, hpresent, ht⟩
    obtain ⟨hp, hkey⟩ := (isPresent_iff_mem hdocs).1 hpresent
    have hdecides : decidesType id (.insert p) = true := by
      simp [decidesType, Change.key?, hkey, Change.chunkType?, ht]
    obtain ⟨c, hlast⟩ := exists_last?_of_mem (List.mem_map_of_mem hp) hdecides
    obtain ⟨q, hq, rfl, htest⟩ := exists_mem_of_last?_map hlast
    -- All profiles present under one key are one profile, so the last of them is `p`.
    have hq' : IsPresent cs ⟨.chunk, id⟩ q :=
      (isPresent_iff_mem hdocs).2 ⟨hq, Change.key?_of_decidesType htest⟩
    obtain rfl := hpresent.eq hq'
    exact ⟨_, hlast, ht⟩

end Present

/-- The index kept up to date tells the type of the profile present, unless this has no type and replaced one
that had. -/
theorem chunkType?_ofChanges_eq_some_iff (hleaves : ¬ LeavesType cs id) {t : ChunkType} :
    (ofChanges cs).chunkType? id = some t ↔
      ∃ p, IsPresent cs ⟨.chunk, id⟩ p ∧ p.chunkType? = some t := by
  have hdecides : ∀ d, decidesType id d = true → decide (d.key? = some ⟨.chunk, id⟩) = true := fun d h =>
    decide_eq_true (Change.key?_of_decidesType h)
  rw [chunkType?_ofChanges, Option.bind_eq_some_iff]
  constructor
  · rintro ⟨c, hlast, ht⟩
    cases c with
    | remove => cases ht
    | insert p =>
      obtain ⟨hmem, htest⟩ := mem_of_last? hlast
      obtain ⟨d, habout⟩ : ∃ d, lastAbout? ⟨.chunk, id⟩ cs = some d :=
        exists_last?_of_mem hmem (hdecides _ htest)
      -- The last change about the id decides its type, so it is the change found.
      have hd : decidesType id d = true := by
        by_contra hd
        have hkey := of_decide_eq_true (mem_of_last? habout).2
        cases d with
        | remove => simp [decidesType, hkey, isInsert] at hd
        | insert q =>
          have hnone : q.chunkType? = none := by simpa [decidesType, hkey, isInsert, Change.chunkType?] using hd
          exact hleaves ⟨⟨q, habout, hnone⟩, p, hlast⟩
      rw [last?_eq_some_of_imp hdecides habout hd] at hlast
      obtain rfl := Option.some.inj hlast
      exact ⟨p, habout, ht⟩
  · rintro ⟨p, hp, ht⟩
    have hd : decidesType id (.insert p) = true := by
      simp [decidesType, Change.key?, hp.key?_eq, Change.chunkType?, ht]
    exact ⟨_, last?_eq_some_of_imp hdecides hp hd, ht⟩

/-- A type left behind is the type of a profile that is not there any more. -/
theorem chunkType?_ofChanges_of_leavesType (hleaves : LeavesType cs id) :
    ∃ t, (ofChanges cs).chunkType? id = some t := by
  obtain ⟨-, p, hlast⟩ := hleaves
  have hsome : p.chunkType?.isSome = true := by
    have htest := (mem_of_last? hlast).2
    simp only [decidesType, isInsert, Bool.not_true, Bool.false_or, Bool.and_eq_true] at htest
    exact htest.2
  rw [chunkType?_ofChanges, hlast]
  exact Option.isSome_iff_exists.1 hsome

/-- An index that is kept up to date and one that is built anew from the profiles present know the same keys,
those of the profiles present, and the same types, those of the profiles present, but for the ids whose chunk
profile has no type and replaced one that had. -/
theorem ofChanges_agrees_iff (cs : List Change) (docs : List Profile)
    (hdocs : ∀ p, p ∈ docs ↔ ∃ key, IsPresent cs key p) :
    (∀ k id, ((ofChanges cs).contains k id = true ↔ ∃ p, IsPresent cs ⟨k, id⟩ p) ∧
        (ofProfiles docs).contains k id = (ofChanges cs).contains k id) ∧
      (∀ k, (ofProfiles docs).isEmptyFor k = (ofChanges cs).isEmptyFor k) ∧
      (∀ id t, (ofProfiles docs).chunkType? id = some t ↔
        ∃ p, IsPresent cs ⟨.chunk, id⟩ p ∧ p.chunkType? = some t) ∧
      ∀ id, (ofProfiles docs).chunkType? id = (ofChanges cs).chunkType? id ↔ ¬ LeavesType cs id := by
  refine ⟨fun k id => ⟨contains_ofChanges, contains_ofProfiles_of_isPresent hdocs⟩, fun k => ?_, fun id t => ?_,
    fun id => ⟨fun hagree hleaves => ?_, fun hleaves => ?_⟩⟩
  · exact isEmptyFor_congr fun id => contains_ofProfiles_of_isPresent hdocs
  · exact chunkType?_ofProfiles_of_isPresent hdocs
  · obtain ⟨t, ht⟩ := chunkType?_ofChanges_of_leavesType hleaves
    obtain ⟨⟨p, hp, hnone⟩, -⟩ := hleaves
    obtain ⟨q, hq, hsome⟩ := (chunkType?_ofProfiles_of_isPresent hdocs).1 (hagree.trans ht)
    rw [hp.eq hq, hsome] at hnone
    cases hnone
  · ext t
    rw [chunkType?_ofProfiles_of_isPresent hdocs,
      chunkType?_ofChanges_eq_some_iff hleaves]

/-- A chunk profile that was removed is told of again, with blanks around its id and another type. -/
theorem ofChanges_agrees_iff_insertedAgain :
    let line := Profile.chunk (.ofType "a" .line)
    let block := Profile.chunk (.ofType " a " .block)
    let cs := [Change.insert line, .remove .chunk "a", .insert block]
    (∀ p, p ∈ [block] ↔ ∃ key, IsPresent cs key p) ∧
      (ofProfiles [block]).chunkType? "a" = (ofChanges cs).chunkType? "a" := by
  intro line block cs
  have hpresent : Change.present cs = [block] := by decide
  have hdocs : ∀ p, p ∈ [block] ↔ ∃ key, IsPresent cs key p := by
    rw [← hpresent]
    exact fun _ => Change.mem_present
  refine ⟨hdocs, ((ofChanges_agrees_iff cs [block] hdocs).2.2.2 "a").2 ?_⟩
  rintro ⟨⟨p, hp, hnone⟩, -⟩
  have hblock : IsPresent cs ⟨.chunk, "a"⟩ block := by decide
  rw [hp.eq hblock] at hnone
  revert hnone
  decide

/-- A chunk profile without a type that replaces a line chunk profile: the index kept up to date still has the type
of the one that is gone, the index built anew has none. -/
theorem ofChanges_leavesType :
    let line := Profile.chunk (.ofType "a" .line)
    let untyped := Profile.chunk { id := some "a", name := none, type := none, options := none, extra := [] }
    let cs := [Change.insert line, .insert untyped]
    (∀ p, p ∈ [untyped] ↔ ∃ key, IsPresent cs key p) ∧
      (ofChanges cs).chunkType? "a" = some .line ∧ (ofProfiles [untyped]).chunkType? "a" = none := by
  intro line untyped cs
  have hpresent : Change.present cs = [untyped] := by decide
  refine ⟨?_, by decide, by decide⟩
  rw [← hpresent]
  exact fun _ => Change.mem_present

end ReferenceIndex

end ProfileKit

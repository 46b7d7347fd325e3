import ProfileKit.Proofs.Check.Identity
import ProfileKit.Proofs.Id.Suggest
import ProfileKit.Proofs.Registry.Reachable

/-!
# Suggested ids

An id that a registry suggests is not listed, but a save asks what is known, and chunk profiles are known by the ids
in their texts. Where calls lead to, those are the ids that they are stored under (`Reachable.chunksNamed`), since a
save keeps a text under the id in it, and a rename writes the new id into the text. So what is known is stored, and
a profile with a suggested id is never refused for its id (`suggestId_usable`).
-/

namespace ProfileKit

namespace MemoryStore

variable {s : MemoryStore}

/-- The chunk profiles that read have the ids that they are stored under. -/
def ChunksNamed (s : MemoryStore) : Prop :=
  ∀ id text p, s.get? ⟨.chunk, id⟩ = some text → Profile.parse .chunk text = .ok p → p.trimmedId? = some id

theorem chunksNamed_nil : ChunksNamed [] := by
  intro id text p hg
  simp [Table.get?] at hg

/-- Other kinds are not known by their texts. -/
theorem ChunksNamed.of_get?_eq {t : MemoryStore} (h : ChunksNamed s)
    (hg : ∀ id, t.get? ⟨.chunk, id⟩ = s.get? ⟨.chunk, id⟩) : ChunksNamed t := fun id text p ht =>
  h id text p (hg id ▸ ht)

theorem ChunksNamed.insert (h : ChunksNamed s) {k : Kind} {id text : String}
    (hid : k = .chunk → ∀ p, Profile.parse .chunk text = .ok p → p.trimmedId? = some id) :
    ChunksNamed (Table.insert ⟨k, id⟩ text s) := by
  intro i content p hg hp
  rw [Table.get?_insert] at hg
  split at hg
  · rename_i heq
    obtain ⟨rfl, rfl⟩ := Key.mk.inj heq
    obtain rfl := Option.some.inj hg
    exact hid rfl p hp
  · exact h i content p hg hp

theorem ChunksNamed.erase (h : ChunksNamed s) (key : Key) : ChunksNamed (Table.erase key s) := by
  intro i content p hg hp
  rw [Table.get?_erase] at hg
  split at hg
  · cases hg
  · exact h i content p hg hp

/-- What is known is stored. -/
theorem contains_of_contains_index (h : s.WellFormed) {k : Kind} (hnamed : k = .chunk → ChunksNamed s) {id : String}
    (hknown : (index s).contains k id = true) : s.contains ⟨k, id⟩ = true := by
  by_cases hk : k = .chunk
  · subst hk
    obtain ⟨⟨⟨j, i⟩, text⟩, he, hkey⟩ := (contains_index _ _).1 hknown
    have hg : s.get? ⟨j, i⟩ = some text := (Table.get?_eq_some_iff h.sorted).2 he
    obtain rfl : .chunk = j := kind_of_knownAs hkey
    have hsame : (⟨.chunk, i⟩ : Key) = ⟨.chunk, id⟩ := by
      simp only [knownAs, if_true] at hkey
      split at hkey
      · rename_i p hp
        rw [hnamed rfl i text p hg hp] at hkey
        exact Option.some.inj hkey
      · exact Option.some.inj hkey
    exact Table.contains_iff.2 ⟨text, hsame ▸ hg⟩
  · rwa [contains_index_of_ne hk] at hknown

end MemoryStore

namespace Registry

open Check MemoryStore Repair

variable {s : MemoryStore} {strict : Bool} {k : Kind} {id old new text : String}

/-! ## Ids of chunk profiles -/

/-- If the chunk profile that a rename writes reads at all, it has the id that was written into it. This is less
than that the whole text is read back. -/
def Call.KeepsChunkId (s : MemoryStore) : Call → Prop
  | rename .chunk old new => ∀ text p q, s.get? ⟨.chunk, old⟩ = some text → Profile.parse .chunk text = .ok p →
      Id.isValid new = true → Profile.parse .chunk (p.setId new).toYaml = .ok q → q.trimmedId? = some new
  | _ => True

theorem Call.ReadsBack.keepsChunkId {call : Call} (h : call.ReadsBack s) : call.KeepsChunkId s := by
  cases call with
  | save => trivial
  | delete => trivial
  | rename k old new =>
    cases k with
    | chunk =>
      intro text p q hg hp hnew hq
      obtain ⟨hkind, hkeeps⟩ := Profile.keeps_of_parse hp
      have hparse := Profile.parse_toYaml (hkeeps.setId new) (h.1 text p hg hp)
      rw [Profile.kind_setId, hkind, hq] at hparse
      rw [Except.ok.inj hparse, Profile.trimmedId?, Profile.id_setId, Option.bind_some,
        Id.nonBlank?_of_isValid hnew]
    | _ => trivial

theorem Reachable.mono {assumed assumed' : MemoryStore → Call → Prop}
    (hle : ∀ s call, assumed s call → assumed' s call) (h : Reachable strict assumed s) :
    Reachable strict assumed' s := by
  induction h with
  | empty => exact .empty
  | step _ call hcall ih => exact .step ih call (hle _ _ hcall)

theorem chunksNamed_repaired {sub : Option String} (h : s.ChunksNamed) : (repaired k old sub s).ChunksNamed :=
  h.of_get?_eq fun id => by rw [get?_repaired, if_neg (by simp)]

theorem chunksNamed_after (hwf : s.WellFormed) (h : s.ChunksNamed) (call : Call) (hcall : call.KeepsChunkId s) :
    (call.after strict s).ChunksNamed := by
  rcases after_cases hwf call with hs | ⟨k, text, _, p, id, rfl, hp, hid, -, hs⟩ | ⟨k, old, new, p, rfl, hp⟩ |
    ⟨k, id, rfl, -, hs⟩
  · exact hs.symm ▸ h
  · rw [hs]
    refine h.insert fun hk q hq => ?_
    subst hk
    rwa [Except.ok.inj (hq.symm.trans hp)]
  · rw [hp.eq]
    refine chunksNamed_repaired ((h.insert fun hk q hq => ?_).erase _)
    subst hk
    obtain ⟨text, hg, hparse⟩ := hp.read
    exact hcall text p q hg hparse hp.isValid hq
  · rw [hs]
    exact chunksNamed_repaired (h.erase _)

theorem Reachable.chunksNamed (h : Reachable strict Call.KeepsChunkId s) : s.ChunksNamed := by
  induction h with
  | empty => exact chunksNamed_nil
  | step hreach call hcall ih => exact chunksNamed_after hreach.wellFormed ih call hcall

/-! ## Suggestions -/

theorem eval_suggestId (k : Kind) (name : String) (s : MemoryStore) :
    ((registry strict).suggestId k name).eval s = (.ok (Id.unique (Id.derive name) (ids k s)), s) := by
  simp only [Registry.suggestId, registry, Action.eval_bind, eval_list, Action.eval_pure]
  rfl

/-- A save with a valid id that is not stored is not refused for the id. -/
theorem save_error_of_not_contains (h : s.WellFormed) (hnamed : k = .chunk → s.ChunksNamed) {p : Profile}
    (hp : Profile.parse k text = .ok p) (hid : p.trimmedId? = some id) (hvalid : Id.isValid id = true)
    (hnew : s.contains ⟨k, id⟩ = false) {overwrite : Bool} {e : ProfileError} {s' : MemoryStore}
    (hsave : ((registry strict).save k text overwrite).eval s = (.error e, s')) :
    ∃ codes, e = .validation codes ∧ "invalid_id" ∉ codes ∧ "duplicate_id" ∉ codes := by
  rw [Registry.eval_save h hp] at hsave
  split at hsave
  · obtain ⟨i, hi, hblank⟩ := Option.bind_eq_some_iff.1 hid
    have htrim : Text.trim i = id := (Text.nonBlank?_eq_some_iff.1 hblank).1
    have hput : MemoryStore.save k id text overwrite s = (.ok [], s.insert ⟨k, id⟩ text) := by
      simp [MemoryStore.save, Id.check, hvalid, hnew]
    rw [hi, Option.getD_some, htrim, hput] at hsave
    cases hsave
  · have hunknown : (s.context strict).index.contains p.kind id = false := by
      rw [(Profile.keeps_of_parse hp).1, ← Bool.not_eq_true]
      intro hknown
      rw [contains_of_contains_index h hnamed hknown] at hnew
      cases hnew
    obtain ⟨hinvalid, hduplicate⟩ := errorCodes_checkForSave hid hvalid hunknown overwrite
    exact ⟨_, (Except.error.inj (Prod.mk.inj hsave).1).symm, hinvalid, hduplicate⟩

/-- Ids are suggested that can be used: the id for a name is valid and its own id, it is numbered only as far as it
has to be, and in a store that calls lead to a profile with a suggested id may be refused for other errors, but
not for its id. For chunk profiles this takes that the id in a text that a rename wrote is read back. -/
theorem suggestId_usable (h : Reachable strict (fun s call => k = .chunk → call.KeepsChunkId s) s) :
    (∀ name, Id.isValid (Id.derive name) = true ∧ Id.derive (Id.derive name) = Id.derive name) ∧
      (∀ base taken, Id.isValid base = true →
        Id.isValid (Id.unique base taken) = true ∧ Id.unique base taken ∉ taken ∧
          (base ∉ taken → Id.unique base taken = base) ∧
          (base ∈ taken → ∃ n, Id.IsLeastFree base taken n ∧ Id.unique base taken = Id.numbered base n)) ∧
      ∀ name, ∃ id, ((registry strict).suggestId k name).eval s = (.ok id, s) ∧
        ∀ text p, Profile.parse k text = .ok p → p.trimmedId? = some id → ∀ overwrite e s',
          ((registry strict).save k text overwrite).eval s = (.error e, s') →
            ∃ codes, e = .validation codes ∧ "invalid_id" ∉ codes ∧ "duplicate_id" ∉ codes := by
  refine ⟨fun name => ⟨Id.isValid_derive name, Id.derive_derive name⟩, fun base taken hbase => ?_, fun name => ?_⟩
  · exact ⟨Id.isValid_unique hbase taken, Id.unique_not_mem base taken, Id.unique_of_not_mem, Id.unique_of_mem⟩
  · refine ⟨_, eval_suggestId k name s, fun text p hp hid overwrite e s' hsave => ?_⟩
    have hnamed (hk : k = .chunk) : s.ChunksNamed := (h.mono fun _ _ hcall => hcall hk).chunksNamed
    have hvalid := Id.isValid_unique (Id.isValid_derive name) (ids k s)
    have hnew := Id.unique_not_mem (Id.derive name) (ids k s)
    rw [mem_ids, Bool.not_eq_true] at hnew
    exact save_error_of_not_contains h.wellFormed hnamed hp hid hvalid hnew hsave

/-- The id that a rename gave is taken, also in the text that it wrote. -/
theorem suggestId_usable_renamedChunk :
    let s := Call.after false oneChunk (.rename .chunk "c" "d")
    ((registry false).suggestId .chunk " D!").eval s = (.ok "d_2", s) ∧
      ∀ text p, Profile.parse .chunk text = .ok p → p.trimmedId? = some "d_2" → ∀ overwrite e s',
        ((registry false).save .chunk text overwrite).eval s = (.error e, s') →
          ∃ codes, e = .validation codes ∧ "invalid_id" ∉ codes ∧ "duplicate_id" ∉ codes := by
  intro s
  have hy : (Call.rename .chunk "c" "d").ReadsBack oneChunk :=
    Call.readsBack_rename (by decide +kernel) (by decide +kernel)
  have hreach : Reachable false (fun s call => Kind.chunk = .chunk → call.KeepsChunkId s) s :=
    (Reachable.step reachable_oneChunk _ hy).mono fun _ _ hcall _ => hcall.keepsChunkId
  obtain ⟨id, hsuggest, hsave⟩ := (suggestId_usable hreach).2.2 " D!"
  have hd : ((registry false).suggestId .chunk " D!").eval s = (.ok "d_2", s) := by decide +kernel
  obtain rfl : id = "d_2" := Except.ok.inj (Prod.mk.inj (hsuggest.symm.trans hd)).1
  exact ⟨hd, hsave⟩

end Registry
end ProfileKit

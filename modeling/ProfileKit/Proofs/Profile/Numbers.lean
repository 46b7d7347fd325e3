import ProfileKit.Proofs.Profile.Carried

/-!
# Numbers in a profile

A number that people write by hand may be any value. `NumberField` lists the places of a profile where such a
number stands, at the top, in a mapping inside, or in an item of a list of mappings. A value that is put there,
provided the mapping around it is present, keeps no profile from being read, and nothing else that is read
depends on it (`NumberField.read?_put`).

For a codec that is said by `Codec.Takes`: a value may be put under a key, and what is read of the mapping
changes by a function. Records of fields have this for every key whose field does not refuse the value
(`Codec.takes_ofRecord`), and it passes from a mapping inside to the one around it
(`Codec.read?_insert_nested`, `Codec.read?_insert_list`).
-/

namespace ProfileKit

open ProfileKit.Field (count ratio)

/-! ## A value put into a mapping -/

namespace Record

variable {α : Type} {r : Record α} {m : Mapping} {key : String} {v : Json}

/-- A value that is not refused brings no fault, if no other field is taken differently for it. -/
theorem fault?_insert (hm : r.fault? m = none) (hvalue : r.faultAt? (m.insert key v) key v = none)
    (hothers : ∀ k w, r.faultAt? (m.insert key v) k w = r.faultAt? m k w) :
    r.fault? (m.insert key v) = none := by
  rw [fault?_eq_none_iff] at hm ⊢
  intro e he
  rcases Table.mem_insert he with rfl | he
  · exact hvalue
  · rw [hothers]
    exact hm e he

theorem extra_insert (hkey : key ∈ r.keys) : r.extra (m.insert key v) = r.extra m :=
  Table.filter_insert (p := fun k => !r.keys.contains k) (by simpa using hkey) m

end Record

namespace Codec

variable {α β τ : Type} {c : Codec α} {r : Record τ} {key : String} {v : Json} {g : α → α}

/-- The value may be put under the key of any mapping, and changes what is read by a function. -/
def Takes (c : Codec α) (key : String) (v : Json) (g : α → α) : Prop :=
  ∀ m a, c.read? m = .ok a → c.read? (m.insert key v) = .ok (g a)

/-- The value may be put under the key of a mapping, and what is read then is this. -/
theorem read?_insert {make : τ → Mapping → α} {split : α → τ × Mapping} {m : Mapping} {a a' : α}
    (h : (ofRecord r make split).read? m = .ok a) (hkey : key ∈ r.keys)
    (hvalue : r.faultAt? (m.insert key v) key v = none)
    (hothers : ∀ k w, r.faultAt? (m.insert key v) k w = r.faultAt? m k w)
    (hread : make (r.read (m.insert key v)) (r.extra m) = a') :
    (ofRecord r make split).read? (m.insert key v) = .ok a' := by
  obtain ⟨hfault, -⟩ := read?_eq_ok_iff.1 h
  refine read?_eq_ok_iff.2 ⟨Record.fault?_insert hfault hvalue hothers, ?_⟩
  simp only [ofRecord, Record.extra_insert hkey, hread]

theorem takes_ofRecord {make : τ → Mapping → α} {split : α → τ × Mapping} (hkey : key ∈ r.keys)
    (hvalue : ∀ m, r.faultAt? m key v = none)
    (hothers : ∀ m k w, r.faultAt? (m.insert key v) k w = r.faultAt? m k w)
    (hread : ∀ m, make (r.read (m.insert key v)) (r.extra m) = g (make (r.read m) (r.extra m))) :
    (ofRecord r make split).Takes key v g := fun m a h => by
  obtain ⟨-, rfl⟩ := read?_eq_ok_iff.1 h
  exact read?_insert h hkey (hvalue _) (hothers m) (hread m)

/-! ## Mappings inside a mapping -/

/-- The codec reads what is under a key by this field: another value there, read as a change of what was read
before, changes what the codec reads by `modify`. -/
def Holds (c : Codec α) (scope : String) (f : Field β) (modify : (β → β) → α → α) : Prop :=
  ∀ m a w w' change, c.read? m = .ok a → m.get? scope = some w →
    (f.fault? w = none → f.fault? w' = none ∧ f.read (some w') = change (f.read (some w))) →
    c.read? (m.insert scope w') = .ok (modify change a)

theorem holds_ofRecord {scope : String} {f : Field β} {modify : (β → β) → α → α} {make : τ → Mapping → α}
    {split : α → τ × Mapping} (hkey : scope ∈ r.keys) (hscope : ∀ m w, r.faultAt? m scope w = f.fault? w)
    (hothers : ∀ m v k w, r.faultAt? (m.insert scope v) k w = r.faultAt? m k w)
    (hread : ∀ m w w' change, m.get? scope = some w → f.read (some w') = change (f.read (some w)) →
      make (r.read (m.insert scope w')) (r.extra m) = modify change (make (r.read m) (r.extra m))) :
    (ofRecord r make split).Holds scope f modify := fun m a w w' change h hw hchange => by
  obtain ⟨hfault, rfl⟩ := read?_eq_ok_iff.1 h
  have hfaultw : f.fault? w = none := by
    rw [← hscope m]
    exact Record.fault?_eq_none_iff.1 hfault _ (Table.mem_of_get? hw)
  obtain ⟨hfault', hread'⟩ := hchange hfaultw
  exact read?_insert h hkey ((hscope _ _).trans hfault') (hothers m _) (hread m w w' change hw hread')

variable {d : Codec β} {scope : String} {m inner : Mapping} {b : β} {ms : List Mapping}

/-- A value is put into the mapping under a key. -/
theorem read?_insert_nested {modify : (Option α → Option α) → β → β} (hd : d.Holds scope c.nested modify)
    (hc : c.Takes key v g) (hm : d.read? m = .ok b) (hinner : m.get? scope = some (.object inner)) :
    d.read? (m.insert scope (.object (inner.insert key v))) = .ok (modify (Option.map g) b) := by
  refine hd m b _ _ _ hm hinner fun hfault => ?_
  have hfault' : c.fault? inner = none := hfault
  obtain ⟨hfault', hread'⟩ := read?_eq_ok_iff.1 (hc inner _ (read?_eq_ok_iff.2 ⟨hfault', rfl⟩))
  exact ⟨hfault', congrArg some hread'⟩

theorem fault?_list_mappings :
    c.list.fault? (.array (ms.map .object)) = none ↔ ∀ m ∈ ms, c.fault? m = none := by
  simp [list, List.findSome?_eq_none_iff]

theorem read_list_mappings : c.list.read (some (.array (ms.map .object))) = some (ms.map c.read) := by
  simp [list, List.filterMap_map]

/-- To put another item into a list is to change the item of what is made of the list. -/
theorem map_set_eq_modify {f : Mapping → α} {m' : Mapping} {i : Nat} (hi : ms[i]? = some m) (h : f m' = g (f m)) :
    (ms.set i m').map f = (ms.map f).modify i g := by
  rw [List.map_set, h, List.modify_eq_set_getElem?, List.getElem?_map, hi]
  rfl

/-- A value is put into a mapping of the list under a key. -/
theorem read?_insert_list {modify : (Option (List α) → Option (List α)) → β → β} {items : List Json} {i : Nat}
    (hd : d.Holds scope c.list modify) (hc : c.Takes key v g) (hm : d.read? m = .ok b)
    (hitems : m.get? scope = some (.array items)) (hinner : items[i]? = some (.object inner)) :
    d.read? (m.insert scope (.array (items.set i (.object (inner.insert key v))))) =
      .ok (modify (Option.map (List.modify · i g)) b) := by
  refine hd m b _ _ _ hm hitems fun hfault => ?_
  obtain ⟨ms, rfl, hms⟩ := exists_mappings hfault
  have hget : ms[i]? = some inner := by simpa using hinner
  have hread : c.read? inner = .ok (c.read inner) := read?_eq_ok_iff.2 ⟨hms inner (List.mem_of_getElem? hget), rfl⟩
  obtain ⟨hfault', hread'⟩ := read?_eq_ok_iff.1 (hc inner _ hread)
  rw [← List.map_set, fault?_list_mappings, read_list_mappings, read_list_mappings, map_set_eq_modify hget hread']
  refine ⟨fun m' hm' => ?_, rfl⟩
  rcases List.mem_or_eq_of_mem_set hm' with hm' | rfl
  · exact hms m' hm'
  · exact hfault'

end Codec

/-! ## The numbers of each record -/

open Codec Record

theorem ApiEndpoint.takes_weight (v : Json) :
    codec.Takes "weight" v fun e => { e with weight := count.read (some v) } :=
  takes_ofRecord (by simp [cons, pair, field]) (fun m => by simp [cons, pair, field, count])
    (fun _ _ _ => rfl) (fun m => by simp [cons, pair, field, Table.get?_insert])

theorem ApiProfile.takes_numbers (v : Json) :
    codec.Takes "timeout" v (fun p => { p with timeout := count.read (some v) }) ∧
      codec.Takes "concurrency" v (fun p => { p with concurrency := count.read (some v) }) ∧
      codec.Takes "rpm" v (fun p => { p with rpm := count.read (some v) }) ∧
      codec.Takes "max_retries" v (fun p => { p with maxRetries := count.read (some v) }) := by
  refine ⟨?_, ?_, ?_, ?_⟩ <;>
    exact takes_ofRecord (by simp [cons, pair, field]) (fun m => by simp [cons, pair, field, count])
      (fun _ _ _ => rfl) (fun m => by simp [cons, pair, field, Table.get?_insert])

theorem PipelineSettings.takes_numbers (v : Json) :
    codec.Takes "batch_size" v (fun s => { s with batchSize := count.read (some v) }) ∧
      codec.Takes "concurrency" v (fun s => { s with concurrency := count.read (some v) }) := by
  refine ⟨?_, ?_⟩ <;>
    exact takes_ofRecord (by simp [cons, pair, field]) (fun m => by simp [cons, pair, field, count])
      (fun _ _ _ => rfl) (fun m => by simp [cons, pair, field, Table.get?_insert])

theorem PromptContext.takes_numbers (v : Json) :
    codec.Takes "before_lines" v (fun x => { x with beforeLines := count.read (some v) }) ∧
      codec.Takes "after_lines" v (fun x => { x with afterLines := count.read (some v) }) ∧
      codec.Takes "source_lines" v (fun x => { x with sourceLines := count.read (some v) }) := by
  refine ⟨?_, ?_, ?_⟩ <;>
    exact takes_ofRecord (by simp [cons, pair, field]) (fun m => by simp [cons, pair, field, count])
      (fun _ _ _ => rfl) (fun m => by simp [cons, pair, field, Table.get?_insert])

theorem PolicyOptions.takes_similarityThreshold (v : Json) :
    codec.Takes "similarity_threshold" v fun o => { o with similarityThreshold := ratio.read (some v) } :=
  takes_ofRecord (by simp [cons, pair, field]) (fun m => by simp [cons, pair, field, ratio])
    (fun _ _ _ => rfl) (fun m => by simp [cons, pair, field, Table.get?_insert])

theorem ChunkOptions.takes_numbers (v : Json) :
    codec.Takes "target_chars" v (fun o => { o with targetChars := count.read (some v) }) ∧
      codec.Takes "max_chars" v (fun o => { o with maxChars := count.read (some v) }) ∧
      codec.Takes "balance_threshold" v (fun o => { o with balanceThreshold := ratio.read (some v) }) ∧
      codec.Takes "balance_count" v (fun o => { o with balanceCount := count.read (some v) }) ∧
      codec.Takes "kana_retry_threshold" v (fun o => { o with kanaRetryThreshold := ratio.read (some v) }) ∧
      codec.Takes "kana_retry_min_chars" v (fun o => { o with kanaRetryMinChars := count.read (some v) }) := by
  refine ⟨?_, ?_, ?_, ?_, ?_, ?_⟩ <;>
    exact takes_ofRecord (by simp [cons, pair, field]) (fun m => by simp [cons, pair, field, count, ratio])
      (fun _ _ _ => rfl) (fun m => by simp [cons, pair, field, Table.get?_insert])

/-! ## The mappings around them -/

theorem ApiProfile.holds_endpoints :
    codec.Holds "endpoints" ApiEndpoint.codec.list fun change p => { p with endpoints := change p.endpoints } :=
  holds_ofRecord (by simp [cons, pair, field]) (fun m w => by simp [cons, pair, field]) (fun _ _ _ _ => rfl)
    (fun m w w' change hw hchange => by simp [cons, pair, field, Table.get?_insert, hw, hchange])

theorem PipelineProfile.holds_settings :
    codec.Holds "settings" PipelineSettings.codec.nested
      fun change p => { p with settings := change p.settings } :=
  holds_ofRecord (by simp [cons, pair, field]) (fun m w => by simp [cons, pair, field]) (fun _ _ _ _ => rfl)
    (fun m w w' change hw hchange => by simp [cons, pair, field, Table.get?_insert, hw, hchange])

theorem PromptProfile.holds_context :
    codec.Holds "context" PromptContext.codec.nested fun change p => { p with context := change p.context } :=
  holds_ofRecord (by simp [cons, pair, field]) (fun m w => by simp [cons, pair, field]) (fun _ _ _ _ => rfl)
    (fun m w w' change hw hchange => by simp [cons, pair, field, Table.get?_insert, hw, hchange])

theorem PolicyProfile.holds_options :
    codec.Holds "options" PolicyOptions.codec.nested fun change p => { p with options := change p.options } :=
  holds_ofRecord (by simp [cons, pair, field]) (fun m w => by simp [cons, pair, field]) (fun _ _ _ _ => rfl)
    (fun m w w' change hw hchange => by simp [cons, pair, field, Table.get?_insert, hw, hchange])

/-- Whether the type is told by its newer key does not depend on the options. -/
theorem ChunkProfile.holds_options :
    codec.Holds "options" ChunkOptions.codec.nested fun change p => { p with options := change p.options } :=
  holds_ofRecord (by simp [cons, pair, field]) (fun m w => by simp [cons, pair, field, aliasedField])
    (fun m v k w => by simp [cons, pair, field, aliasedField, Table.contains_insert])
    (fun m w w' change hw hchange => by simp [cons, pair, field, aliasedField, Table.get?_insert, hw, hchange])

/-! ## The numbers of a profile -/

/-- Where a value stands in the mapping of a profile. -/
inductive ValuePlace where
  | top (key : String)
  /-- In the mapping under a key. -/
  | inner (scope key : String)
  /-- In a mapping of the list under a key. -/
  | item (scope : String) (i : Nat) (key : String)
deriving DecidableEq, Repr

/-- Puts a value in its place, if the mapping that it belongs to is there. -/
def ValuePlace.put (v : Json) (m : Mapping) : ValuePlace → Option Mapping
  | top key => some (m.insert key v)
  | inner scope key =>
    match m.get? scope with
    | some (.object fields) => some (m.insert scope (.object (Table.insert key v fields)))
    | _ => none
  | item scope i key =>
    match m.get? scope with
    | some (.array items) =>
      match items[i]? with
      | some (.object fields) =>
        some (m.insert scope (.array (items.set i (.object (Table.insert key v fields)))))
      | _ => none
    | _ => none

theorem ValuePlace.exists_of_put_inner {v : Json} {m m' : Mapping} {scope key : String}
    (h : (inner scope key).put v m = some m') :
    ∃ fields, m.get? scope = some (.object fields) ∧
      m' = m.insert scope (.object (Table.insert key v fields)) := by
  simp only [put] at h
  split at h
  · rename_i hfields
    exact ⟨_, hfields, (Option.some.inj h).symm⟩
  · cases h

theorem ValuePlace.exists_of_put_item {v : Json} {m m' : Mapping} {scope key : String} {i : Nat}
    (h : (item scope i key).put v m = some m') :
    ∃ items fields, m.get? scope = some (.array items) ∧ items[i]? = some (.object fields) ∧
      m' = m.insert scope (.array (items.set i (.object (Table.insert key v fields)))) := by
  simp only [put] at h
  split at h
  · rename_i hitems
    split at h
    · rename_i hfields
      exact ⟨_, _, hitems, hfields, (Option.some.inj h).symm⟩
    · cases h
  · cases h

section Codecs

variable {α β : Type} {c : Codec α} {d : Codec β} {key scope : String} {v : Json} {g : α → α} {m m' : Mapping}
  {p : Profile} {set : Profile → Profile}

/-! A profile of a kind is read by the codec of the kind. -/

theorem read?_put_top {profile : α → Profile} (hc : c.Takes key v g)
    (hset : ∀ a, set (profile a) = profile (g a)) (hm : (c.read? m).map profile = .ok p)
    (hput : (ValuePlace.top key).put v m = some m') : (c.read? m').map profile = .ok (set p) := by
  obtain ⟨a, ha, rfl⟩ := Profile.map_eq_ok_iff.1 hm
  obtain rfl := Option.some.inj hput
  exact Profile.map_eq_ok_iff.2 ⟨_, hc m a ha, (hset a).symm⟩

theorem read?_put_inner {profile : β → Profile} {modify : (Option α → Option α) → β → β}
    (hd : d.Holds scope c.nested modify) (hc : c.Takes key v g)
    (hset : ∀ b, set (profile b) = profile (modify (Option.map g) b)) (hm : (d.read? m).map profile = .ok p)
    (hput : (ValuePlace.inner scope key).put v m = some m') : (d.read? m').map profile = .ok (set p) := by
  obtain ⟨b, hb, rfl⟩ := Profile.map_eq_ok_iff.1 hm
  obtain ⟨fields, hfields, rfl⟩ := ValuePlace.exists_of_put_inner hput
  exact Profile.map_eq_ok_iff.2 ⟨_, read?_insert_nested hd hc hb hfields, (hset b).symm⟩

theorem read?_put_item {profile : β → Profile} {modify : (Option (List α) → Option (List α)) → β → β} {i : Nat}
    (hd : d.Holds scope c.list modify) (hc : c.Takes key v g)
    (hset : ∀ b, set (profile b) = profile (modify (Option.map (List.modify · i g)) b))
    (hm : (d.read? m).map profile = .ok p) (hput : (ValuePlace.item scope i key).put v m = some m') :
    (d.read? m').map profile = .ok (set p) := by
  obtain ⟨b, hb, rfl⟩ := Profile.map_eq_ok_iff.1 hm
  obtain ⟨items, fields, hitems, hfields, rfl⟩ := ValuePlace.exists_of_put_item hput
  exact Profile.map_eq_ok_iff.2 ⟨_, read?_insert_list hd hc hb hitems hfields, (hset b).symm⟩

end Codecs

/-- The numbers of profiles that may be any value. -/
inductive NumberField where
  | timeout
  | concurrency
  | rpm
  | maxRetries
  /-- The weight of an endpoint. -/
  | weight (i : Nat)
  | batchSize
  | pipelineConcurrency
  | beforeLines
  | afterLines
  | sourceLines
  | similarityThreshold
  | targetChars
  | maxChars
  | balanceThreshold
  | balanceCount
  | kanaRetryThreshold
  | kanaRetryMinChars
deriving DecidableEq, Repr

namespace NumberField

/-- The kind of profile that has the number. -/
def kind : NumberField → Kind
  | timeout | concurrency | rpm | maxRetries | weight _ => .api
  | batchSize | pipelineConcurrency => .pipeline
  | beforeLines | afterLines | sourceLines => .prompt
  | similarityThreshold => .policy
  | targetChars | maxChars | balanceThreshold | balanceCount | kanaRetryThreshold | kanaRetryMinChars => .chunk

def place : NumberField → ValuePlace
  | timeout => .top "timeout"
  | concurrency => .top "concurrency"
  | rpm => .top "rpm"
  | maxRetries => .top "max_retries"
  | weight i => .item "endpoints" i "weight"
  | batchSize => .inner "settings" "batch_size"
  | pipelineConcurrency => .inner "settings" "concurrency"
  | beforeLines => .inner "context" "before_lines"
  | afterLines => .inner "context" "after_lines"
  | sourceLines => .inner "context" "source_lines"
  | similarityThreshold => .inner "options" "similarity_threshold"
  | targetChars => .inner "options" "target_chars"
  | maxChars => .inner "options" "max_chars"
  | balanceThreshold => .inner "options" "balance_threshold"
  | balanceCount => .inner "options" "balance_count"
  | kanaRetryThreshold => .inner "options" "kana_retry_threshold"
  | kanaRetryMinChars => .inner "options" "kana_retry_min_chars"

/-! Changes of a record that a profile may hold. -/

def inSettings (g : PipelineSettings → PipelineSettings) (p : PipelineProfile) : PipelineProfile :=
  { p with settings := p.settings.map g }

def inContext (g : PromptContext → PromptContext) (p : PromptProfile) : PromptProfile :=
  { p with context := p.context.map g }

def inPolicyOptions (g : PolicyOptions → PolicyOptions) (p : PolicyProfile) : PolicyProfile :=
  { p with options := p.options.map g }

def inChunkOptions (g : ChunkOptions → ChunkOptions) (p : ChunkProfile) : ChunkProfile :=
  { p with options := p.options.map g }

/-- Reads a value as the number, and changes nothing else of a profile. -/
def set (v : Json) : NumberField → Profile → Profile
  | timeout, .api p => .api { p with timeout := count.read (some v) }
  | concurrency, .api p => .api { p with concurrency := count.read (some v) }
  | rpm, .api p => .api { p with rpm := count.read (some v) }
  | maxRetries, .api p => .api { p with maxRetries := count.read (some v) }
  | weight i, .api p =>
    .api { p with
      endpoints := p.endpoints.map fun es => es.modify i fun e => { e with weight := count.read (some v) } }
  | batchSize, .pipeline p => .pipeline (inSettings (fun s => { s with batchSize := count.read (some v) }) p)
  | pipelineConcurrency, .pipeline p =>
    .pipeline (inSettings (fun s => { s with concurrency := count.read (some v) }) p)
  | beforeLines, .prompt p => .prompt (inContext (fun x => { x with beforeLines := count.read (some v) }) p)
  | afterLines, .prompt p => .prompt (inContext (fun x => { x with afterLines := count.read (some v) }) p)
  | sourceLines, .prompt p => .prompt (inContext (fun x => { x with sourceLines := count.read (some v) }) p)
  | similarityThreshold, .policy p =>
    .policy (inPolicyOptions (fun o => { o with similarityThreshold := ratio.read (some v) }) p)
  | targetChars, .chunk p => .chunk (inChunkOptions (fun o => { o with targetChars := count.read (some v) }) p)
  | maxChars, .chunk p => .chunk (inChunkOptions (fun o => { o with maxChars := count.read (some v) }) p)
  | balanceThreshold, .chunk p =>
    .chunk (inChunkOptions (fun o => { o with balanceThreshold := ratio.read (some v) }) p)
  | balanceCount, .chunk p => .chunk (inChunkOptions (fun o => { o with balanceCount := count.read (some v) }) p)
  | kanaRetryThreshold, .chunk p =>
    .chunk (inChunkOptions (fun o => { o with kanaRetryThreshold := ratio.read (some v) }) p)
  | kanaRetryMinChars, .chunk p =>
    .chunk (inChunkOptions (fun o => { o with kanaRetryMinChars := count.read (some v) }) p)
  | _, p => p

/-- With a value in the place of a number a profile is still read, as it was but for that number. -/
theorem read?_put {f : NumberField} {v : Json} {m m' : Mapping} {p : Profile}
    (hm : Profile.read? f.kind m = .ok p) (hput : f.place.put v m = some m') :
    Profile.read? f.kind m' = .ok (f.set v p) := by
  obtain ⟨htimeout, hconcurrency, hrpm, hretries⟩ := ApiProfile.takes_numbers v
  obtain ⟨hbatch, hpipeline⟩ := PipelineSettings.takes_numbers v
  obtain ⟨hbefore, hafter, hsource⟩ := PromptContext.takes_numbers v
  obtain ⟨htarget, hmax, hthreshold, hbalance, hretry, hchars⟩ := ChunkOptions.takes_numbers v
  cases f with
  | timeout => exact read?_put_top htimeout (fun _ => rfl) hm hput
  | concurrency => exact read?_put_top hconcurrency (fun _ => rfl) hm hput
  | rpm => exact read?_put_top hrpm (fun _ => rfl) hm hput
  | maxRetries => exact read?_put_top hretries (fun _ => rfl) hm hput
  | weight i =>
    exact read?_put_item ApiProfile.holds_endpoints (ApiEndpoint.takes_weight v) (fun _ => rfl) hm hput
  | batchSize => exact read?_put_inner PipelineProfile.holds_settings hbatch (fun _ => rfl) hm hput
  | pipelineConcurrency => exact read?_put_inner PipelineProfile.holds_settings hpipeline (fun _ => rfl) hm hput
  | beforeLines => exact read?_put_inner PromptProfile.holds_context hbefore (fun _ => rfl) hm hput
  | afterLines => exact read?_put_inner PromptProfile.holds_context hafter (fun _ => rfl) hm hput
  | sourceLines => exact read?_put_inner PromptProfile.holds_context hsource (fun _ => rfl) hm hput
  | similarityThreshold =>
    exact read?_put_inner PolicyProfile.holds_options (PolicyOptions.takes_similarityThreshold v) (fun _ => rfl)
      hm hput
  | targetChars => exact read?_put_inner ChunkProfile.holds_options htarget (fun _ => rfl) hm hput
  | maxChars => exact read?_put_inner ChunkProfile.holds_options hmax (fun _ => rfl) hm hput
  | balanceThreshold => exact read?_put_inner ChunkProfile.holds_options hthreshold (fun _ => rfl) hm hput
  | balanceCount => exact read?_put_inner ChunkProfile.holds_options hbalance (fun _ => rfl) hm hput
  | kanaRetryThreshold => exact read?_put_inner ChunkProfile.holds_options hretry (fun _ => rfl) hm hput
  | kanaRetryMinChars => exact read?_put_inner ChunkProfile.holds_options hchars (fun _ => rfl) hm hput

end NumberField

end ProfileKit

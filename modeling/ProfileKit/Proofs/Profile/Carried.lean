import Mathlib.Data.List.Forall2
import ProfileKit.Proofs.Profile.Faults

/-!
# What a profile carries along

A profile is read from a mapping and written as a mapping. `Kind.outline` says which keys a kind models and
what stands under them; all other keys come back with their values, also those of the mappings inside. Nothing
is added, and a key that is modelled is left out only if its value was null, or if it was an empty mapping of
the options of a parser (`Profile.carried_of_ofMapping`).

Each field has a part of the outline that it is written by (`Field.Retains`). The fields of a record make up
the outline of the record (`Record.Outlines`), and that is the outline of its mappings.
-/

namespace ProfileKit

/-! ## Outlines -/

/-- A mapping that was written in the place of another one. Keys that are not modelled have their values, no key
is new, and a key that is modelled is left out only if it was null. -/
structure Rewrites (modelled : List String) (m m' : Mapping) : Prop where
  kept {key : String} (h : key ∉ modelled) : m'.get? key = m.get? key
  noNew {key : String} (h : m.get? key = none) : m'.get? key = none
  dropped {key : String} {v : Json} (h : m.get? key = some v) (hd : m'.get? key = none) : v = .null

/-- What stands under a modelled key. -/
inductive Part where
  /-- A value of its own. -/
  | value
  /-- A mapping of any values. -/
  | options
  /-- A mapping that models these keys. -/
  | mapping (modelled : List String)
  /-- A list of mappings that model these keys. -/
  | list (modelled : List String)

/-- What may be written under a modelled key, by what there was: nothing for nothing, and a value is left out only
if it is null or the empty mapping of options. -/
def Part.Retains : Part → Option Json → Option Json → Prop
  | _, none, w => w = none
  | value, some v, w => w = none → v = .null
  | options, some v, w => w = some v ∨ w = none ∧ v = .object []
  | mapping modelled, some v, w =>
    w = none ∧ v = .null ∨
      ∃ m m', v = .object m ∧ w = some (.object m') ∧ Rewrites modelled m m'
  | list modelled, some v, w =>
    w = none ∧ v = .null ∨
      ∃ ms ms', v = .array (ms.map .object) ∧ w = some (.array (ms'.map .object)) ∧
        List.Forall₂ (Rewrites modelled) ms ms'

/-- Modelled keys with values of their own. -/
def Part.values (keys : List String) : List (String × Part) := keys.map fun key => (key, .value)

/-- The keys that a kind models, and what stands under them. -/
def Kind.outline : Kind → List (String × Part)
  | .api =>
    Part.values ["id", "name", "type", "base_url", "model", "api_key", "headers", "params", "timeout",
      "concurrency", "rpm", "max_retries"] ++
      [("endpoints", .list ["id", "base_url", "model", "api_key", "weight"]), ("members", .value)]
  | .pipeline =>
    Part.values ["id", "name", "provider", "prompt", "parser", "chunk_policy", "line_policy",
      "apply_line_policy"] ++ [("settings", .mapping ["batch_size", "concurrency"])]
  | .prompt =>
    Part.values ["id", "name", "system_template", "user_template"] ++
      [("context", .mapping ["before_lines", "after_lines", "joiner", "source_format", "source_lines"])]
  | .parser => Part.values ["id", "name", "type"] ++ [("options", .options)]
  | .policy =>
    Part.values ["id", "name", "type"] ++
      [("options", .mapping ["on_mismatch", "trim", "similarity_threshold", "checks"])]
  | .chunk =>
    Part.values ["id", "name", "chunk_type", "type"] ++
      [("options", .mapping ["target_chars", "max_chars", "balance_threshold", "balance_count",
        "kana_retry_enabled", "kana_retry_threshold", "kana_retry_min_chars"])]

/-- What a mapping has under a key, where the older key for the type of a chunk profile is taken for the newer
one. -/
def Kind.look (k : Kind) (m : Mapping) (key : String) : Option Json :=
  if k = .chunk then
    if key = "chunk_type" then (m.get? "chunk_type").or (m.get? "type")
    else if key = "type" then none
    else m.get? key
  else m.get? key

theorem Part.Retains.eq_none {part : Part} {w : Option Json} (h : part.Retains none w) : w = none := by
  cases part <;> exact h

/-- A part is left out only if it has no content. -/
theorem Part.Retains.of_none {part : Part} {v : Json} (h : part.Retains (some v) none) :
    v = .null ∨ (part = .options ∧ v = .object []) := by
  cases part with
  | value => exact .inl (h rfl)
  | options => exact .inr ⟨rfl, (h.resolve_left (by simp)).2⟩
  | mapping modelled =>
    refine .inl (h.resolve_right ?_).2
    rintro ⟨m, m', -, hw, -⟩
    cases hw
  | list modelled =>
    refine .inl (h.resolve_right ?_).2
    rintro ⟨ms, ms', -, hw, -⟩
    cases hw

/-! ## Fields -/

namespace Field

variable {α : Type}

/-- What the field reads it writes as this part. -/
def Retains (f : Field α) (part : Part) : Prop :=
  ∀ v : Option Json, f.Takes v → part.Retains v (f.write (f.read v))

theorem retains_value {f : Field α} (hnone : f.write (f.read none) = none)
    (h : ∀ v, f.fault? v = none → f.write (f.read (some v)) = none → v = .null) : f.Retains .value := fun v hv => by
  cases v with
  | none => exact hnone
  | some v => exact h v (hv v rfl)

theorem retains_looseText : looseText.Retains .value := retains_value rfl fun v hv hw => by
  cases v <;> simp_all [looseText, looseText?]

theorem retains_text : text.Retains .value := retains_value rfl fun v hv hw => by
  cases v <;> simp_all [text, Json.asString?]

theorem retains_flag : flag.Retains .value := retains_value rfl fun v hv hw => by
  cases v <;> simp_all [flag, Json.asBool?]

theorem retains_texts : texts.Retains .value := retains_value rfl fun v hv hw => by
  cases v <;> simp_all [texts]

theorem retains_anyValue : anyValue.Retains .value := retains_value rfl fun v _ hw => by
  cases v <;> simp_all [anyValue, present]

theorem retains_count : count.Retains .value := retains_value rfl fun v _ hw => by
  cases v <;> simp_all [count, present]

theorem retains_ratio : ratio.Retains .value := retains_value rfl fun v _ hw => by
  cases v <;> simp_all [ratio, present]

theorem retains_options : options.Retains .options := fun v hv => by
  rcases v with _ | v
  · rfl
  · have := hv v rfl
    cases v with
    | object fields => cases fields <;> simp [Part.Retains, options]
    | _ => simp [options] at this

end Field

/-! ## Records -/

namespace Record

variable {α β : Type} {r : Record α} {s : Record β} {look : Mapping → String → Option Json}
  {parts others : List (String × Part)} {key second : String} {part : Part}

/-- The record models the keys of these parts, and it writes what it read of a mapping as these parts. -/
structure Outlines (r : Record α) (look : Mapping → String → Option Json) (parts : List (String × Part)) :
    Prop where
  keys : r.keys = parts.map Prod.fst
  frame {key : String} (h : key ∉ r.keys) (a : α) (m : Mapping) : (r.write a m).get? key = m.get? key
  retains {m : Mapping} (h : r.fault? m = none) (base : Mapping) {e : String × Part} (he : e ∈ parts) :
    e.2.Retains (look m e.1) ((r.write (r.read m) base).get? e.1)

theorem outlines_field {f : Field α} (hf : f.Retains part) (hlook : ∀ m, look m key = m.get? key) :
    (field key f).Outlines look [(key, part)] where
  keys := rfl
  frame {k} hk a m := by
    rw [field, Table.get?_put, if_neg fun e => hk (by simp [field, e])]
  retains {m} hm base e he := by
    obtain rfl := List.mem_singleton.1 he
    have htakes : f.Takes (m.get? key) := fun w hw => by
      have := fault?_eq_none_iff.1 hm _ (Table.mem_of_get? hw)
      simpa [field] using this
    simp only [field, Table.get?_put, if_true, hlook]
    exact hf _ htakes

theorem outlines_aliasedField {f : Field α} (hne : key ≠ second) (hf : f.Retains part)
    (hkey : ∀ m, look m key = (m.get? key).or (m.get? second)) (hsecond : ∀ m, look m second = none) :
    (aliasedField key second f).Outlines look [(key, part), (second, .value)] where
  keys := rfl
  frame {k} hk a m := by
    simp only [aliasedField, List.mem_cons, List.not_mem_nil, or_false, not_or] at hk ⊢
    rw [Table.get?_put, if_neg (Ne.symm hk.1), Table.get?_erase, if_neg (Ne.symm hk.2)]
  retains {m} hm base e he := by
    have hfault := fault?_eq_none_iff.1 hm
    simp only [List.mem_cons, List.not_mem_nil, or_false] at he
    rcases he with rfl | rfl
    · have htakes : f.Takes ((m.get? key).or (m.get? second)) := fun w hw => by
        cases hv : m.get? key with
        | some v =>
          have := hfault _ (Table.mem_of_get? hv)
          simp_all [aliasedField]
        | none =>
          have hw : m.get? second = some w := by simpa [hv] using hw
          have := hfault _ (Table.mem_of_get? hw)
          simpa [aliasedField, hne.symm, Table.contains, hv] using this
      simp only [aliasedField, Table.get?_put, if_true, hkey]
      exact hf _ htakes
    · simp only [aliasedField, Table.get?_put, if_neg hne, Table.get?_erase, if_true, hsecond]
      rfl

theorem outlines_pair (hr : r.Outlines look parts) (hs : s.Outlines look others)
    (hd : ∀ k ∈ r.keys, k ∉ s.keys) : (r.pair s).Outlines look (parts ++ others) where
  keys := by rw [List.map_append, ← hr.keys, ← hs.keys]; rfl
  frame {k} hk a m := by
    simp only [pair, List.mem_append, not_or] at hk ⊢
    rw [hs.frame hk.2, hr.frame hk.1]
  retains {m} hm base e he := by
    have hfault := fault?_eq_none_iff.1 hm
    simp only [pair, Option.or_eq_none_iff] at hfault ⊢
    rcases List.mem_append.1 he with he | he
    · have hkey : e.1 ∈ r.keys := by
        rw [hr.keys]
        exact List.mem_map_of_mem he
      rw [hs.frame (hd _ hkey)]
      exact hr.retains (fault?_eq_none_iff.2 fun f hf => (hfault f hf).1) base he
    · exact hs.retains (fault?_eq_none_iff.2 fun f hf => (hfault f hf).2) _ he

theorem outlines_cons {f : Field α} (hf : f.Retains part) (hs : s.Outlines look others)
    (hlook : ∀ m, look m key = m.get? key) (hkey : key ∉ s.keys) :
    (cons key f s).Outlines look ((key, part) :: others) :=
  outlines_pair (outlines_field hf hlook) hs fun k hk => by
    rw [List.mem_singleton.1 hk]
    exact hkey

end Record

/-! ## Codecs -/

namespace Codec

variable {α τ : Type} {c : Codec α} {r : Record τ} {look : Mapping → String → Option Json}
  {parts : List (String × Part)} {modelled : List String}

/-- What the codec reads it writes again, part by part, and everything else along with it. -/
def Carries (c : Codec α) (look : Mapping → String → Option Json) (parts : List (String × Part)) : Prop :=
  ∀ m a, c.read? m = .ok a →
    (∀ key, key ∉ parts.map Prod.fst → (c.write a).get? key = m.get? key) ∧
      ∀ e ∈ parts, e.2.Retains (look m e.1) ((c.write a).get? e.1)

theorem carries_ofRecord (h : r.Outlines look parts) {make : τ → Mapping → α} {split : α → τ × Mapping}
    (hsplit : ∀ t m, split (make t m) = (t, m)) : (ofRecord r make split).Carries look parts := fun m a hm => by
  obtain ⟨hfault, rfl⟩ := read?_eq_ok_iff.1 hm
  simp only [ofRecord, hsplit, ← h.keys]
  refine ⟨fun key hkey => ?_, fun e he => h.retains hfault _ he⟩
  rw [h.frame hkey]
  exact Table.get?_filter (p := fun k => !r.keys.contains k) (by simpa using hkey) m

/-- The mappings of the codec are rewritten, and they have values of their own only. -/
theorem Carries.rewrites (h : c.Carries (fun m key => m.get? key) (Part.values modelled)) {m : Mapping} {a : α}
    (hm : c.read? m = .ok a) : Rewrites modelled m (c.write a) := by
  obtain ⟨hkept, hparts⟩ := h m a hm
  have hkeys : (Part.values modelled).map Prod.fst = modelled := by
    simp [Part.values, Function.comp_def]
  rw [hkeys] at hkept
  have hpart : ∀ key ∈ modelled, Part.value.Retains (m.get? key) ((c.write a).get? key) := fun key hkey =>
    hparts (key, .value) (List.mem_map_of_mem hkey)
  refine ⟨fun {key} => hkept key, fun {key} hnone => ?_, fun {key v} hv hd => ?_⟩
  · by_cases hkey : key ∈ modelled
    · have := hpart key hkey
      rw [hnone] at this
      exact this.eq_none
    · rw [hkept key hkey, hnone]
  · by_cases hkey : key ∈ modelled
    · have := hpart key hkey
      rw [hv] at this
      exact this hd
    · rw [hkept key hkey, hv] at hd
      cases hd

theorem retains_nested (h : c.Carries (fun m key => m.get? key) (Part.values modelled)) :
    c.nested.Retains (.mapping modelled) := fun v hv => by
  rcases v with _ | v
  · rfl
  · have hfault := hv v rfl
    cases v with
    | null => exact .inl ⟨rfl, rfl⟩
    | object m => exact .inr ⟨m, _, rfl, rfl, h.rewrites (read?_eq_ok_iff.2 ⟨hfault, rfl⟩)⟩
    | _ => simp [nested] at hfault

/-- A list without a fault is one of mappings without a fault. -/
theorem exists_mappings {items : List Json} (h : c.list.fault? (.array items) = none) :
    ∃ ms : List Mapping, items = ms.map .object ∧ ∀ m ∈ ms, c.fault? m = none := by
  have hitems := List.findSome?_eq_none_iff.1 h
  clear h
  induction items with
  | nil => exact ⟨[], rfl, by simp⟩
  | cons item rest ih =>
    obtain ⟨ms, rfl, hms⟩ := ih fun v hv => hitems v (List.mem_cons_of_mem _ hv)
    have hitem := hitems item List.mem_cons_self
    cases item with
    | object m => exact ⟨m :: ms, rfl, List.forall_mem_cons.2 ⟨hitem, hms⟩⟩
    | _ => cases hitem

theorem retains_list (h : c.Carries (fun m key => m.get? key) (Part.values modelled)) :
    c.list.Retains (.list modelled) := fun v hv => by
  rcases v with _ | v
  · rfl
  · have hfault := hv v rfl
    cases v with
    | null => exact .inl ⟨rfl, rfl⟩
    | array items =>
      obtain ⟨ms, rfl, hms⟩ := exists_mappings hfault
      refine .inr ⟨ms, ms.map fun m => c.write (c.read m), rfl, ?_, ?_⟩
      · simp [list, List.filterMap_map, Function.comp_def]
      · rw [List.forall₂_map_right_iff, List.forall₂_same]
        exact fun m hm => h.rewrites (read?_eq_ok_iff.2 ⟨hms m hm, rfl⟩)
    | _ => simp [list] at hfault

end Codec

/-! ## Profiles -/

open ProfileKit.Field Record Codec

theorem ApiEndpoint.carries_codec : ApiEndpoint.codec.Carries (fun m key => m.get? key)
    (Part.values ["id", "base_url", "model", "api_key", "weight"]) :=
  carries_ofRecord
    (outlines_cons retains_looseText (outlines_cons retains_text (outlines_cons retains_text
      (outlines_cons retains_text (outlines_field retains_count fun _ => rfl) (fun _ => rfl) (by decide))
      (fun _ => rfl) (by decide)) (fun _ => rfl) (by decide)) (fun _ => rfl) (by decide))
    fun _ _ => rfl

theorem PipelineSettings.carries_codec : PipelineSettings.codec.Carries (fun m key => m.get? key)
    (Part.values ["batch_size", "concurrency"]) :=
  carries_ofRecord
    (outlines_cons retains_count (outlines_field retains_count fun _ => rfl) (fun _ => rfl) (by decide))
    fun _ _ => rfl

theorem PromptContext.carries_codec : PromptContext.codec.Carries (fun m key => m.get? key)
    (Part.values ["before_lines", "after_lines", "joiner", "source_format", "source_lines"]) :=
  carries_ofRecord
    (outlines_cons retains_count (outlines_cons retains_count (outlines_cons retains_text
      (outlines_cons retains_text (outlines_field retains_count fun _ => rfl) (fun _ => rfl) (by decide))
      (fun _ => rfl) (by decide)) (fun _ => rfl) (by decide)) (fun _ => rfl) (by decide))
    fun _ _ => rfl

theorem PolicyOptions.carries_codec : PolicyOptions.codec.Carries (fun m key => m.get? key)
    (Part.values ["on_mismatch", "trim", "similarity_threshold", "checks"]) :=
  carries_ofRecord
    (outlines_cons retains_looseText (outlines_cons retains_flag (outlines_cons retains_ratio
      (outlines_field retains_texts fun _ => rfl) (fun _ => rfl) (by decide)) (fun _ => rfl) (by decide))
      (fun _ => rfl) (by decide))
    fun _ _ => rfl

theorem ChunkOptions.carries_codec : ChunkOptions.codec.Carries (fun m key => m.get? key)
    (Part.values ["target_chars", "max_chars", "balance_threshold", "balance_count", "kana_retry_enabled",
      "kana_retry_threshold", "kana_retry_min_chars"]) :=
  carries_ofRecord
    (outlines_cons retains_count (outlines_cons retains_count (outlines_cons retains_ratio
      (outlines_cons retains_count (outlines_cons retains_flag (outlines_cons retains_ratio
        (outlines_field retains_count fun _ => rfl) (fun _ => rfl) (by decide)) (fun _ => rfl) (by decide))
        (fun _ => rfl) (by decide)) (fun _ => rfl) (by decide)) (fun _ => rfl) (by decide))
      (fun _ => rfl) (by decide))
    fun _ _ => rfl

theorem ApiProfile.carries_codec : ApiProfile.codec.Carries (Kind.look .api) (Kind.outline .api) :=
  carries_ofRecord
    (outlines_cons retains_looseText (outlines_cons retains_looseText (outlines_cons retains_looseText
      (outlines_cons retains_text (outlines_cons retains_text (outlines_cons retains_text
      (outlines_cons retains_anyValue (outlines_cons retains_anyValue (outlines_cons retains_count
      (outlines_cons retains_count (outlines_cons retains_count (outlines_cons retains_count
      (outlines_cons (retains_list ApiEndpoint.carries_codec) (outlines_field retains_texts fun _ => rfl)
        (fun _ => rfl) (by decide)) (fun _ => rfl) (by decide)) (fun _ => rfl) (by decide))
        (fun _ => rfl) (by decide)) (fun _ => rfl) (by decide)) (fun _ => rfl) (by decide))
        (fun _ => rfl) (by decide)) (fun _ => rfl) (by decide)) (fun _ => rfl) (by decide))
        (fun _ => rfl) (by decide)) (fun _ => rfl) (by decide)) (fun _ => rfl) (by decide))
        (fun _ => rfl) (by decide))
    fun _ _ => rfl

theorem PipelineProfile.carries_codec :
    PipelineProfile.codec.Carries (Kind.look .pipeline) (Kind.outline .pipeline) :=
  carries_ofRecord
    (outlines_cons retains_looseText (outlines_cons retains_looseText (outlines_cons retains_looseText
      (outlines_cons retains_looseText (outlines_cons retains_looseText (outlines_cons retains_looseText
      (outlines_cons retains_looseText (outlines_cons retains_flag
      (outlines_field (retains_nested PipelineSettings.carries_codec) fun _ => rfl)
        (fun _ => rfl) (by decide)) (fun _ => rfl) (by decide)) (fun _ => rfl) (by decide))
        (fun _ => rfl) (by decide)) (fun _ => rfl) (by decide)) (fun _ => rfl) (by decide))
        (fun _ => rfl) (by decide)) (fun _ => rfl) (by decide))
    fun _ _ => rfl

theorem PromptProfile.carries_codec : PromptProfile.codec.Carries (Kind.look .prompt) (Kind.outline .prompt) :=
  carries_ofRecord
    (outlines_cons retains_looseText (outlines_cons retains_looseText (outlines_cons retains_text
      (outlines_cons retains_text (outlines_field (retains_nested PromptContext.carries_codec) fun _ => rfl)
        (fun _ => rfl) (by decide)) (fun _ => rfl) (by decide)) (fun _ => rfl) (by decide))
        (fun _ => rfl) (by decide))
    fun _ _ => rfl

theorem ParserProfile.carries_codec : ParserProfile.codec.Carries (Kind.look .parser) (Kind.outline .parser) :=
  carries_ofRecord
    (outlines_cons retains_looseText (outlines_cons retains_looseText (outlines_cons retains_looseText
      (outlines_field retains_options fun _ => rfl) (fun _ => rfl) (by decide)) (fun _ => rfl) (by decide))
      (fun _ => rfl) (by decide))
    fun _ _ => rfl

theorem PolicyProfile.carries_codec : PolicyProfile.codec.Carries (Kind.look .policy) (Kind.outline .policy) :=
  carries_ofRecord
    (outlines_cons retains_looseText (outlines_cons retains_looseText (outlines_cons retains_looseText
      (outlines_field (retains_nested PolicyOptions.carries_codec) fun _ => rfl) (fun _ => rfl) (by decide))
      (fun _ => rfl) (by decide)) (fun _ => rfl) (by decide))
    fun _ _ => rfl

theorem ChunkProfile.carries_codec : ChunkProfile.codec.Carries (Kind.look .chunk) (Kind.outline .chunk) :=
  carries_ofRecord
    (outlines_cons retains_looseText (outlines_cons retains_looseText
      (outlines_pair
        (outlines_aliasedField (by decide) retains_looseText (fun _ => rfl) fun _ => rfl)
        (outlines_field (retains_nested ChunkOptions.carries_codec) fun _ => rfl) (by decide))
      (fun _ => rfl) (by decide)) (fun _ => rfl) (by decide))
    fun _ _ => rfl

theorem Kind.look_of_notMem {k : Kind} {key : String} (h : key ∉ k.outline.map Prod.fst) (m : Mapping) :
    k.look m key = m.get? key := by
  unfold look
  split
  · rename_i hk
    subst hk
    simp only [outline, Part.values, List.map_append, List.map_cons, List.map_nil, List.mem_append,
      List.mem_cons, List.not_mem_nil, or_false, not_or] at h
    obtain ⟨⟨-, -, htype, hold⟩, -⟩ := h
    rw [if_neg htype, if_neg hold]
  · rfl

/-- Only parsers have a mapping of options that any values may stand in. -/
theorem Kind.eq_of_options_mem {k : Kind} {key : String} (h : (key, Part.options) ∈ k.outline) :
    k = .parser ∧ key = "options" := by
  cases k <;> simp [outline, Part.values] at h
  exact ⟨rfl, h⟩

namespace Profile

/-- A mapping that was written for a profile of a kind, which had been read from another one. -/
structure Carried (k : Kind) (m m' : Mapping) : Prop where
  kept {key : String} (h : key ∉ k.outline.map Prod.fst) : m'.get? key = m.get? key
  noNew {key : String} (h : k.look m key = none) : m'.get? key = none
  dropped {key : String} {v : Json} (h : k.look m key = some v) (hd : m'.get? key = none) :
    v = .null ∨ (k = .parser ∧ key = "options" ∧ v = .object [])
  parts {e : String × Part} (he : e ∈ k.outline) : e.2.Retains (k.look m e.1) (m'.get? e.1)

theorem carried_of_parts {k : Kind} {m m' : Mapping}
    (hkept : ∀ key, key ∉ k.outline.map Prod.fst → m'.get? key = m.get? key)
    (hparts : ∀ e ∈ k.outline, e.2.Retains (k.look m e.1) (m'.get? e.1)) : Carried k m m' where
  kept := hkept _
  parts := hparts _
  noNew {key} h := by
    by_cases hkey : key ∈ k.outline.map Prod.fst
    · obtain ⟨e, he, rfl⟩ := List.mem_map.1 hkey
      have := hparts e he
      rw [h] at this
      exact this.eq_none
    · rw [hkept key hkey, ← Kind.look_of_notMem hkey, h]
  dropped {key v} h hd := by
    by_cases hkey : key ∈ k.outline.map Prod.fst
    · obtain ⟨⟨key, part⟩, he, rfl⟩ := List.mem_map.1 hkey
      have := hparts _ he
      rw [h, hd] at this
      rcases this.of_none with hnull | ⟨rfl, hempty⟩
      · exact .inl hnull
      · obtain ⟨hk, hoptions⟩ := Kind.eq_of_options_mem he
        exact .inr ⟨hk, hoptions, hempty⟩
    · rw [hkept key hkey, ← Kind.look_of_notMem hkey, h] at hd
      cases hd

theorem carried_of_read? {k : Kind} {m : Mapping} {p : Profile} (h : read? k m = .ok p) :
    Carried k m p.toMapping := by
  cases k <;> simp only [read?, map_eq_ok_iff] at h <;> obtain ⟨q, hq, rfl⟩ := h
  · exact carried_of_parts (ApiProfile.carries_codec m q hq).1 (ApiProfile.carries_codec m q hq).2
  · exact carried_of_parts (PipelineProfile.carries_codec m q hq).1 (PipelineProfile.carries_codec m q hq).2
  · exact carried_of_parts (PromptProfile.carries_codec m q hq).1 (PromptProfile.carries_codec m q hq).2
  · exact carried_of_parts (ParserProfile.carries_codec m q hq).1 (ParserProfile.carries_codec m q hq).2
  · exact carried_of_parts (PolicyProfile.carries_codec m q hq).1 (PolicyProfile.carries_codec m q hq).2
  · exact carried_of_parts (ChunkProfile.carries_codec m q hq).1 (ChunkProfile.carries_codec m q hq).2

/-- A profile that is read from a mapping is read again from the mapping it is written as, and that mapping has
all that is not modelled. -/
theorem carried_of_ofMapping {k : Kind} {m : Mapping} {p : Profile} (h : ofMapping k m = .ok p) :
    ofMapping k p.toMapping = .ok p ∧ Carried k m p.toMapping := by
  have hread := ofMapping_eq_ok_iff.1 h
  obtain ⟨rfl, hkeeps⟩ := keeps_of_read? hread
  exact ⟨ofMapping_eq_ok_iff.2 hkeeps, carried_of_read? hread⟩

/-- A chunk profile with the older key of its type, a number for its id, and nulls. -/
def olderChunk : Mapping :=
  [("id", .number (.natural 5)), ("name", .null),
    ("options", .object [("max_chars", .string "many"), ("target_chars", .null), ("y", .bool true)]),
    ("type", .string "doc"), ("x", .null)]

theorem carried_of_ofMapping_olderChunk :
    ∃ p, ofMapping .chunk olderChunk = .ok p ∧
      p.toMapping = [("chunk_type", .string "doc"), ("id", .string "5"),
        ("options", .object [("max_chars", .string "many"), ("y", .bool true)]), ("x", .null)] ∧
      ofMapping .chunk p.toMapping = .ok p ∧ Carried .chunk olderChunk p.toMapping := by
  have h : ofMapping .chunk olderChunk = .ok _ := rfl
  exact ⟨_, h, by decide +kernel, carried_of_ofMapping h⟩

end Profile
end ProfileKit

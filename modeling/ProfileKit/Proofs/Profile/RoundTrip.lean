import ProfileKit.Profile
import ProfileKit.Proofs.Table

/-!
# Profiles read back from their mappings

A field *keeps* a value if it reads the value back from what it writes for it, and it is *faithful* if
it keeps whatever it reads. Faithful fields make lawful records, lawful records faithful codecs, and so
every profile that is read from a mapping is read again from the mapping that it is written as
(`Profile.keeps_of_read?`). Texts are kept whatever they are, so that also holds after the id or a
reference was changed (`Profile.Keeps.setId`, `Profile.Keeps.ofPipeline`).
-/

namespace ProfileKit

/-! ## Fields -/

namespace Field

variable {α : Type}

/-- The value is read back from what is written for it, which is not refused. -/
def Keeps (f : Field α) (a : α) : Prop :=
  f.read (f.write a) = a ∧ ∀ v, f.write a = some v → f.fault? v = none

/-- The field keeps whatever it reads without refusing it. -/
def Faithful (f : Field α) : Prop :=
  ∀ v : Option Json, (∀ w, v = some w → f.fault? w = none) → f.Keeps (f.read v)

theorem keeps_looseText (s : Option String) : looseText.Keeps s := by
  cases s <;> simp [Keeps, looseText, looseText?]

theorem keeps_text (s : Option String) : text.Keeps s := by
  cases s <;> simp [Keeps, text, Json.asString?]

theorem keeps_flag (b : Option Bool) : flag.Keeps b := by
  cases b <;> simp [Keeps, flag, Json.asBool?]

theorem keeps_texts (xs : Option (List String)) : texts.Keeps xs := by
  cases xs with
  | none => simp [Keeps, texts]
  | some xs =>
    have h : (xs.map Json.string).filterMap Json.asString? = xs := by
      rw [List.filterMap_map]
      exact List.filterMap_some
    simp [Keeps, texts, h, Json.asString?]

theorem keeps_options (fields : Mapping) : options.Keeps fields := by
  cases fields <;> simp [Keeps, options]

theorem faithful_looseText : looseText.Faithful := fun _ _ => keeps_looseText _

theorem faithful_text : text.Faithful := fun _ _ => keeps_text _

theorem faithful_flag : flag.Faithful := fun _ _ => keeps_flag _

theorem faithful_texts : texts.Faithful := fun _ _ => keeps_texts _

theorem faithful_options : options.Faithful := fun _ _ => keeps_options _

theorem present_eq_self {v : Option Json} (h : v ≠ some .null) : present v = v := by
  cases v with
  | none => rfl
  | some v => cases v <;> first | rfl | exact absurd rfl h

theorem present_ne_null (v : Option Json) : present v ≠ some .null := by
  cases v with
  | none => simp [present]
  | some v => cases v <;> simp [present]

theorem faithful_anyValue : anyValue.Faithful := fun v _ =>
  ⟨present_eq_self (present_ne_null v), fun _ _ => rfl⟩

/-- What is no natural number is kept as it is found, so it is found again. -/
theorem faithful_count : count.Faithful := fun v _ => by
  refine ⟨?_, fun _ _ => rfl⟩
  have hv := present_ne_null v
  simp only [count]
  generalize present v = w at hv ⊢
  rcases w with _ | w
  · rfl
  · cases w with
    | null => exact absurd rfl hv
    | number n => cases n <;> rfl
    | _ => rfl

theorem faithful_ratio : ratio.Faithful := fun v _ => by
  refine ⟨?_, fun _ _ => rfl⟩
  have hv := present_ne_null v
  simp only [ratio]
  generalize present v = w at hv ⊢
  rcases w with _ | w
  · rfl
  · cases w with
    | null => exact absurd rfl hv
    | _ => rfl

end Field

/-! ## Records -/

namespace Record

variable {α β : Type} {r : Record α} {s : Record β} {P : α → Prop} {Q : β → Prop}

/-- A record that keeps the values with a property. It touches no key but its own, what it writes is
not refused and is read back, and what it reads without a fault has the property. -/
structure Lawful (r : Record α) (P : α → Prop) : Prop where
  filter_write {p : String → Bool} (h : ∀ k ∈ r.keys, p k = false) (a : α) (m : Mapping) :
    (r.write a m).filter (fun e => p e.1) = m.filter fun e => p e.1
  read_congr {m m' : Mapping} (h : ∀ k ∈ r.keys, m.get? k = m'.get? k) : r.read m = r.read m'
  faultAt?_of_notMem {k : String} (h : k ∉ r.keys) (m : Mapping) (v : Json) : r.faultAt? m k v = none
  read_write {a : α} (h : P a) (m : Mapping) : r.read (r.write a m) = a
  faultAt?_write {a : α} (h : P a) {m : Mapping} (hm : ∀ e ∈ m, e.1 ∉ r.keys) (m' : Mapping)
    {e : String × Json} (he : e ∈ r.write a m) : r.faultAt? m' e.1 e.2 = none
  keeps_read {m : Mapping} (h : r.fault? m = none) : P (r.read m)

theorem fault?_eq_none_iff {m : Mapping} :
    r.fault? m = none ↔ ∀ e ∈ m, r.faultAt? m e.1 e.2 = none := by
  simp [fault?, List.findSome?_eq_none_iff]

/-- What is written stands under the record's keys, or was there before. -/
theorem Lawful.mem_write (h : r.Lawful P) {a : α} {m : Mapping} {e : String × Json}
    (he : e ∈ r.write a m) : e.1 ∈ r.keys ∨ e ∈ m := by
  by_cases hk : e.1 ∈ r.keys
  · exact .inl hk
  · have hp : ∀ k ∈ r.keys, (!r.keys.contains k) = false := fun k hk => by simpa using hk
    have : e ∈ (r.write a m).filter fun e => !r.keys.contains e.1 :=
      List.mem_filter.2 ⟨he, by simpa using hk⟩
    rw [h.filter_write hp] at this
    exact .inr (List.mem_filter.1 this).1

theorem Lawful.get?_write (h : r.Lawful P) {k : String} (hk : k ∉ r.keys) (a : α) (m : Mapping) :
    (r.write a m).get? k = m.get? k := by
  have hp : ∀ j ∈ r.keys, decide (j = k) = false := fun j hj => by
    simp only [decide_eq_false_iff_not]
    rintro rfl
    exact hk hj
  have hk' : decide (k = k) = true := by simp
  rw [← Table.get?_filter (p := fun j => decide (j = k)) hk', h.filter_write hp,
    Table.get?_filter (p := fun j => decide (j = k)) hk']

theorem lawful_field (key : String) {f : Field α} (h : f.Faithful) : (field key f).Lawful f.Keeps where
  filter_write hp a m := Table.filter_put (hp key (by simp [field])) m (f.write a)
  read_congr h := congrArg f.read (h key (by simp [field]))
  faultAt?_of_notMem hk m v := by
    simp only [field, List.mem_singleton] at hk ⊢
    exact if_neg hk
  read_write ha m := by simp [field, Table.get?_put, ha.1]
  faultAt?_write {a} ha m hm m' e he := by
    simp only [field] at he ⊢
    split
    · rename_i hkey
      rcases Table.mem_put he with ⟨v, hv, rfl⟩ | hmem
      · exact ha.2 v hv
      · exact absurd (by simp [field, hkey]) (hm e hmem)
    · rfl
  keeps_read {m} hm := h _ fun w hw => by
    have := fault?_eq_none_iff.1 hm _ (Table.mem_of_get? hw)
    simpa [field] using this

/-- The second spelling is read where the first is missing, and it is never written. -/
theorem lawful_aliasedField {key second : String} (hne : key ≠ second) {f : Field α} (h : f.Faithful) :
    (aliasedField key second f).Lawful f.Keeps where
  filter_write {p} hp a m := by
    have hkey : p key = false := hp key (by simp [aliasedField])
    have hsecond : p second = false := hp second (by simp [aliasedField])
    simp only [aliasedField]
    rw [Table.filter_put hkey, Table.filter_erase hsecond]
  read_congr {m m'} h := by
    simp only [aliasedField] at h ⊢
    rw [h key (by simp), h second (by simp)]
  faultAt?_of_notMem {k} hk m v := by
    simp only [aliasedField, List.mem_cons, List.not_mem_nil, or_false, not_or] at hk ⊢
    rw [if_neg hk.1, if_neg hk.2]
  read_write {a} ha m := by
    have hsecond : Table.get? second (Table.put (Table.erase second m) key (f.write a)) = none := by
      rw [Table.get?_put, if_neg hne, Table.get?_erase, if_pos rfl]
    simp only [aliasedField]
    rw [hsecond, Table.get?_put, if_pos rfl, Option.or_none, ha.1]
  faultAt?_write {a} ha m hm m' e he := by
    simp only [aliasedField] at he ⊢
    rcases Table.mem_put he with ⟨v, hv, rfl⟩ | hmem
    · rw [if_pos rfl]
      exact ha.2 v hv
    · obtain ⟨hmem, hk⟩ := Table.mem_erase.1 hmem
      rw [if_neg fun e => hm _ hmem (by simp [aliasedField, e]), if_neg hk]
  keeps_read {m} hm := h _ fun w hw => by
    have hfault := fault?_eq_none_iff.1 hm
    cases hkey : m.get? key with
    | some v =>
      have := hfault _ (Table.mem_of_get? hkey)
      simp only [aliasedField, if_true] at this
      simp_all
    | none =>
      have hw : m.get? second = some w := by simpa [hkey] using hw
      have := hfault _ (Table.mem_of_get? hw)
      simpa [aliasedField, Ne.symm hne, Table.contains, hkey] using this

theorem lawful_pair (hr : r.Lawful P) (hs : s.Lawful Q) (hd : ∀ k ∈ r.keys, k ∉ s.keys) :
    (r.pair s).Lawful fun a => P a.1 ∧ Q a.2 where
  filter_write {p} hp a m := by
    simp only [pair, List.mem_append] at hp ⊢
    rw [hs.filter_write fun k hk => hp k (.inr hk), hr.filter_write fun k hk => hp k (.inl hk)]
  read_congr h := by
    simp only [pair, List.mem_append] at h ⊢
    rw [hr.read_congr fun k hk => h k (.inl hk), hs.read_congr fun k hk => h k (.inr hk)]
  faultAt?_of_notMem hk m v := by
    simp only [pair, List.mem_append, not_or] at hk ⊢
    rw [hr.faultAt?_of_notMem hk.1, hs.faultAt?_of_notMem hk.2, Option.or_none]
  read_write {a} ha m := by
    have hread : r.read (s.write a.2 (r.write a.1 m)) = a.1 := by
      rw [hr.read_congr fun k hk => hs.get?_write (hd k hk) a.2 (r.write a.1 m), hr.read_write ha.1]
    simp only [pair, hread, hs.read_write ha.2]
  faultAt?_write {a} ha m hm m' e he := by
    simp only [pair, List.mem_append, not_or] at hm he ⊢
    have hnew : ∀ f ∈ r.write a.1 m, f.1 ∉ s.keys := fun f hf =>
      (hr.mem_write hf).elim (hd f.1) fun hf => (hm f hf).2
    rw [hs.faultAt?_write ha.2 hnew m' he, Option.or_none]
    rcases hs.mem_write he with hk | he
    · exact hr.faultAt?_of_notMem (fun hk' => hd _ hk' hk) m' e.2
    · exact hr.faultAt?_write ha.1 (fun f hf => (hm f hf).1) m' he
  keeps_read {m} hm := by
    have hfault := fault?_eq_none_iff.1 hm
    simp only [pair, Option.or_eq_none_iff] at hfault
    exact ⟨hr.keeps_read (fault?_eq_none_iff.2 fun e he => (hfault e he).1),
      hs.keeps_read (fault?_eq_none_iff.2 fun e he => (hfault e he).2)⟩

theorem lawful_cons {key : String} {f : Field α} (hf : f.Faithful) (hs : s.Lawful Q)
    (hkey : key ∉ s.keys) : (cons key f s).Lawful fun a => f.Keeps a.1 ∧ Q a.2 :=
  lawful_pair (lawful_field key hf) hs fun k hk => by
    rw [List.mem_singleton.1 hk]
    exact hkey

end Record

/-! ## Codecs -/

namespace Codec

variable {α τ : Type} {c : Codec α} {r : Record τ} {P : τ → Prop}

/-- The value is read back from the mapping it is written as. -/
def Keeps (c : Codec α) (a : α) : Prop := c.read? (c.write a) = .ok a

/-- The codec keeps whatever it reads. -/
def Faithful (c : Codec α) : Prop := ∀ m a, c.read? m = .ok a → c.Keeps a

theorem read?_eq_ok_iff {m : Mapping} {a : α} :
    c.read? m = .ok a ↔ c.fault? m = none ∧ c.read m = a := by
  unfold read?
  split <;> simp_all

/-- The mappings of a lawful record keep what the record keeps, along with keys of other names. -/
theorem keeps_ofRecord_iff (h : r.Lawful P) {make : τ → Mapping → α} {split : α → τ × Mapping}
    (hmake : ∀ a, make (split a).1 (split a).2 = a) (hsplit : ∀ t m, split (make t m) = (t, m))
    {a : α} :
    (ofRecord r make split).Keeps a ↔ P (split a).1 ∧ ∀ e ∈ (split a).2, e.1 ∉ r.keys := by
  unfold Keeps
  rw [read?_eq_ok_iff]
  simp only [ofRecord]
  constructor
  · rintro ⟨hfault, hread⟩
    rw [← hread, hsplit]
    refine ⟨h.keeps_read hfault, fun e he => ?_⟩
    simpa using (List.mem_filter.1 he).2
  · rintro ⟨ha, hextra⟩
    have hwrite : r.extra (r.write (split a).1 (split a).2) = (split a).2 := by
      unfold Record.extra
      rw [h.filter_write (p := fun k => !r.keys.contains k) fun k hk => by simpa using hk]
      exact List.filter_eq_self.2 fun e he => by simpa using hextra e he
    refine ⟨Record.fault?_eq_none_iff.2 fun e he => h.faultAt?_write ha hextra _ he, ?_⟩
    rw [h.read_write ha, hwrite, hmake]

theorem faithful_ofRecord (h : r.Lawful P) {make : τ → Mapping → α} {split : α → τ × Mapping}
    (hmake : ∀ a, make (split a).1 (split a).2 = a) (hsplit : ∀ t m, split (make t m) = (t, m)) :
    (ofRecord r make split).Faithful := fun m a hm => by
  obtain ⟨hfault, rfl⟩ := read?_eq_ok_iff.1 hm
  refine (keeps_ofRecord_iff h hmake hsplit).2 ?_
  simp only [ofRecord, hsplit]
  refine ⟨h.keeps_read hfault, fun e he => ?_⟩
  simpa using (List.mem_filter.1 he).2

theorem laws_ofRecord (h : r.Lawful P) {make : τ → Mapping → α} {split : α → τ × Mapping}
    (hmake : ∀ a, make (split a).1 (split a).2 = a) (hsplit : ∀ t m, split (make t m) = (t, m)) :
    (ofRecord r make split).Faithful ∧
      ∀ a, (ofRecord r make split).Keeps a ↔ P (split a).1 ∧ ∀ e ∈ (split a).2, e.1 ∉ r.keys :=
  ⟨faithful_ofRecord h hmake hsplit, fun _ => keeps_ofRecord_iff h hmake hsplit⟩

/-- A first field that keeps everything can be given another value. -/
theorem laws_ofRecord_cons {β : Type} {key : String} {f : Field β} (hf : ∀ b, f.Keeps b)
    (h : (Record.cons key f r).Lawful fun a => f.Keeps a.1 ∧ P a.2)
    {make : β × τ → Mapping → α} {split : α → (β × τ) × Mapping}
    (hmake : ∀ a, make (split a).1 (split a).2 = a) (hsplit : ∀ t m, split (make t m) = (t, m)) :
    (ofRecord (.cons key f r) make split).Faithful ∧
      ∀ a b, (ofRecord (.cons key f r) make split).Keeps a → (split b).1.2 = (split a).1.2 →
        (split b).2 = (split a).2 → (ofRecord (.cons key f r) make split).Keeps b := by
  refine (laws_ofRecord h hmake hsplit).imp_right fun hkeeps a b ha hrest hextra => ?_
  obtain ⟨hfields, hnames⟩ := (hkeeps a).1 ha
  refine (hkeeps b).2 ⟨⟨hf _, hrest ▸ hfields.2⟩, hextra ▸ hnames⟩

theorem keeps_nested {a : Option α} (h : ∀ x, a = some x → c.Keeps x) : c.nested.Keeps a := by
  cases a with
  | none => simp [Field.Keeps, nested]
  | some x =>
    obtain ⟨hfault, hread⟩ := read?_eq_ok_iff.1 (h x rfl)
    simp [Field.Keeps, nested, hfault, hread]

theorem keeps_list {a : Option (List α)} (h : ∀ xs, a = some xs → ∀ x ∈ xs, c.Keeps x) :
    c.list.Keeps a := by
  cases a with
  | none => simp [Field.Keeps, list]
  | some xs =>
    have hxs : ∀ x ∈ xs, c.fault? (c.write x) = none ∧ c.read (c.write x) = x := fun x hx =>
      read?_eq_ok_iff.1 (h xs rfl x hx)
    have hread : xs.map (fun x => c.read (c.write x)) = xs := by
      rw [List.map_congr_left fun x hx => (hxs x hx).2, List.map_id']
    refine ⟨?_, fun v hv => ?_⟩
    · simp only [list, Option.map_some, List.filterMap_map, Function.comp_def]
      rw [← List.filterMap_eq_map'] at hread
      exact congrArg some hread
    · obtain rfl : _ = v := Option.some.inj hv
      simpa [list, List.findSome?_eq_none_iff] using fun x hx => (hxs x hx).1

theorem faithful_nested (h : c.Faithful) : c.nested.Faithful := fun v hv => keeps_nested fun x hx => by
  rcases v with _ | v
  · simp [nested] at hx
  · cases v with
    | object fields =>
      obtain rfl : c.read fields = x := by simpa [nested] using hx
      exact h fields _ (read?_eq_ok_iff.2 ⟨hv _ rfl, rfl⟩)
    | _ => simp [nested] at hx

theorem faithful_list (h : c.Faithful) : c.list.Faithful := fun v hv => keeps_list fun xs hxs x hx => by
  rcases v with _ | v
  · simp [list] at hxs
  · cases v with
    | array items =>
      obtain rfl := Option.some.inj hxs
      obtain ⟨item, hitem, hread⟩ := List.mem_filterMap.1 hx
      have hfault := List.findSome?_eq_none_iff.1 (hv _ rfl) item hitem
      cases item with
      | object fields =>
        obtain rfl := Option.some.inj hread
        exact h fields _ (read?_eq_ok_iff.2 ⟨hfault, rfl⟩)
      | _ => cases hread
    | _ => simp [list] at hxs

end Codec

/-! ## Profiles -/

open ProfileKit.Field Record Codec

theorem ApiEndpoint.faithful_codec : ApiEndpoint.codec.Faithful :=
  faithful_ofRecord
    (lawful_cons faithful_looseText (lawful_cons faithful_text (lawful_cons faithful_text
      (lawful_cons faithful_text (lawful_field _ faithful_count) (by decide)) (by decide))
      (by decide)) (by decide))
    (fun _ => rfl) fun _ _ => rfl

theorem PipelineSettings.faithful_codec : PipelineSettings.codec.Faithful :=
  faithful_ofRecord (lawful_cons faithful_count (lawful_field _ faithful_count) (by decide))
    (fun _ => rfl) fun _ _ => rfl

theorem PromptContext.faithful_codec : PromptContext.codec.Faithful :=
  faithful_ofRecord
    (lawful_cons faithful_count (lawful_cons faithful_count (lawful_cons faithful_text
      (lawful_cons faithful_text (lawful_field _ faithful_count) (by decide)) (by decide))
      (by decide)) (by decide))
    (fun _ => rfl) fun _ _ => rfl

theorem PolicyOptions.faithful_codec : PolicyOptions.codec.Faithful :=
  faithful_ofRecord
    (lawful_cons faithful_looseText (lawful_cons faithful_flag (lawful_cons faithful_ratio
      (lawful_field _ faithful_texts) (by decide)) (by decide)) (by decide))
    (fun _ => rfl) fun _ _ => rfl

theorem ChunkOptions.faithful_codec : ChunkOptions.codec.Faithful :=
  faithful_ofRecord
    (lawful_cons faithful_count (lawful_cons faithful_count (lawful_cons faithful_ratio
      (lawful_cons faithful_count (lawful_cons faithful_flag (lawful_cons faithful_ratio
        (lawful_field _ faithful_count) (by decide)) (by decide)) (by decide)) (by decide))
      (by decide)) (by decide))
    (fun _ => rfl) fun _ _ => rfl

/-! The profiles themselves: what is read is kept, and it stays so with other texts in the fields of
texts. -/

theorem ApiProfile.codec_laws :
    ApiProfile.codec.Faithful ∧
      ∀ p i, ApiProfile.codec.Keeps p → ApiProfile.codec.Keeps { p with id := i } := by
  exact (laws_ofRecord_cons keeps_looseText
    (lawful_cons faithful_looseText (lawful_cons faithful_looseText (lawful_cons faithful_looseText
      (lawful_cons faithful_text (lawful_cons faithful_text (lawful_cons faithful_text
      (lawful_cons faithful_anyValue (lawful_cons faithful_anyValue (lawful_cons faithful_count
      (lawful_cons faithful_count (lawful_cons faithful_count (lawful_cons faithful_count
      (lawful_cons (faithful_list ApiEndpoint.faithful_codec) (lawful_field _ faithful_texts)
        (by decide)) (by decide)) (by decide)) (by decide)) (by decide)) (by decide)) (by decide))
      (by decide)) (by decide)) (by decide)) (by decide)) (by decide)) (by decide))
    (fun _ => rfl) fun _ _ => rfl).imp_right fun h p _ hp => h p _ hp rfl rfl

theorem PipelineProfile.codec_laws :
    PipelineProfile.codec.Faithful ∧
      ∀ p q, PipelineProfile.codec.Keeps p → q.settings = p.settings → q.extra = p.extra →
        PipelineProfile.codec.Keeps q := by
  refine (laws_ofRecord
    (lawful_cons faithful_looseText (lawful_cons faithful_looseText (lawful_cons faithful_looseText
      (lawful_cons faithful_looseText (lawful_cons faithful_looseText
      (lawful_cons faithful_looseText (lawful_cons faithful_looseText (lawful_cons faithful_flag
      (lawful_field _ (faithful_nested PipelineSettings.faithful_codec))
        (by decide)) (by decide)) (by decide)) (by decide)) (by decide)) (by decide)) (by decide))
      (by decide))
    (fun _ => rfl) fun _ _ => rfl).imp_right fun h p q hp hsettings hextra => ?_
  obtain ⟨⟨-, -, -, -, -, -, -, -, hs⟩, he⟩ := (h p).1 hp
  refine (h q).2 ⟨⟨keeps_looseText _, keeps_looseText _, keeps_looseText _, keeps_looseText _,
    keeps_looseText _, keeps_looseText _, keeps_looseText _, keeps_flag _, ?_⟩, ?_⟩
  · exact hsettings ▸ hs
  · exact hextra ▸ he

theorem PromptProfile.codec_laws :
    PromptProfile.codec.Faithful ∧
      ∀ p i, PromptProfile.codec.Keeps p → PromptProfile.codec.Keeps { p with id := i } := by
  exact (laws_ofRecord_cons keeps_looseText
    (lawful_cons faithful_looseText (lawful_cons faithful_looseText (lawful_cons faithful_text
      (lawful_cons faithful_text (lawful_field _ (faithful_nested PromptContext.faithful_codec))
        (by decide)) (by decide)) (by decide)) (by decide))
    (fun _ => rfl) fun _ _ => rfl).imp_right fun h p _ hp => h p _ hp rfl rfl

theorem ParserProfile.codec_laws :
    ParserProfile.codec.Faithful ∧
      ∀ p i, ParserProfile.codec.Keeps p → ParserProfile.codec.Keeps { p with id := i } := by
  exact (laws_ofRecord_cons keeps_looseText
    (lawful_cons faithful_looseText (lawful_cons faithful_looseText (lawful_cons faithful_looseText
      (lawful_field _ faithful_options) (by decide)) (by decide)) (by decide))
    (fun _ => rfl) fun _ _ => rfl).imp_right fun h p _ hp => h p _ hp rfl rfl

theorem PolicyProfile.codec_laws :
    PolicyProfile.codec.Faithful ∧
      ∀ p i, PolicyProfile.codec.Keeps p → PolicyProfile.codec.Keeps { p with id := i } := by
  exact (laws_ofRecord_cons keeps_looseText
    (lawful_cons faithful_looseText (lawful_cons faithful_looseText (lawful_cons faithful_looseText
      (lawful_field _ (faithful_nested PolicyOptions.faithful_codec)) (by decide)) (by decide))
      (by decide))
    (fun _ => rfl) fun _ _ => rfl).imp_right fun h p _ hp => h p _ hp rfl rfl

theorem ChunkProfile.codec_laws :
    ChunkProfile.codec.Faithful ∧
      ∀ p i, ChunkProfile.codec.Keeps p → ChunkProfile.codec.Keeps { p with id := i } := by
  exact (laws_ofRecord_cons keeps_looseText
    (lawful_cons faithful_looseText (lawful_cons faithful_looseText
      (lawful_pair (lawful_aliasedField (by decide) faithful_looseText)
        (lawful_field _ (faithful_nested ChunkOptions.faithful_codec)) (by decide))
      (by decide)) (by decide))
    (fun _ => rfl) fun _ _ => rfl).imp_right fun h p _ hp => h p _ hp rfl rfl

namespace Profile

/-- The profile is read back from the mapping it is written as. -/
def Keeps (p : Profile) : Prop := read? p.kind p.toMapping = .ok p

theorem map_eq_ok_iff {ε α β : Type} {f : α → β} {x : Except ε α} {b : β} :
    x.map f = .ok b ↔ ∃ a, x = .ok a ∧ f a = b := by
  cases x <;> simp [Except.map]

theorem keeps_iff {p : Profile} : p.Keeps ↔
    match p with
    | .api p => ApiProfile.codec.Keeps p
    | .pipeline p => PipelineProfile.codec.Keeps p
    | .prompt p => PromptProfile.codec.Keeps p
    | .parser p => ParserProfile.codec.Keeps p
    | .policy p => PolicyProfile.codec.Keeps p
    | .chunk p => ChunkProfile.codec.Keeps p := by
  unfold Keeps Codec.Keeps
  cases p <;> simp [read?, kind, toMapping, map_eq_ok_iff]

/-- A profile that is read has the kind it is read for, and it is kept. -/
theorem keeps_of_read? {k : Kind} {m : Mapping} {p : Profile} (h : read? k m = .ok p) :
    p.kind = k ∧ p.Keeps := by
  cases k <;> simp only [read?, map_eq_ok_iff] at h <;> obtain ⟨q, hq, rfl⟩ := h <;>
    refine ⟨rfl, keeps_iff.2 ?_⟩
  · exact ApiProfile.codec_laws.1 m q hq
  · exact PipelineProfile.codec_laws.1 m q hq
  · exact PromptProfile.codec_laws.1 m q hq
  · exact ParserProfile.codec_laws.1 m q hq
  · exact PolicyProfile.codec_laws.1 m q hq
  · exact ChunkProfile.codec_laws.1 m q hq

theorem Keeps.setId {p : Profile} (h : p.Keeps) (i : String) : (p.setId i).Keeps := by
  rw [keeps_iff] at h ⊢
  cases p with
  | api p => exact ApiProfile.codec_laws.2 p (some i) h
  | pipeline p => exact PipelineProfile.codec_laws.2 p _ h rfl rfl
  | prompt p => exact PromptProfile.codec_laws.2 p (some i) h
  | parser p => exact ParserProfile.codec_laws.2 p (some i) h
  | policy p => exact PolicyProfile.codec_laws.2 p (some i) h
  | chunk p => exact ChunkProfile.codec_laws.2 p (some i) h

/-- A pipeline with other texts and another flag is kept as well. -/
theorem Keeps.ofPipeline {p q : PipelineProfile} (h : (Profile.pipeline p).Keeps)
    (hsettings : q.settings = p.settings) (hextra : q.extra = p.extra) : (Profile.pipeline q).Keeps :=
  keeps_iff.2 (PipelineProfile.codec_laws.2 p q (keeps_iff.1 h) hsettings hextra)

/-! ## Text -/

/-- The YAML text of a profile is read back as the mapping that it was written for. -/
def ReadsBack (p : Profile) : Prop := Document.readMapping p.toYaml = .ok p.toMapping

instance (p : Profile) : Decidable p.ReadsBack :=
  inferInstanceAs (Decidable (Document.readMapping p.toYaml = .ok p.toMapping))

theorem ofMapping_eq_ok_iff {k : Kind} {m : Mapping} {p : Profile} : ofMapping k m = .ok p ↔ read? k m = .ok p := by
  rw [ofMapping]
  cases read? k m <;> simp [Except.mapError]

theorem parse_eq_ok_iff {k : Kind} {text : String} {p : Profile} :
    parse k text = .ok p ↔ ∃ m, Document.readMapping text = .ok m ∧ read? k m = .ok p := by
  rw [parse]
  cases Document.readMapping text with
  | error e => simp [bind, Except.bind]
  | ok m => simp [bind, Except.bind, ofMapping_eq_ok_iff]

/-- A profile that is read has the kind it is read for, and it is kept. -/
theorem keeps_of_parse {k : Kind} {text : String} {p : Profile} (h : parse k text = .ok p) :
    p.kind = k ∧ p.Keeps := by
  obtain ⟨m, -, hm⟩ := parse_eq_ok_iff.1 h
  exact keeps_of_read? hm

theorem parse_toYaml {p : Profile} (h : p.Keeps) (hy : p.ReadsBack) :
    parse p.kind p.toYaml = .ok p :=
  parse_eq_ok_iff.2 ⟨p.toMapping, hy, h⟩

end Profile
end ProfileKit

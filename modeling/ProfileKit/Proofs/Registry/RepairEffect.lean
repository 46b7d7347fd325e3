import ProfileKit.Proofs.Registry.Repair

/-!
# The exact effect of a repair

A repair rewrites the pipelines that read and refer to the old id, each to itself with one reference
changed, and leaves every other entry as it is, whether it reads or not (`Repair.Effect`). What it
writes has to be read back to see that nothing refers to the old id any more, and that a second repair
finds nothing to do; `Repair.ReadsRepaired` is that assumption, for the texts that are written only.
-/

namespace ProfileKit.Repair

open MemoryStore

variable {k : Kind} {old : String} {sub new : Option String} {s : MemoryStore}

/-- The text reads as a pipeline that refers to `old`. -/
def Refers (k : Kind) (old text : String) (p : PipelineProfile) : Prop :=
  Profile.parse .pipeline text = .ok (.pipeline p) ∧ p.reference k = some old

theorem ne_pipeline_of_reference {p : PipelineProfile} {id : String} (h : p.reference k = some id) :
    k ≠ .pipeline := by
  rintro rfl
  cases h

theorem parse_pipeline_inj {text : String} {p q : PipelineProfile}
    (hp : Profile.parse .pipeline text = .ok (.pipeline p))
    (hq : Profile.parse .pipeline text = .ok (.pipeline q)) : p = q :=
  Profile.pipeline.inj (Except.ok.inj (hp.symm.trans hq))

theorem not_refers_of_reference_ne {text : String} {p : PipelineProfile}
    (hp : Profile.parse .pipeline text = .ok (.pipeline p)) (h : p.reference k ≠ some old)
    (q : PipelineProfile) : ¬ Refers k old text q := by
  rintro ⟨hq, href⟩
  exact h (parse_pipeline_inj hp hq ▸ href)

/-! ## One pipeline -/

/-- One reference is another one, and nothing else is, but that lines are not aligned any more where the
line policy was taken away. -/
structure Repointed (k : Kind) (sub : Option String) (p q : PipelineProfile) : Prop where
  slot : q.slot k = sub
  slot_of_ne : ∀ j, j ≠ k → q.slot j = p.slot j
  applyLinePolicy : q.applyLinePolicy =
    if k = .policy ∧ sub = none then some false else p.applyLinePolicy
  id : q.id = p.id
  name : q.name = p.name
  settings : q.settings = p.settings
  extra : q.extra = p.extra

theorem slot_repoint (j : Kind) (p : PipelineProfile) :
    (repoint k sub p).slot j = (p.setSlot k sub).slot j := by
  unfold repoint
  split <;> cases j <;> rfl

theorem repointed_repoint (hk : k ≠ .pipeline) (p : PipelineProfile) :
    Repointed k sub p (repoint k sub p) where
  slot := (slot_repoint k p).trans (p.slot_setSlot k sub hk)
  slot_of_ne j hj := (slot_repoint j p).trans (p.slot_setSlot_of_ne sub hj)
  applyLinePolicy := by cases k <;> cases sub <;> rfl
  id := by cases k <;> cases sub <;> rfl
  name := by cases k <;> cases sub <;> rfl
  settings := by cases k <;> cases sub <;> rfl
  extra := by cases k <;> cases sub <;> rfl

theorem Repointed.reference {p q : PipelineProfile} (h : Repointed k sub p q) :
    q.reference k = sub.bind Text.nonBlank? := by
  rw [PipelineProfile.reference, h.slot]

theorem Repointed.reference_eq_some {p q : PipelineProfile} {n : String} (h : Repointed k sub p q)
    (hsub : sub = some n) (hn : Id.isValid n = true) : q.reference k = some n := by
  rw [h.reference, hsub, Option.bind_some, Id.nonBlank?_of_isValid hn]

theorem Repointed.reference_of_ne {p q : PipelineProfile} (h : Repointed k sub p q) {j : Kind}
    (hj : j ≠ k) : q.reference j = p.reference j := by
  rw [PipelineProfile.reference, h.slot_of_ne j hj, PipelineProfile.reference]

/-- A pipeline that was read is still one that reads when its reference has been changed. -/
theorem Repointed.keeps {p q : PipelineProfile} (h : Repointed k sub p q)
    (hp : (Profile.pipeline p).Keeps) : (Profile.pipeline q).Keeps :=
  hp.ofPipeline h.settings h.extra

/-! ## One text -/

theorem repairedText_of_refers {text : String} {p : PipelineProfile} (h : Refers k old text p) :
    repairedText k old sub text = (Profile.pipeline (repoint k sub p)).toYaml :=
  repairedText_of_some (referring?_eq_some_iff.2 h)

theorem repairedText_of_not_refers {text : String} (h : ∀ p, ¬ Refers k old text p) :
    repairedText k old sub text = text := by
  cases hr : referring? k old text with
  | none => exact repairedText_of_none hr
  | some p => exact absurd (referring?_eq_some_iff.1 hr) (h p)

theorem parse_repairedText (hk : k ≠ .pipeline) {text : String} {p : PipelineProfile}
    (h : Refers k old text p) (hy : (Profile.pipeline (repoint k sub p)).ReadsBack) :
    Profile.parse .pipeline (repairedText k old sub text) = .ok (.pipeline (repoint k sub p)) := by
  rw [repairedText_of_refers h]
  exact Profile.parse_toYaml ((repointed_repoint hk p).keeps (Profile.keeps_of_parse h.1).2) hy

/-- A text that was rewritten does not refer to `old` any more. -/
theorem not_refers_repairedText (hk : k ≠ .pipeline) (hsub : ∀ n, sub = some n → Id.isValid n = true ∧ n ≠ old)
    {text : String} (hy : ∀ p, Refers k old text p → (Profile.pipeline (repoint k sub p)).ReadsBack)
    (q : PipelineProfile) : ¬ Refers k old (repairedText k old sub text) q := by
  rintro ⟨hq, href⟩
  by_cases h : ∃ p, Refers k old text p
  · obtain ⟨p, hp⟩ := h
    obtain rfl := parse_pipeline_inj (parse_repairedText hk hp (hy p hp)) hq
    cases sub with
    | none =>
      rw [(repointed_repoint hk p).reference] at href
      cases href
    | some n =>
      obtain ⟨hvalid, hne⟩ := hsub n rfl
      rw [(repointed_repoint hk p).reference_eq_some rfl hvalid] at href
      exact hne (Option.some.inj href)
  · rw [repairedText_of_not_refers fun p hp => h ⟨p, hp⟩] at hq
    exact h ⟨q, hq, href⟩

/-! ## Substitutes -/

/-- What takes the place of `old`: the new id, or else the least other id that is stored, if any. -/
def IsSubstitute (k : Kind) (old : String) (s : MemoryStore) : (new sub : Option String) → Prop
  | some n, sub => sub = some n
  | none, some first => s.contains ⟨k, first⟩ = true ∧ first ≠ old ∧
      ∀ other, s.contains ⟨k, other⟩ = true → other ≠ old → first ≤ other
  | none, none => ∀ other, s.contains ⟨k, other⟩ = true → other = old

theorem isSubstitute_iff (h : s.WellFormed) :
    IsSubstitute k old s new sub ↔ sub = substitute k old new s := by
  cases new with
  | some n => rfl
  | none =>
    show IsSubstitute k old s none sub ↔ sub = firstOther? k old s
    rw [eq_comm]
    cases sub with
    | none => exact firstOther?_eq_none_iff.symm
    | some first => exact h.firstOther?_eq_some_iff.symm

/-- A substitute is a valid id, and not the old one. -/
theorem IsSubstitute.valid (h : s.WellFormed) (hsub : IsSubstitute k old s new sub)
    (hnew : ∀ n, new = some n → Id.isValid n = true ∧ n ≠ old) :
    ∀ n, sub = some n → Id.isValid n = true ∧ n ≠ old := by
  rintro n rfl
  cases new with
  | some m => exact hnew n hsub.symm
  | none => exact ⟨h.isValid hsub.1, hsub.2.1⟩

/-! ## Stores -/

/-- What a repair writes is read back. -/
def ReadsRepaired (k : Kind) (old : String) (sub : Option String) (s : MemoryStore) : Prop :=
  ∀ id text p, s.get? ⟨.pipeline, id⟩ = some text → Refers k old text p →
    (Profile.pipeline (repoint k sub p)).ReadsBack

theorem readsRepaired_of_forall_mem
    (h : ∀ e ∈ s, ∀ p ∈ referring? k old e.2, (Profile.pipeline (repoint k sub p)).ReadsBack) :
    ReadsRepaired k old sub s :=
  fun _ _ p hg hp => h _ (Table.mem_of_get? hg) p (referring?_eq_some_iff.2 hp)

/-- From the store `s`, a repair got to the store `s'` and to a report. -/
structure Effect (k : Kind) (old : String) (sub : Option String) (s : MemoryStore) (report : RepairReport)
    (s' : MemoryStore) : Prop where
  /-- A pipeline that reads and refers to the old id is written with another reference. -/
  rewritten : ∀ id text p, s.get? ⟨.pipeline, id⟩ = some text → Refers k old text p →
    ∃ q, Repointed k sub p q ∧ s'.get? ⟨.pipeline, id⟩ = some (Profile.pipeline q).toYaml ∧
      (Profile.pipeline q).toYaml ≠ text
  /-- Every other entry stays, and none comes up. -/
  untouched : ∀ key,
    (∀ text p, key.kind = .pipeline → s.get? key = some text → ¬ Refers k old text p) →
    s'.get? key = s.get? key
  /-- The number of the entries that changed. -/
  updated : report.updated = (s.filter fun e => s'.get? e.1 ≠ some e.2).length
  /-- A reference was taken away. -/
  missingFallback : report.missingFallback = true ↔
    sub = none ∧ ∃ id text p, s.get? ⟨.pipeline, id⟩ = some text ∧ Refers k old text p
  /-- Nothing that reads refers to the old id. -/
  cleared : ∀ id text p, s'.get? ⟨.pipeline, id⟩ = some text → ¬ Refers k old text p

theorem isReferring_iff {e : Key × String} :
    isReferring k old e = true ↔ e.1.kind = .pipeline ∧ ∃ p, Refers k old e.2 p := by
  simp only [isReferring, Bool.and_eq_true, decide_eq_true_eq, Option.isSome_iff_exists,
    referring?_eq_some_iff, Refers]

theorem cleared_repaired (hk : k ≠ .pipeline) (hsub : ∀ n, sub = some n → Id.isValid n = true ∧ n ≠ old)
    (hy : ReadsRepaired k old sub s) {id text : String} {p : PipelineProfile}
    (hg : (repaired k old sub s).get? ⟨.pipeline, id⟩ = some text) : ¬ Refers k old text p := by
  rw [get?_repaired, if_pos rfl, Option.map_eq_some_iff] at hg
  obtain ⟨before, hb, rfl⟩ := hg
  exact not_refers_repairedText hk hsub (fun p => hy id before p hb) p

/-- An entry changes exactly if it is a pipeline that refers to the old id. -/
theorem get?_repaired_ne_iff (h : s.WellFormed) (hk : k ≠ .pipeline)
    (hsub : ∀ n, sub = some n → Id.isValid n = true ∧ n ≠ old) (hy : ReadsRepaired k old sub s)
    {e : Key × String} (he : e ∈ s) :
    (repaired k old sub s).get? e.1 ≠ some e.2 ↔ isReferring k old e = true := by
  obtain ⟨⟨j, id⟩, text⟩ := e
  have hg : s.get? ⟨j, id⟩ = some text := (Table.get?_eq_some_iff h.sorted).2 he
  rw [isReferring_iff]
  constructor
  · intro hne
    by_contra hno
    refine hne ?_
    rw [get?_repaired, hg]
    split
    · rename_i hj
      rw [Option.map_some, repairedText_of_not_refers fun p hp => hno ⟨hj, p, hp⟩]
    · rfl
  · rintro ⟨hj, p, hp⟩ heq
    obtain rfl : j = .pipeline := hj
    exact cleared_repaired hk hsub hy heq hp

theorem effect_repaired (h : s.WellFormed) (hk : k ≠ .pipeline)
    (hsub : ∀ n, sub = some n → Id.isValid n = true ∧ n ≠ old) (hy : ReadsRepaired k old sub s) :
    Effect k old sub s (reportOf sub .none (s.countP (isReferring k old))) (repaired k old sub s) where
  rewritten id text p hg hp := by
    have hget : (repaired k old sub s).get? ⟨.pipeline, id⟩ =
        some (Profile.pipeline (repoint k sub p)).toYaml := by
      rw [get?_repaired, if_pos rfl, hg, Option.map_some, repairedText_of_refers hp]
    exact ⟨_, repointed_repoint hk p, hget, fun e => cleared_repaired hk hsub hy (e ▸ hget) hp⟩
  untouched key hno := by
    rw [get?_repaired]
    split
    · rename_i hj
      cases hg : s.get? key with
      | none => rfl
      | some text => rw [Option.map_some, repairedText_of_not_refers fun p => hno text p hj hg]
    · rfl
  updated := by
    rw [← List.countP_eq_length_filter]
    simp only [reportOf, RepairReport.none, Nat.zero_add]
    refine List.countP_congr fun e he => ?_
    rw [decide_eq_true_eq]
    exact (get?_repaired_ne_iff h hk hsub hy he).symm
  missingFallback := by
    simp only [reportOf, RepairReport.none, Bool.false_or, Bool.and_eq_true, Option.isNone_iff_eq_none,
      decide_eq_true_eq, List.countP_pos_iff, isReferring_iff]
    refine and_congr_right fun _ => ?_
    constructor
    · rintro ⟨⟨⟨j, id⟩, text⟩, he, rfl, p, hp⟩
      exact ⟨id, text, p, (Table.get?_eq_some_iff h.sorted).2 he, hp⟩
    · rintro ⟨id, text, p, hg, hp⟩
      exact ⟨_, Table.mem_of_get? hg, rfl, p, hp⟩
  cleared id text p hg := cleared_repaired hk hsub hy hg

/-- Where nothing refers to the old id, a repair does nothing. -/
theorem eval_run_of_cleared (h : s.WellFormed)
    (hno : ∀ id text p, s.get? ⟨.pipeline, id⟩ = some text → ¬ Refers k old text p)
    (new : Option String) : (run store k old new).eval s = (.ok .none, s) := by
  have hcount : s.countP (isReferring k old) = 0 := by
    rw [List.countP_eq_zero]
    rintro ⟨⟨j, id⟩, text⟩ he hr
    obtain ⟨rfl, p, hp⟩ := isReferring_iff.1 hr
    exact hno id text p ((Table.get?_eq_some_iff h.sorted).2 he) hp
  have hsame : repaired k old (substitute k old new s) s = s := by
    refine Table.ext (wellFormed_repaired h).sorted h.sorted fun key => ?_
    rw [get?_repaired]
    split
    · rename_i hj
      obtain ⟨j, id⟩ := key
      obtain rfl : j = .pipeline := hj
      cases hg : s.get? ⟨.pipeline, id⟩ with
      | none => rfl
      | some text => rw [Option.map_some, repairedText_of_not_refers fun p => hno id text p hg]
    · rfl
  rw [eval_run h, hcount, hsame]
  simp [reportOf, RepairReport.none]

/-- A repair always comes to an end without an error. It replaces the references to the old id by its
substitute and changes nothing else, and a second one has no effect. -/
theorem run_effect (h : s.WellFormed) (hk : k ≠ .pipeline)
    (hnew : ∀ n, new = some n → Id.isValid n = true ∧ n ≠ old)
    (hy : ∀ sub, IsSubstitute k old s new sub → ReadsRepaired k old sub s) :
    ∃ sub report s', IsSubstitute k old s new sub ∧
      (run store k old new).eval s = (.ok report, s') ∧ Effect k old sub s report s' ∧
      (run store k old new).eval s' = (.ok ⟨0, false⟩, s') := by
  have his : IsSubstitute k old s new (substitute k old new s) := (isSubstitute_iff h).2 rfl
  have hsub := his.valid h hnew
  have heffect := effect_repaired h hk hsub (hy _ his)
  exact ⟨_, _, _, his, eval_run h k old new, heffect,
    eval_run_of_cleared (wellFormed_repaired h) heffect.cleared new⟩

/-- A pipeline that does not read, and one with the only line policy. -/
def onePolicy : MemoryStore :=
  [(⟨.pipeline, "a"⟩, "- 1\n"), (⟨.pipeline, "p"⟩, "id: p\nline_policy: strict\nnote: 7\n")]

theorem run_effect_onePolicy :
    onePolicy.countP (isReferring .policy "strict") = 1 ∧
      ∃ sub report s', IsSubstitute .policy "strict" onePolicy none sub ∧
        (run store .policy "strict" none).eval onePolicy = (.ok report, s') ∧
        Effect .policy "strict" sub onePolicy report s' ∧
        (run store .policy "strict" none).eval s' = (.ok ⟨0, false⟩, s') := by
  have h : onePolicy.WellFormed := wellFormed_of_forall_mem (by decide) (by decide)
  refine ⟨by decide +kernel, run_effect h (by decide) (by simp) fun sub hsub => ?_⟩
  obtain rfl := (isSubstitute_iff h).1 hsub
  exact readsRepaired_of_forall_mem (by decide +kernel)

end ProfileKit.Repair

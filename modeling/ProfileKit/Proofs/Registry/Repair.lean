import ProfileKit.Proofs.Store.Memory
import ProfileKit.Registry.Repair

/-!
# What a repair does to a store in memory

The loop of `Repair.run` lists, loads and saves one pipeline after the other. On a well-formed store in
memory it never fails, and it comes to replacing the text of every pipeline that refers to the old id in
place (`Repair.eval_run`). What `Repair.repaired` says about whole stores is therefore a fact about one text.
-/

namespace ProfileKit.Repair

open MemoryStore

variable {k : Kind} {old : String} {sub : Option String} {s : MemoryStore}

/-! ## One text -/

/-- The pipeline of a text that refers to `old`. -/
def referring? (k : Kind) (old text : String) : Option PipelineProfile :=
  match Profile.parse .pipeline text with
  | .ok (.pipeline p) => if p.reference k = some old then some p else none
  | _ => none

theorem referring?_eq_some_iff {text : String} {p : PipelineProfile} :
    referring? k old text = some p ↔
      Profile.parse .pipeline text = .ok (.pipeline p) ∧ p.reference k = some old := by
  unfold referring?
  split
  · rename_i q hq
    by_cases hr : q.reference k = some old
    · rw [if_pos hr, hq]
      simp only [Option.some.injEq, Except.ok.injEq, Profile.pipeline.injEq]
      exact ⟨fun e => ⟨e, e ▸ hr⟩, And.left⟩
    · rw [if_neg hr, hq]
      simp only [reduceCtorEq, Except.ok.injEq, Profile.pipeline.injEq, false_iff, not_and]
      exact fun e => e ▸ hr
  · rename_i hno
    simp only [reduceCtorEq, false_iff, not_and]
    exact fun h => absurd h (hno p)

/-- What becomes of the text of a pipeline. -/
def repairedText (k : Kind) (old : String) (sub : Option String) (text : String) : String :=
  match referring? k old text with
  | some p => (Profile.pipeline (repoint k sub p)).toYaml
  | none => text

theorem repairedText_of_some {text : String} {p : PipelineProfile} (h : referring? k old text = some p) :
    repairedText k old sub text = (Profile.pipeline (repoint k sub p)).toYaml := by
  unfold repairedText
  rw [h]

theorem repairedText_of_none {text : String} (h : referring? k old text = none) :
    repairedText k old sub text = text := by
  unfold repairedText
  rw [h]

/-! ## One pipeline -/

/-- A repair of one pipeline rewrites its text if that refers to `old`, and does nothing otherwise. -/
theorem eval_repairPipeline (h : s.WellFormed) (report : RepairReport) (id : String) :
    (repairPipeline store k old sub report id).eval s =
      match (s.get? ⟨.pipeline, id⟩).bind (referring? k old) with
      | some p => (.ok ⟨report.updated + 1, report.missingFallback || sub.isNone⟩,
          s.insert ⟨.pipeline, id⟩ (Profile.pipeline (repoint k sub p)).toYaml)
      | none => (.ok report, s) := by
  unfold repairPipeline
  simp only [Action.eval_bind, Action.eval_attempt, eval_load, load]
  cases hg : s.get? ⟨.pipeline, id⟩ with
  | none => simp
  | some text =>
    have hid : Id.isValid id = true := h.isValid (Table.contains_iff.2 ⟨text, hg⟩)
    simp only [StoredProfile.ofText, Option.bind_some]
    unfold referring?
    cases hp : Profile.parse .pipeline text with
    | error e => simp [Except.map]
    | ok q =>
      cases q with
      | pipeline p =>
        by_cases hr : p.reference k = some old
        · simp [Except.map, hr, Action.eval_bind, save_overwrite hid]
        · simp [Except.map, hr]
      | _ => simp [Except.map]

/-- How many of the pipelines refer to `old`. -/
def referringCount (k : Kind) (old : String) (ids : List String) (s : MemoryStore) : Nat :=
  ids.countP fun id => ((s.get? ⟨.pipeline, id⟩).bind (referring? k old)).isSome

/-- The report after a number of pipelines more were rewritten. -/
def reportOf (sub : Option String) (report : RepairReport) (n : Nat) : RepairReport :=
  ⟨report.updated + n, report.missingFallback || (sub.isNone && decide (0 < n))⟩

theorem reportOf_reportOf (report : RepairReport) (m n : Nat) :
    reportOf sub (reportOf sub report m) n = reportOf sub report (m + n) := by
  simp [reportOf, Nat.add_assoc, Bool.and_or_distrib_left, Bool.or_assoc]

variable (k old sub) in
/-- One round of the loop: only the text of its own pipeline changes. -/
theorem repairPipeline_spec (h : s.WellFormed) (report : RepairReport) (id : String) :
    ∃ s', (repairPipeline store k old sub report id).eval s =
        (.ok (reportOf sub report (referringCount k old [id] s)), s') ∧ s'.WellFormed ∧
      ∀ key, s'.get? key =
        if key = ⟨.pipeline, id⟩ then (s.get? key).map (repairedText k old sub) else s.get? key := by
  rw [eval_repairPipeline h]
  cases hr : (s.get? ⟨.pipeline, id⟩).bind (referring? k old) with
  | none =>
    refine ⟨s, by simp [reportOf, referringCount, hr], h, fun key => ?_⟩
    by_cases hkey : key = ⟨.pipeline, id⟩
    · subst hkey
      rw [if_pos rfl]
      cases hg : s.get? ⟨.pipeline, id⟩ with
      | none => rfl
      | some text =>
        rw [hg, Option.bind_some] at hr
        rw [Option.map_some, repairedText_of_none hr]
    · rw [if_neg hkey]
  | some p =>
    obtain ⟨text, hg, hp⟩ := Option.bind_eq_some_iff.1 hr
    have hvalid : Id.isValid id = true := h.isValid (Table.contains_iff.2 ⟨text, hg⟩)
    have hwf := h.insert ⟨.pipeline, id⟩ hvalid (Profile.pipeline (repoint k sub p)).toYaml
    refine ⟨_, by simp [reportOf, referringCount, hr], hwf, fun key => ?_⟩
    rw [Table.get?_insert]
    by_cases hkey : key = ⟨.pipeline, id⟩
    · subst hkey
      rw [if_pos rfl, if_pos rfl, hg, Option.map_some, repairedText_of_some hp]
    · rw [if_neg hkey, if_neg (Ne.symm hkey)]

/-! ## All pipelines -/

variable (k old sub) in
/-- The loop over pipelines. Every id occurs once, so what one round writes is not read by a later one. -/
theorem foldlM_repairPipeline_spec {ids : List String} (hids : ids.Nodup) (h : s.WellFormed)
    (report : RepairReport) :
    ∃ s', (ids.foldlM (repairPipeline store k old sub) report).eval s =
        (.ok (reportOf sub report (referringCount k old ids s)), s') ∧ s'.WellFormed ∧
      ∀ key, s'.get? key =
        if key.kind = .pipeline ∧ key.id ∈ ids then (s.get? key).map (repairedText k old sub)
        else s.get? key := by
  induction ids generalizing s report with
  | nil => exact ⟨s, by simp [reportOf, referringCount], h, by simp⟩
  | cons id rest ih =>
    obtain ⟨hid, hrest⟩ := List.nodup_cons.1 hids
    obtain ⟨s₁, heval₁, hwf₁, hget₁⟩ := repairPipeline_spec k old sub h report id
    obtain ⟨s', heval, hwf, hget⟩ := ih hrest hwf₁ (reportOf sub report (referringCount k old [id] s))
    have hcount : referringCount k old (id :: rest) s =
        referringCount k old [id] s + referringCount k old rest s₁ := by
      have hrest : referringCount k old rest s₁ = referringCount k old rest s := by
        refine List.countP_congr fun j hj => ?_
        have hne : (⟨.pipeline, j⟩ : Key) ≠ ⟨.pipeline, id⟩ := by
          rintro ⟨⟩
          exact hid hj
        rw [hget₁, if_neg hne]
      rw [hrest, referringCount, List.countP_cons, Nat.add_comm]
      simp [referringCount]
    refine ⟨s', ?_, hwf, fun key => ?_⟩
    · simp only [List.foldlM_cons, Action.eval_bind, heval₁]
      rw [heval, reportOf_reportOf, hcount]
    · obtain ⟨j, i⟩ := key
      rw [hget, hget₁]
      by_cases hi : i = id
      · subst hi
        simp [hid]
      · simp [hi]

/-- The store with all texts of pipelines repaired. -/
def repaired (k : Kind) (old : String) (sub : Option String) (s : MemoryStore) : MemoryStore :=
  s.map fun e => (e.1, if e.1.kind = .pipeline then repairedText k old sub e.2 else e.2)

theorem get?_repaired (key : Key) :
    (repaired k old sub s).get? key =
      if key.kind = .pipeline then (s.get? key).map (repairedText k old sub) else s.get? key := by
  refine (Table.get?_map (fun (key : Key) text =>
    if key.kind = .pipeline then repairedText k old sub text else text) key s).trans ?_
  split <;> simp

theorem contains_repaired (key : Key) : (repaired k old sub s).contains key = s.contains key := by
  rw [Table.contains, get?_repaired, Table.contains]
  split <;> simp

theorem wellFormed_repaired (h : s.WellFormed) : (repaired k old sub s).WellFormed where
  sorted := Table.sorted_map (fun (key : Key) text =>
    if key.kind = .pipeline then repairedText k old sub text else text) h.sorted
  isValid hk := h.isValid (contains_repaired _ ▸ hk)

/-! ## Run -/

/-- What takes the place of an id: its new id, or else the first other one. -/
def substitute (k : Kind) (old : String) (new : Option String) (s : MemoryStore) : Option String :=
  new.or (firstOther? k old s)

theorem eval_replacement (new : Option String) :
    (replacement store k old new).eval s = (.ok (substitute k old new s), s) := by
  cases new with
  | none => simp [replacement, Action.eval_bind, substitute, firstOther?, ids]
  | some n => simp [replacement, substitute]

/-- The entries of a store that a repair rewrites. -/
def isReferring (k : Kind) (old : String) (e : Key × String) : Bool :=
  e.1.kind = .pipeline && (referring? k old e.2).isSome

theorem referringCount_ids (h : s.WellFormed) :
    referringCount k old (ids .pipeline s) s = s.countP (isReferring k old) := by
  rw [referringCount, ids_eq, List.countP_map, List.countP_filter]
  refine List.countP_congr fun e he => ?_
  obtain ⟨⟨j, id⟩, text⟩ := e
  simp only [isReferring, Function.comp_apply, Bool.and_eq_true, decide_eq_true_eq]
  constructor
  · rintro ⟨hr, rfl⟩
    rw [(Table.get?_eq_some_iff h.sorted).2 he] at hr
    exact ⟨rfl, by simpa using hr⟩
  · rintro ⟨rfl, hr⟩
    rw [(Table.get?_eq_some_iff h.sorted).2 he]
    exact ⟨by simpa using hr, rfl⟩

/-- Pipelines do not refer to pipelines. -/
theorem referring?_pipeline (text : String) : referring? .pipeline old text = none := by
  cases h : referring? .pipeline old text with
  | none => rfl
  | some p =>
    have href : p.reference .pipeline = none := rfl
    simp [(referring?_eq_some_iff.1 h).2] at href

theorem repairedText_pipeline (text : String) : repairedText .pipeline old sub text = text :=
  repairedText_of_none (referring?_pipeline text)

theorem repaired_pipeline : repaired .pipeline old sub s = s := by
  simp [repaired, repairedText_pipeline]

/-- A repair rewrites the texts that refer to `old` in place, and counts them. -/
theorem eval_run (h : s.WellFormed) (k : Kind) (old : String) (new : Option String) :
    (run store k old new).eval s =
      (.ok (reportOf (substitute k old new s) .none (s.countP (isReferring k old))),
        repaired k old (substitute k old new s) s) := by
  by_cases hk : k = .pipeline
  · subst hk
    have hcount : s.countP (isReferring .pipeline old) = 0 := by
      simp [List.countP_eq_zero, isReferring, referring?_pipeline]
    rw [repaired_pipeline, hcount]
    simp [run, Kind.pipelineField?, reportOf, RepairReport.none]
  have hfield : k.pipelineField?.isNone = false := by cases k <;> first | rfl | exact absurd rfl hk
  have hids : (ids .pipeline s).Nodup := (h.sorted_ids .pipeline).imp ne_of_lt
  obtain ⟨s', heval, hwf, hget⟩ := foldlM_repairPipeline_spec k old (substitute k old new s) hids h
    .none
  have hs' : s' = repaired k old (substitute k old new s) s := by
    refine Table.ext hwf.sorted (wellFormed_repaired h).sorted fun key => ?_
    rw [hget, get?_repaired]
    by_cases hp : key.kind = .pipeline
    · by_cases hc : key.id ∈ ids .pipeline s
      · simp [hp, hc]
      · have hnone : s.get? key = none := by
          obtain ⟨j, id⟩ := key
          obtain rfl : j = .pipeline := hp
          simpa [mem_ids, Table.contains] using hc
        simp [hnone]
    · simp [hp]
  rw [referringCount_ids h, hs'] at heval
  simp only [run, hfield, Bool.false_eq_true, if_false, Action.eval_bind, eval_replacement,
    Action.eval_attempt, eval_list]
  exact heval

end ProfileKit.Repair

import Mathlib.Data.List.Forall2
import ProfileKit.Rule.Run

/-!
# The law of cascades

A cascade gives what the first of its entries gives that succeeds on its own, and where none does it fails
like the last one (`ParserSpec.run_cascade`). All entries are compiled before the first one is run, so an
entry that does not compile has to wait for its turn to fail, and an entry that is a cascade itself fails
without being looked into.
-/

namespace ProfileKit

/-! ## One after the other -/

section

variable {ε α β : Type} {x : Except ε α} {f : α → Except ε β}

theorem bind_eq_ok_iff {b : β} : (x >>= f) = .ok b ↔ ∃ a, x = .ok a ∧ f a = .ok b := by
  cases x with
  | error e => simp [bind, Except.bind]
  | ok a => simp [bind, Except.bind]

theorem bind_eq_error_iff {e : ε} : (x >>= f) = .error e ↔ x = .error e ∨ ∃ a, x = .ok a ∧ f a = .error e := by
  cases x with
  | error e' => simp [bind, Except.bind]
  | ok a => simp [bind, Except.bind]

end

/-! ## Entries on their own -/

/-- The entry reads as a specification, and that is a cascade itself. -/
def IsCascade (entry : Json) : Prop :=
  ∃ fields spec, entry = .object fields ∧ ParserSpec.codec.read? fields = .ok spec ∧ spec.type? = .ok .any

/-- What an entry gives on its own, which is what its specification gives. An entry that is no mapping, does
not read as a specification or is a cascade itself counts as one that is not valid. -/
def entryResult (runner : Option ScriptRunner) (text : String) : Json → Except RuleFailure RuleOutput
  | .object fields =>
    match ParserSpec.codec.read? fields with
    | .error fault => .error (.invalidParserEntry (.unreadable fault.message))
    | .ok spec =>
      if spec.type? = .ok .any then .error (.invalidParserEntry .nestedCascade) else spec.run runner text
  | _ => .error (.invalidParserEntry .branchNotMapping)

/-- The result is no success. -/
def Fails {α : Type} (r : Except RuleFailure α) : Prop := ∃ failure, r = .error failure

instance {α : Type} (r : Except RuleFailure α) : Decidable (Fails r) :=
  match r with
  | .error failure => isTrue ⟨failure, rfl⟩
  | .ok _ => isFalse fun ⟨_, h⟩ => nomatch h

section

variable {runner : Option ScriptRunner} {text : String}

theorem IsCascade.entryResult_eq {entry : Json} (h : IsCascade entry) :
    entryResult runner text entry = .error (.invalidParserEntry .nestedCascade) := by
  obtain ⟨fields, spec, rfl, hread, hany⟩ := h
  simp [entryResult, hread, hany]

/-- It does not matter what a cascade holds that is an entry of another one. -/
theorem map_entryResult_of_alike {entries entries' : List Json}
    (h : entries.Forall₂ (fun e e' => e = e' ∨ IsCascade e ∧ IsCascade e') entries') :
    entries.map (entryResult runner text) = entries'.map (entryResult runner text) := by
  induction h with
  | nil => rfl
  | cons halike _ ih =>
    rw [List.map_cons, List.map_cons, ih]
    rcases halike with rfl | ⟨he, he'⟩
    · rfl
    · rw [he.entryResult_eq, he'.entryResult_eq]

/-- A specification that is no cascade compiles to one basic rule. -/
theorem Rule.ofSpec_of_ne_any {spec : ParserSpec} (h : spec.type? ≠ .ok .any) :
    Rule.ofSpec spec = (BasicRule.ofSpec spec).map .basic := by
  unfold Rule.ofSpec BasicRule.ofSpec
  cases ht : spec.type? with
  | error e => rfl
  | ok t =>
    cases hrule : BasicRule.ofOptions spec.options t with
    | error e => cases t <;> simp_all [bind, Except.bind, Except.map]
    | ok rule => cases t <;> simp_all [bind, Except.bind, Except.map, pure, Except.pure]

theorem ParserSpec.run_of_ne_any {spec : ParserSpec} (h : spec.type? ≠ .ok .any) :
    spec.run runner text = (BasicRule.ofSpec spec).bind fun rule => rule.run runner text := by
  rw [ParserSpec.run, Rule.ofSpec_of_ne_any h]
  cases BasicRule.ofSpec spec with
  | error e => rfl
  | ok rule => rfl

theorem BasicRule.ofSpec_of_any {spec : ParserSpec} (h : spec.type? = .ok .any) :
    BasicRule.ofSpec spec = .error (.invalidParserEntry .nestedCascade) := by
  rw [BasicRule.ofSpec, h]
  rfl

/-- An entry that is compiled and then run gives what it gives on its own. -/
theorem BasicRule.run_ofEntry (entry : Json) :
    ((BasicRule.ofEntry entry).bind fun rule => rule.run runner text) = entryResult runner text entry := by
  cases entry with
  | object fields =>
    rw [BasicRule.ofEntry, ParserSpec.ofEntry, entryResult]
    cases ParserSpec.codec.read? fields with
    | error fault => rfl
    | ok spec =>
      have hspec : ((Except.ok spec : Except RuleFailure ParserSpec) >>= BasicRule.ofSpec) =
          BasicRule.ofSpec spec := rfl
      simp only [Except.mapError, hspec]
      split
      · rename_i hany
        rw [BasicRule.ofSpec_of_any hany]
        rfl
      · rename_i hany
        exact (ParserSpec.run_of_ne_any hany).symm
  | _ => rfl

end

/-! ## Types of rules -/

/-- The type that a rule is compiled from. -/
def BasicRule.type : BasicRule → ParserType
  | .plain => .plain
  | .lineStrict _ => .lineStrict
  | .jsonObject _ => .jsonObject
  | .jsonArray => .jsonArray
  | .jsonl _ => .jsonl
  | .taggedLine _ _ => .taggedLine
  | .regex _ _ => .regex
  | .script _ _ => .python

theorem BasicRule.type_of_ofOptions {options : Mapping} {t : ParserType} {rule : BasicRule}
    (h : BasicRule.ofOptions options t = .ok rule) : rule.type = t := by
  cases t <;> simp only [BasicRule.ofOptions, invalidEntry, bind, Except.bind, pure, Except.pure] at h
  all_goals
    repeat' split at h
    all_goals first
      | cases h
        rfl
      | simp at h

theorem BasicRule.type_of_ofSpec {spec : ParserSpec} {rule : BasicRule} (h : BasicRule.ofSpec spec = .ok rule) :
    spec.type? = .ok rule.type := by
  obtain ⟨t, ht, hrule⟩ := bind_eq_ok_iff.1 h
  rw [ht, BasicRule.type_of_ofOptions hrule]

/-! ## The first success -/

/-- The first success of a list of results, or else the last failure; of an empty list it is `failure`. -/
def firstSuccess {α : Type} (failure : RuleFailure) : List (Except RuleFailure α) → Except RuleFailure α
  | [] => .error failure
  | .ok output :: _ => .ok output
  | .error e :: rest => firstSuccess e rest

section

variable {α : Type} {failure : RuleFailure} {before : List (Except RuleFailure α)}

/-- What stands behind a success does not matter. -/
theorem firstSuccess_append_ok (h : ∀ r ∈ before, Fails r) (output : α)
    (after : List (Except RuleFailure α)) :
    firstSuccess failure (before ++ .ok output :: after) = .ok output := by
  induction before generalizing failure with
  | nil => rfl
  | cons r rest ih =>
    obtain ⟨e, rfl⟩ := h r (by simp)
    exact ih fun r hr => h r (by simp [hr])

theorem firstSuccess_append_error (h : ∀ r ∈ before, Fails r) (last : RuleFailure) :
    firstSuccess failure (before ++ [.error last]) = .error last := by
  induction before generalizing failure with
  | nil => rfl
  | cons r rest ih =>
    obtain ⟨e, rfl⟩ := h r (by simp)
    exact ih fun r hr => h r (by simp [hr])

end

/-- The loop over compiled branches looks for the first success. -/
theorem runBranches_eq_firstSuccess (runner : Option ScriptRunner) (text : String) (failure : RuleFailure)
    (branches : List (Except RuleFailure BasicRule)) :
    runBranches runner text failure branches =
      firstSuccess failure (branches.map fun branch => branch.bind fun rule => rule.run runner text) := by
  induction branches generalizing failure with
  | nil => rfl
  | cons branch rest ih =>
    unfold runBranches
    rw [List.map_cons]
    cases branch.bind fun rule => rule.run runner text with
    | ok output => rfl
    | error e => exact ih e

/-! ## Cascades -/

namespace ParserSpec

variable {spec : ParserSpec} {entries : List Json}

theorem cascadeEntries_eq (h : spec.options.get? "parsers" = some (.array entries)) (hne : entries ≠ []) :
    cascadeEntries spec.options = .ok entries := by
  unfold cascadeEntries
  rw [h]
  cases entries with
  | nil => exact absurd rfl hne
  | cons entry rest => rfl

/-- A cascade gives the first success of its entries, each taken on its own. -/
theorem run_eq_firstSuccess (hany : spec.type? = .ok .any)
    (hentries : spec.options.get? "parsers" = some (.array entries)) (hne : entries ≠ [])
    (runner : Option ScriptRunner) (text : String) :
    spec.run runner text = firstSuccess .missingAnyParsers (entries.map (entryResult runner text)) := by
  have hrule : Rule.ofSpec spec = .ok (.cascade (entries.map BasicRule.ofEntry)) := by
    unfold Rule.ofSpec
    rw [hany, cascadeEntries_eq hentries hne]
    rfl
  have hrun : spec.run runner text =
      runBranches runner text .missingAnyParsers (entries.map BasicRule.ofEntry) := by
    unfold ParserSpec.run
    rw [hrule]
    rfl
  have hresults : (entries.map BasicRule.ofEntry).map
      (fun branch => branch.bind fun rule => rule.run runner text) =
      entries.map (entryResult runner text) := by
    rw [List.map_map]
    exact List.map_congr_left fun entry _ => BasicRule.run_ofEntry entry
  rw [hrun, runBranches_eq_firstSuccess, hresults]

/-- The law of cascades. The first entry that succeeds on its own decides, whatever comes after it; without
one the cascade fails exactly like its last entry. And what an entry that is a cascade itself holds is
never looked at: with any other cascades in the places of such entries the outcome is the same. -/
theorem run_cascade (hany : spec.type? = .ok .any)
    (hentries : spec.options.get? "parsers" = some (.array entries)) (hne : entries ≠ [])
    (runner : Option ScriptRunner) (text : String) :
    (∀ before entry after output, entries = before ++ entry :: after →
      (∀ e ∈ before, Fails (entryResult runner text e)) → entryResult runner text entry = .ok output →
      spec.run runner text = .ok output) ∧
    (∀ before last failure, entries = before ++ [last] →
      (∀ e ∈ before, Fails (entryResult runner text e)) → entryResult runner text last = .error failure →
      spec.run runner text = .error failure) ∧
    ∀ (spec' : ParserSpec) (entries' : List Json), spec'.type? = .ok .any →
      spec'.options.get? "parsers" = some (.array entries') →
      entries.Forall₂ (fun e e' => e = e' ∨ IsCascade e ∧ IsCascade e') entries' →
      spec'.run runner text = spec.run runner text := by
  have hrun := run_eq_firstSuccess hany hentries hne runner text
  have hfails : ∀ before : List Json, (∀ e ∈ before, Fails (entryResult runner text e)) →
      ∀ r ∈ before.map (entryResult runner text), Fails r := by
    intro before h r hr
    obtain ⟨e, he, rfl⟩ := List.mem_map.1 hr
    exact h e he
  refine ⟨?_, ?_, ?_⟩
  · rintro before entry after output rfl hbefore hentry
    rw [hrun, List.map_append, List.map_cons, hentry]
    exact firstSuccess_append_ok (hfails before hbefore) output _
  · rintro before last failure rfl hbefore hlast
    rw [hrun, List.map_append, List.map_cons, List.map_nil, hlast]
    exact firstSuccess_append_error (hfails before hbefore) failure
  · intro spec' entries' hany' hentries' halike
    have hne' : entries' ≠ [] := by
      rintro rfl
      exact hne (List.forall₂_nil_right_iff.1 halike)
    rw [hrun, run_eq_firstSuccess hany' hentries' hne', map_entryResult_of_alike halike]

/-- Entries that fail each in another way, one that succeeds, and one of a type that is not known. -/
def brokenThenPlain : ParserSpec where
  type := some " any"
  options := [("parsers", .array [.string "plain",
    .object [("options", .object [("parsers", .array [.object [("type", .string "plain")]])]),
      ("type", .string "any")],
    .object [("options", .array []), ("type", .string "plain")], .object [("type", .string "regex")],
    .object [("type", .string "json_array")], .object [("type", .string "plain")],
    .object [("type", .string "xml")]])]

theorem run_cascade_brokenThenPlain :
    brokenThenPlain.type? = .ok .any ∧ brokenThenPlain.run none "ok\n" = .ok ⟨"ok", ["ok"]⟩ := by
  have hany : brokenThenPlain.type? = .ok .any := by decide +kernel
  refine ⟨hany, (run_cascade hany rfl (by simp) none "ok\n").1 [_, _, _, _, _] _ _ _ rfl ?_ ?_⟩
  · decide +kernel
  · decide +kernel

end ParserSpec
end ProfileKit

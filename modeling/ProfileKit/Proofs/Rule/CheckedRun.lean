import ProfileKit.Proofs.Check.Findings
import ProfileKit.Proofs.Rule.Cascade

/-!
# Checked rules run

Compiling finds whatever is wrong with a rule, so what is left to fail is running it on a text
(`BasicRule.failsInRun_run`). A check reports what compiling finds, but for types that are not known; so a
parser profile without errors never fails for how it is written, and one with a finding about its rule
always fails with just that. In a cascade a branch that does not compile only fails when its turn comes,
which is why the second half leaves cascades out.
-/

namespace ProfileKit

namespace RuleFailure

/-- The codes of what can go wrong with a text. That a type is not known counts among them, as it is
no error of a profile. -/
def runCodes : List String :=
  ["multiple_lines_detected", "json_array_expected", "json_object_expected", "key_not_found",
    "list_index_invalid", "no_tagged_lines", "pattern_not_matched", "invalid_json_line",
    "unsupported_parser", "script_runner_failed"]

end RuleFailure

open RuleFailure

/-! ## Failures of running -/

/-- If this fails, then with a code of running. -/
def FailsInRun {α : Type} (x : Except RuleFailure α) : Prop := ∀ e, x = .error e → e.code ∈ runCodes

namespace FailsInRun

variable {α β : Type}

@[simp] theorem ok (a : α) : FailsInRun (.ok a) := by simp [FailsInRun]

@[simp] theorem error_iff {e : RuleFailure} : FailsInRun (.error e : Except RuleFailure α) ↔ e.code ∈ runCodes := by
  simp [FailsInRun]

theorem bind {x : Except RuleFailure α} {f : α → Except RuleFailure β} (hx : FailsInRun x)
    (hf : ∀ a, x = .ok a → FailsInRun (f a)) : FailsInRun (x.bind f) := by
  cases x with
  | error e => exact error_iff.2 (error_iff.1 hx)
  | ok a => exact hf a rfl

theorem map {x : Except RuleFailure α} (f : α → β) (hx : FailsInRun x) : FailsInRun (x.map f) := by
  cases x with
  | error e => exact error_iff.2 (error_iff.1 hx)
  | ok a => exact ok (f a)

/-- It succeeds, or it fails with a code of running. -/
theorem succeeds_or {x : Except RuleFailure α} (hx : FailsInRun x) :
    (∃ a, x = .ok a) ∨ ∃ e, x = .error e ∧ e.code ∈ runCodes := by
  cases x with
  | error e => exact .inr ⟨e, rfl, hx e rfl⟩
  | ok a => exact .inl ⟨a, rfl⟩

end FailsInRun

/-! ## Basic rules -/

theorem MultiLinePolicy.failsInRun_apply (policy : MultiLinePolicy) (lines : List String) :
    FailsInRun (policy.apply lines) := by
  unfold MultiLinePolicy.apply
  split
  · exact .ok _
  · exact .ok _
  · cases policy with
    | join => exact .ok _
    | first => exact .ok _
    | error => exact FailsInRun.error_iff.2 (by decide)

namespace Json

theorem failsInRun_step (v : Json) (s : String) : FailsInRun (v.step s) := by
  unfold step
  split
  · cases Table.get? s _ with
    | none => exact FailsInRun.error_iff.2 (by simp [code, runCodes])
    | some w => exact .ok w
  · split
    · exact .ok _
    · exact FailsInRun.error_iff.2 (by simp [code, runCodes])
  · exact FailsInRun.error_iff.2 (by simp [code, runCodes])

theorem failsInRun_follow (v : Json) (steps : List String) : FailsInRun (v.follow steps) := by
  induction steps generalizing v with
  | nil => exact .ok v
  | cons s rest ih =>
    have hs := failsInRun_step v s
    unfold follow
    cases hstep : v.step s with
    | ok w => exact ih w
    | error e => exact FailsInRun.error_iff.2 (hs e hstep)

end Json

theorem JsonSelector.failsInRun_select (selector : JsonSelector) (root : Json) :
    FailsInRun (selector.select root) := by
  cases selector with
  | path p => exact Json.failsInRun_follow root _
  | key k =>
    show FailsInRun (((root.get? k).map .ok).getD (.error (.keyNotFound k)))
    cases root.get? k with
    | none => exact FailsInRun.error_iff.2 (by simp [code, runCodes])
    | some v => exact .ok v

theorem failsInRun_runJsonObject (selector : JsonSelector) (text : String) :
    FailsInRun (runJsonObject selector text) := by
  unfold runJsonObject
  split
  · exact (selector.failsInRun_select _).bind fun v _ => .ok _
  · exact FailsInRun.error_iff.2 (by decide)

theorem failsInRun_runJsonArray (text : String) : FailsInRun (runJsonArray text) := by
  unfold runJsonArray
  split
  · exact .ok _
  · exact FailsInRun.error_iff.2 (by decide)

theorem failsInRun_jsonLine (path : Option String) (number : Nat) (line : String) :
    FailsInRun (jsonLine path number line) := by
  unfold jsonLine
  split
  · exact .ok _
  · split
    · exact FailsInRun.error_iff.2 (by simp [code, runCodes])
    · split
      · exact .ok _
      · exact (Json.failsInRun_follow _ _).map _

theorem failsInRun_jsonLines (path : Option String) (number : Nat) (lines : List String) :
    FailsInRun (jsonLines path number lines) := by
  induction lines generalizing number with
  | nil => exact .ok []
  | cons line rest ih =>
    exact (failsInRun_jsonLine path number line).bind fun _ _ => (ih (number + 1)).bind fun _ _ => .ok _

theorem failsInRun_runTaggedLine (p : Pattern) (order : TagOrder) (text : String) :
    FailsInRun (runTaggedLine p order text) := by
  unfold runTaggedLine
  split
  · exact FailsInRun.error_iff.2 (by decide)
  · exact .ok _

theorem failsInRun_runRegex (p : Pattern) (group : CaptureGroup) (text : String) :
    FailsInRun (runRegex p group text) := by
  unfold runRegex
  split
  · exact FailsInRun.error_iff.2 (by decide)
  · exact .ok _

theorem failsInRun_runScript (source : ScriptSource) (function text : String)
    (runner : Option ScriptRunner) : FailsInRun (runScript source function text runner) := by
  cases runner with
  | none => exact FailsInRun.error_iff.2 (by simp [code, runCodes])
  | some run =>
    show FailsInRun ((run source function text).mapError .scriptRunnerFailed)
    cases run source function text with
    | error why => exact FailsInRun.error_iff.2 (by simp [code, runCodes])
    | ok output => exact .ok output

/-- Whatever a rule that compiled fails with, it is a failure of running. -/
theorem BasicRule.failsInRun_run (rule : BasicRule) (runner : Option ScriptRunner) (text : String) :
    FailsInRun (rule.run runner text) := by
  cases rule with
  | plain => exact .ok _
  | lineStrict policy =>
    rw [run]
    exact policy.failsInRun_apply _
  | jsonObject selector => exact failsInRun_runJsonObject selector text
  | jsonArray => exact failsInRun_runJsonArray text
  | jsonl path =>
    rw [run]
    exact (failsInRun_jsonLines path 1 _).map _
  | taggedLine pattern order => exact failsInRun_runTaggedLine pattern order text
  | regex pattern group => exact failsInRun_runRegex pattern group text
  | script source function => exact failsInRun_runScript source function text runner

/-! ## Cascades -/

/-- A cascade fails like its last branch. `failure` counts only where there is no branch at all. -/
theorem failsInRun_runBranches (runner : Option ScriptRunner) (text : String) {failure : RuleFailure}
    {branches : List (Except RuleFailure BasicRule)} (hbranches : ∀ b ∈ branches, FailsInRun b)
    (hfailure : branches = [] → failure.code ∈ runCodes) :
    FailsInRun (runBranches runner text failure branches) := by
  induction branches generalizing failure with
  | nil => exact FailsInRun.error_iff.2 (hfailure rfl)
  | cons branch rest ih =>
    have hbranch : FailsInRun (branch.bind fun rule => rule.run runner text) :=
      (hbranches branch (by simp)).bind fun rule _ => rule.failsInRun_run runner text
    unfold runBranches
    split
    · exact .ok _
    · rename_i e he
      exact ih (fun b hb => hbranches b (by simp [hb])) fun _ => hbranch e he

/-! ## Compiling -/

namespace Rule

variable {spec : ParserSpec}

theorem ofSpec_of_type_error {e : RuleFailure} (h : spec.type? = .error e) : ofSpec spec = .error e := by
  rw [ofSpec, h]
  rfl

/-- A cascade has the type of cascades and a branch at least. -/
theorem ofSpec_eq_cascade {branches : List (Except RuleFailure BasicRule)}
    (h : ofSpec spec = .ok (.cascade branches)) : spec.type? = .ok .any ∧ branches ≠ [] := by
  by_cases hany : spec.type? = .ok .any
  · refine ⟨hany, ?_⟩
    obtain ⟨t, ht, h⟩ := bind_eq_ok_iff.1 h
    obtain rfl := Except.ok.inj (hany.symm.trans ht)
    obtain ⟨entries, hentries, h⟩ := bind_eq_ok_iff.1 h
    obtain rfl := Rule.cascade.inj (Except.ok.inj h)
    unfold cascadeEntries at hentries
    split at hentries <;> simp_all [invalidEntry]
  · rw [ofSpec_of_ne_any hany] at h
    cases hrule : BasicRule.ofSpec spec with
    | error e => simp [hrule, Except.map] at h
    | ok rule => simp [hrule, Except.map] at h

end Rule

/-! ## Checks -/

namespace Check

variable {index : ReferenceIndex}

/-- Of the failures to compile only one is no error: that a type is not known. -/
theorem clean_ruleFailure {e : RuleFailure} (h : Clean (ruleFailure ⟨index, false⟩ e)) :
    e.code ∈ runCodes := by
  cases e with
  | unsupportedParser type => simp [code, runCodes]
  | _ => simp [ruleFailure, Finding.error?] at h

/-- The code is found, as an error or as a warning. -/
def Reports (f : Finding) (code : Code) : Prop := f.error? = some code ∨ f.warning? = some code

theorem mem_report {fs : List Finding} {code : Code} :
    code ∈ (Report.ofFindings fs).errors ++ (Report.ofFindings fs).warnings ↔ ∃ f ∈ fs, Reports f code := by
  simp only [Report.ofFindings, List.mem_append, Report.mem_firstOccurrences, List.mem_filterMap, Reports,
    and_or_left, exists_or]

theorem not_reports_identity {id name : Option String} {f : Finding} (hf : f ∈ identity id name)
    (rule : String) : ¬ Reports f (.parser rule) := by
  rcases List.mem_append.1 hf with hf | hf
  · cases hid : filled id with
    | none => simp_all [Reports, Finding.error?, Finding.warning?]
    | some i => simp_all [Finding.errorIf, Reports, Finding.error?, Finding.warning?]
  · simp_all [Finding.warningIf, Reports, Finding.error?, Finding.warning?]

theorem code_of_mem_ruleFailure {e : RuleFailure} {f : Finding} {rule : String}
    (hf : f ∈ ruleFailure ⟨index, false⟩ e) (h : Reports f (.parser rule)) : e.code = rule := by
  cases e <;> simp_all [ruleFailure, Context.unknownType, Reports, Finding.error?, Finding.warning?]

theorem type?_of_ofName?_eq_none {spec : ParserSpec} {name : String} (hname : spec.typeName = some name)
    (h : ParserType.ofName? name = none) : spec.type? = .error (.unsupportedParser name) := by
  simp [ParserSpec.type?, hname, h]

end Check

namespace ParserProfile

open Check

variable {index : ReferenceIndex} {p : ParserProfile}

/-- A rule without errors only fails in running. -/
theorem failsInRun_run (h : Clean (Check.parser ⟨index, false⟩ p)) (runner : Option ScriptRunner)
    (text : String) : FailsInRun (p.spec.run runner text) := by
  unfold Check.parser at h
  split at h
  · simp [Finding.error?] at h
  · rename_i name hname
    split at h
    · -- a type that is not known is a warning, and the rule fails with it
      rename_i htype
      rw [ParserSpec.run, Rule.ofSpec_of_type_error (type?_of_ofName?_eq_none hname htype)]
      exact FailsInRun.error_iff.2 (by simp [code, runCodes])
    · split at h
      · rename_i e he
        rw [ParserSpec.run, he]
        exact FailsInRun.error_iff.2 (clean_ruleFailure h)
      · rename_i rule hrule
        rw [ParserSpec.run, hrule]
        exact rule.failsInRun_run runner text
      · rename_i branches hrule
        rw [ParserSpec.run, hrule]
        refine failsInRun_runBranches runner text (fun b hb => ?_)
          fun hnil => absurd hnil (Rule.ofSpec_eq_cascade hrule).2
        have hb' := clean_flatMap.1 h b hb
        cases b with
        | ok rule => exact .ok rule
        | error e => exact FailsInRun.error_iff.2 (clean_ruleFailure hb')

/-- What a check reports of a rule that is no cascade, the rule fails with. -/
theorem run_of_mem_findings {f : Finding} {rule : String} (hany : p.spec.type? ≠ .ok .any)
    (hf : f ∈ Check.parser ⟨index, false⟩ p) (h : Reports f (.parser rule)) (runner : Option ScriptRunner)
    (text : String) : ∃ e, p.spec.run runner text = .error e ∧ e.code = rule := by
  unfold Check.parser at hf
  split at hf
  · simp_all [Reports, Finding.error?, Finding.warning?]
  · split at hf
    · simp_all [Context.unknownType, Reports, Finding.error?, Finding.warning?]
    · split at hf
      · rename_i e he
        refine ⟨e, ?_, code_of_mem_ruleFailure hf h⟩
        rw [ParserSpec.run, he]
        rfl
      · simp at hf
      · rename_i branches hrule
        exact absurd (Rule.ofSpec_eq_cascade hrule).1 hany

/-- A check and a run take a parser profile alike. Without errors in the report the rule succeeds, or fails
with something that compiling cannot find; and what the report says of a rule that is no cascade, the rule
fails with, whatever the text. -/
theorem check_agrees_run (index : ReferenceIndex) (p : ParserProfile) :
    (((Context.mk index false).check (.parser p)).isOk = true → ∀ runner text,
      (∃ output, p.spec.run runner text = .ok output) ∨
        ∃ e, p.spec.run runner text = .error e ∧ e.code ∈ runCodes) ∧
    ∀ rule, p.spec.type? ≠ .ok .any →
      .parser rule ∈ ((Context.mk index false).check (.parser p)).errors ++
        ((Context.mk index false).check (.parser p)).warnings →
      ∀ runner text, ∃ e, p.spec.run runner text = .error e ∧ e.code = rule := by
  constructor
  · intro hok runner text
    have hclean : Clean (identity p.id p.name ++ Check.parser ⟨index, false⟩ p) := isOk_ofFindings.1 hok
    exact (failsInRun_run (clean_append.1 hclean).2 runner text).succeeds_or
  · intro rule hany hmem runner text
    obtain ⟨f, hf, hreports⟩ := mem_report.1 hmem
    rcases List.mem_append.1 hf with hf | hf
    · exact absurd hreports (not_reports_identity hf rule)
    · exact run_of_mem_findings hany hf hreports runner text

/-- A cascade: a branch of a type that is not known, and one that takes lines with tags. -/
def unknownThenTagged : ParserProfile where
  id := some "tags"
  name := none
  type := some "any"
  options := [("parsers", .array [.object [("type", .string "xml")], .object [("type", .string "tagged_line")]])]
  extra := []

/-- A pattern whose group is one more than it has. -/
def groupBeyond : ParserProfile where
  id := some "pick"
  name := none
  type := some "regex"
  options := [("group", .number (.natural 2)), ("pattern", .string "^(a+)$")]
  extra := []

theorem check_agrees_run_unknownThenTagged_groupBeyond :
    ((Context.mk .empty false).check (.parser unknownThenTagged)).isOk = true ∧
      (∀ runner text, (∃ output, unknownThenTagged.spec.run runner text = .ok output) ∨
        ∃ e, unknownThenTagged.spec.run runner text = .error e ∧ e.code ∈ runCodes) ∧
      .parser "invalid_parser_entry" ∈ ((Context.mk .empty false).check (.parser groupBeyond)).errors ++
        ((Context.mk .empty false).check (.parser groupBeyond)).warnings ∧
      ∀ runner text, ∃ e, groupBeyond.spec.run runner text = .error e ∧ e.code = "invalid_parser_entry" := by
  have hok : ((Context.mk .empty false).check (.parser unknownThenTagged)).isOk = true := by decide +kernel
  have hmem : .parser "invalid_parser_entry" ∈
      ((Context.mk .empty false).check (.parser groupBeyond)).errors ++
        ((Context.mk .empty false).check (.parser groupBeyond)).warnings := by
    decide +kernel
  exact ⟨hok, (check_agrees_run .empty unknownThenTagged).1 hok, hmem,
    (check_agrees_run .empty groupBeyond).2 _ (by decide +kernel) hmem⟩

end ParserProfile
end ProfileKit

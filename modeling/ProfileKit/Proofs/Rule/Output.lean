import ProfileKit.Proofs.Rule.TaggedLines
import ProfileKit.Proofs.Text.Lines

/-!
# The shape of outputs

What a rule takes out of a text is a text and its lines (`ParserSpec.run_shape`): the text is always the lines
put together, and how many lines there are depends on the type of the rule. Rules build their outputs either
from a text, which is then split into lines, or from lines, which may hold line feeds of their own; the lines of
a text hold none.
-/

namespace ProfileKit

/-! ## Texts and lines -/

/-- The text is the lines put together. -/
def RuleOutput.Joined (output : RuleOutput) : Prop := output.text = Text.joinLines output.lines

/-- The lines are those of the text. -/
def RuleOutput.Split (output : RuleOutput) : Prop :=
  output.lines = Text.splitLines output.text ∧ output.lines ≠ []

theorem RuleOutput.joined_ofText (text : String) : (RuleOutput.ofText text).Joined :=
  (Text.joinLines_splitLines text).symm

theorem RuleOutput.joined_ofLines (lines : List String) : (RuleOutput.ofLines lines).Joined := rfl

theorem RuleOutput.ofLines_eq_iff {output : RuleOutput} {entries : List String} :
    RuleOutput.ofLines entries = output ↔ output.Joined ∧ entries = output.lines := by
  constructor
  · rintro rfl
    exact ⟨RuleOutput.joined_ofLines entries, rfl⟩
  · rintro ⟨hjoined, rfl⟩
    rw [RuleOutput.ofLines, ← hjoined]

theorem RuleOutput.split_ofText (text : String) : (RuleOutput.ofText text).Split :=
  ⟨rfl, Text.splitLines_ne_nil text⟩

/-! ## One line of several -/

theorem not_mem_intercalate_blank {c : Char} (hblank : c ≠ ' ') {lines : List String}
    (h : ∀ l ∈ lines, c ∉ l.toList) : c ∉ (" ".intercalate lines).toList := by
  induction lines with
  | nil => simp
  | cons l rest ih =>
    obtain ⟨hl, hrest⟩ := List.forall_mem_cons.1 h
    cases rest with
    | nil => simpa using hl
    | cons l' rest =>
      rw [String.intercalate_cons_cons]
      simp only [String.toList_append, List.mem_append, not_or]
      exact ⟨⟨hl, by simp [hblank]⟩, ih hrest⟩

namespace MultiLinePolicy

variable {policy : MultiLinePolicy} {lines : List String} {output : RuleOutput}

/-- One line is made of lines that hold no line feed. -/
theorem exists_line_of_apply (hlines : ∀ l ∈ lines, '\n' ∉ l.toList) (h : policy.apply lines = .ok output) :
    ∃ line, output = .ofText line ∧ '\n' ∉ line.toList := by
  unfold apply at h
  split at h
  · exact ⟨"", (Except.ok.inj h).symm, by simp⟩
  · rename_i line
    exact ⟨line, (Except.ok.inj h).symm, hlines line (by simp)⟩
  · rename_i line rest _
    cases policy with
    | join =>
      refine ⟨_, (Except.ok.inj h).symm, not_mem_intercalate_blank (by decide) fun l hl => ?_⟩
      exact hlines l (List.mem_of_mem_filter hl)
    | first => exact ⟨line, (Except.ok.inj h).symm, hlines line (by simp)⟩
    | error => cases h

theorem exists_apply_error_iff : (∃ output, MultiLinePolicy.error.apply lines = .ok output) ↔ lines.length ≤ 1 := by
  unfold apply
  match lines with
  | [] => simp
  | [line] => simp
  | line :: line' :: rest => simp

end MultiLinePolicy

/-! ## Lines of JSON -/

/-- Every line gives one entry, which depends on that line alone. -/
theorem forall₂_of_jsonLines {path : Option String} {number : Nat} {lines entries : List String}
    (h : jsonLines path number lines = .ok entries) :
    lines.Forall₂ (fun line entry => ∃ n, jsonLine path n line = .ok entry) entries := by
  induction lines generalizing number entries with
  | nil =>
    cases h
    exact .nil
  | cons line rest ih =>
    rw [jsonLines] at h
    obtain ⟨taken, hline, h⟩ := bind_eq_ok_iff.1 h
    obtain ⟨others, hrest, h⟩ := bind_eq_ok_iff.1 h
    exact Except.ok.inj h ▸ .cons ⟨number, hline⟩ (ih hrest)

/-! ## Tagged lines -/

/-- How many lines of a text match a pattern. -/
def matchingLines (p : Pattern) (text : String) : Nat :=
  (Text.physicalLines text).countP fun line => (p.captures? line).isSome

theorem length_taggedEntries (p : Pattern) (order : TagOrder) (text : String) :
    (taggedEntries p order text).length = matchingLines p text := by
  rw [taggedEntries, List.length_filterMap_eq_countP]
  refine List.countP_congr fun line _ => ?_
  rw [taggedText?, Option.isSome_map]

theorem TagOrder.perm_sort (order : TagOrder) (es : List (Option Nat × String)) : (order.sort es).Perm es := by
  unfold sort
  split
  · exact .refl es
  · exact List.mergeSort_perm es tagBefore

/-- Of the lines that match all give an entry, and no others. -/
theorem runTaggedLine_eq_ok {p : Pattern} {order : TagOrder} {text : String} {output : RuleOutput}
    (h : runTaggedLine p order text = .ok output) :
    ∃ entries, output = .ofLines entries ∧ entries.Perm ((taggedEntries p order text).map Prod.snd) ∧
      entries.length = matchingLines p text ∧ entries ≠ [] := by
  by_cases hnil : taggedEntries p order text = []
  · rw [runTaggedLine_of_eq_nil hnil] at h
    cases h
  · rw [runTaggedLine_of_ne_nil hnil, Except.ok.injEq] at h
    have hperm := (order.perm_sort (taggedEntries p order text)).map Prod.snd
    refine ⟨_, h.symm, hperm, ?_, fun hempty => hnil ?_⟩
    · rw [hperm.length_eq, List.length_map, length_taggedEntries]
    · exact List.map_eq_nil_iff.1 (hempty ▸ hperm).symm.eq_nil

/-! ## Rules -/

theorem runJsonObject_eq_ok {selector : JsonSelector} {text : String} {output : RuleOutput}
    (h : runJsonObject selector text = .ok output) : ∃ taken, output = .ofText taken := by
  unfold runJsonObject at h
  split at h
  · obtain ⟨v, -, h⟩ := bind_eq_ok_iff.1 h
    exact ⟨v.extractedText, (Except.ok.inj h).symm⟩
  · cases h

theorem runJsonArray_eq_ok {text : String} {output : RuleOutput} (h : runJsonArray text = .ok output) :
    ∃ items, readTrimmed? text = some (.array items) ∧ output = .ofLines (items.map Json.extractedText) := by
  unfold runJsonArray at h
  split at h
  · rename_i items hread
    exact ⟨items, hread, (Except.ok.inj h).symm⟩
  · cases h

theorem runRegex_eq_ok {p : Pattern} {group : CaptureGroup} {text : String} {output : RuleOutput}
    (h : runRegex p group text = .ok output) : ∃ taken, output = .ofText taken := by
  unfold runRegex at h
  split at h
  · cases h
  · exact ⟨_, (Except.ok.inj h).symm⟩

namespace BasicRule

/-- What the output of a rule looks like that is run on a text without anything to run scripts. -/
def Gives (text : String) (output : RuleOutput) : BasicRule → Prop
  | .plain | .jsonObject _ | .regex _ _ => output.Split
  | .lineStrict _ => ∃ line, output.lines = [line] ∧ '\n' ∉ line.toList
  | .jsonArray =>
    ∃ items, readTrimmed? text = some (.array items) ∧ output.lines = items.map Json.extractedText
  | .jsonl path =>
    (Text.physicalLines (Text.dropFinalBreaks text)).Forall₂
      (fun line entry => ∃ n, jsonLine path n line = .ok entry) output.lines
  | .taggedLine p order =>
    output.lines.Perm ((taggedEntries p order text).map Prod.snd) ∧
      output.lines.length = matchingLines p text ∧ output.lines ≠ []
  | .script _ _ => False

variable {rule : BasicRule} {text : String} {output : RuleOutput}

/-- One case for each rule: the text of the output is its lines put together, and the lines are as the rule has
them. -/
theorem gives_of_run (h : rule.run none text = .ok output) : output.Joined ∧ rule.Gives text output := by
  cases rule with
  | plain =>
    rw [run] at h
    obtain rfl := Except.ok.inj h
    exact ⟨RuleOutput.joined_ofText _, RuleOutput.split_ofText _⟩
  | lineStrict policy =>
    rw [run] at h
    obtain ⟨line, rfl, hline⟩ := MultiLinePolicy.exists_line_of_apply
      (fun l hl => Text.not_mem_physicalLine hl) h
    exact ⟨RuleOutput.joined_ofText _, line, Text.splitLines_eq_singleton hline, hline⟩
  | jsonObject selector =>
    rw [run] at h
    obtain ⟨taken, rfl⟩ := runJsonObject_eq_ok h
    exact ⟨RuleOutput.joined_ofText _, RuleOutput.split_ofText _⟩
  | jsonArray =>
    rw [run] at h
    obtain ⟨items, hread, rfl⟩ := runJsonArray_eq_ok h
    exact ⟨RuleOutput.joined_ofLines _, items, hread, rfl⟩
  | jsonl path =>
    rw [run] at h
    cases hlines : jsonLines path 1 (Text.physicalLines (Text.dropFinalBreaks text)) with
    | error e => simp [hlines, Except.map] at h
    | ok entries =>
      simp only [hlines, Except.map, Except.ok.injEq] at h
      subst h
      exact ⟨RuleOutput.joined_ofLines _, forall₂_of_jsonLines hlines⟩
  | taggedLine p order =>
    rw [run] at h
    obtain ⟨entries, rfl, hentries⟩ := runTaggedLine_eq_ok h
    exact ⟨RuleOutput.joined_ofLines _, hentries⟩
  | regex p group =>
    rw [run] at h
    obtain ⟨taken, rfl⟩ := runRegex_eq_ok h
    exact ⟨RuleOutput.joined_ofText _, RuleOutput.split_ofText _⟩
  | script source function => cases h

end BasicRule

/-- What a cascade gives, one of its branches gives. -/
theorem exists_of_runBranches_eq_ok {runner : Option ScriptRunner} {text : String} {failure : RuleFailure}
    {branches : List (Except RuleFailure BasicRule)} {output : RuleOutput}
    (h : runBranches runner text failure branches = .ok output) :
    ∃ rule, .ok rule ∈ branches ∧ rule.run runner text = .ok output := by
  induction branches generalizing failure with
  | nil => cases h
  | cons branch rest ih =>
    unfold runBranches at h
    split at h
    · rename_i first hfirst
      cases branch with
      | error e => cases hfirst
      | ok rule => exact ⟨rule, List.mem_cons_self, hfirst.trans h⟩
    · obtain ⟨rule, hmem, hrun⟩ := ih h
      exact ⟨rule, List.mem_cons_of_mem branch hmem, hrun⟩

namespace ParserSpec

variable {spec : ParserSpec} {text : String} {output : RuleOutput}

/-- A specification that is no cascade runs as the one rule it compiles to. -/
theorem exists_rule_of_run_eq_ok (hany : spec.type? ≠ .ok .any) (h : spec.run none text = .ok output) :
    ∃ rule, Rule.ofSpec spec = .ok (.basic rule) ∧ spec.type? = .ok rule.type ∧
      rule.run none text = .ok output := by
  rw [run_of_ne_any hany] at h
  cases hrule : BasicRule.ofSpec spec with
  | error e => simp [hrule, Except.bind] at h
  | ok rule =>
    rw [hrule] at h
    refine ⟨rule, ?_, BasicRule.type_of_ofSpec hrule, h⟩
    rw [Rule.ofSpec_of_ne_any hany, hrule]
    rfl

theorem run_of_ofSpec_basic {rule : BasicRule} (h : Rule.ofSpec spec = .ok (.basic rule)) :
    spec.run none text = rule.run none text := by
  rw [run, h]
  rfl

theorem joined_of_run (h : spec.run none text = .ok output) : output.Joined := by
  by_cases hany : spec.type? = .ok .any
  · unfold run at h
    cases hrule : Rule.ofSpec spec with
    | error e => simp [hrule, bind, Except.bind] at h
    | ok compiled =>
      rw [hrule] at h
      cases compiled with
      | basic rule => exact (BasicRule.gives_of_run h).1
      | cascade branches =>
        obtain ⟨rule, -, hrun⟩ := exists_of_runBranches_eq_ok h
        exact (BasicRule.gives_of_run hrun).1
  · obtain ⟨rule, -, -, hrun⟩ := exists_rule_of_run_eq_ok hany h
    exact (BasicRule.gives_of_run hrun).1

/-- The shape of outputs: whatever a specification gives without anything to run scripts, its text is its lines
put together; if it is no cascade, the lines are as its type has them. One line of a text is only refused by
the policy for errors, and just if there are line feeds in the text but for those at its end. -/
theorem run_shape (spec : ParserSpec) (text : String) :
    (∀ output, spec.run none text = .ok output → output.Joined ∧
      (spec.type? ≠ .ok .any →
        ∃ rule, Rule.ofSpec spec = .ok (.basic rule) ∧ spec.type? = .ok rule.type ∧ rule.Gives text output)) ∧
    (Rule.ofSpec spec = .ok (.basic (.lineStrict .error)) →
      ((∃ output, spec.run none text = .ok output) ↔ '\n' ∉ (Text.dropFinalBreaks text).toList)) := by
  refine ⟨fun output h => ⟨joined_of_run h, fun hany => ?_⟩, fun hrule => ?_⟩
  · obtain ⟨rule, hrule, htype, hrun⟩ := exists_rule_of_run_eq_ok hany h
    exact ⟨rule, hrule, htype, (BasicRule.gives_of_run hrun).2⟩
  · rw [run_of_ofSpec_basic hrule, BasicRule.run, MultiLinePolicy.exists_apply_error_iff,
      Text.length_physicalLines_le_one_iff]

/-- A cascade whose second branch gives a line with a line feed in it. -/
def lineOrArray : ParserSpec where
  type := some "any"
  options := [("parsers", .array [.object [("type", .string "line_strict")],
    .object [("type", .string "json_array")]])]

def strictLine : ParserSpec where
  type := some " line_strict"
  options := [("multi_line", .string "error")]

theorem run_shape_lineOrArray_strictLine :
    (RuleOutput.mk "a\nb\n1" ["a\nb", "1"]).Joined ∧
      (∃ rule, Rule.ofSpec strictLine = .ok (.basic rule) ∧ strictLine.type? = .ok rule.type ∧
        rule.Gives "a\n\r\n" ⟨"a", ["a"]⟩) ∧
      ((∃ output, strictLine.run none "a\n\nb" = .ok output) ↔
        '\n' ∉ (Text.dropFinalBreaks "a\n\nb").toList) :=
  ⟨((run_shape lineOrArray "[\"a\\nb\",\n1]").1 _ (by decide +kernel)).1,
    ((run_shape strictLine "a\n\r\n").1 _ (by decide +kernel)).2 (by decide +kernel),
    (run_shape strictLine "a\n\nb").2 rfl⟩

end ParserSpec
end ProfileKit

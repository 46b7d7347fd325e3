import ProfileKit.Proofs.Rule.Cascade
import ProfileKit.Proofs.Text.Lines

/-!
# Line ends

Rules that take a text line by line do not tell a line feed from a carriage return and a line feed, and neither
does a cascade of such rules (`ParserSpec.run_withReturns`): they see a text through its physical lines only.
-/

namespace ProfileKit

/-- The types of the rules that take a text line by line. -/
def ParserType.lineTypes : List ParserType := [.lineStrict, .jsonl, .taggedLine]

/-- A rule that takes a text line by line sees the same lines with carriage returns. -/
theorem BasicRule.run_of_withReturns {rule : BasicRule} (hrule : rule.type ∈ ParserType.lineTypes)
    (runner : Option ScriptRunner) {text : String} (htext : '\r' ∉ text.toList) :
    rule.run runner (Text.withReturns text) = rule.run runner text := by
  cases rule with
  | lineStrict policy => rw [run, run, Text.physicalLines_dropFinalBreaks_withReturns htext]
  | jsonl path => rw [run, run, Text.physicalLines_dropFinalBreaks_withReturns htext]
  | taggedLine p order =>
    rw [run, run, runTaggedLine, runTaggedLine, Text.physicalLines_withReturns htext]
  | _ => simp [type, ParserType.lineTypes] at hrule

/-- Branches that do not tell two texts apart make a cascade that does not. -/
theorem runBranches_congr {runner : Option ScriptRunner} {text text' : String}
    {branches : List (Except RuleFailure BasicRule)}
    (h : ∀ rule, .ok rule ∈ branches → rule.run runner text = rule.run runner text') (failure : RuleFailure) :
    runBranches runner text failure branches = runBranches runner text' failure branches := by
  rw [runBranches_eq_firstSuccess, runBranches_eq_firstSuccess]
  refine congrArg _ (List.map_congr_left fun branch hbranch => ?_)
  cases branch with
  | error e => rfl
  | ok rule => exact h rule hbranch

namespace ParserSpec

variable {spec : ParserSpec}

/-- The specification has one of the types that take a text line by line. -/
def ReadsLines (spec : ParserSpec) : Prop := ∃ t ∈ ParserType.lineTypes, spec.type? = .ok t

/-- The specification is a cascade, and all its entries are specifications that take a text line by line. -/
structure ReadsLinesInTurn (spec : ParserSpec) : Prop where
  cascade : spec.type? = .ok .any
  entries : ∀ entries, spec.options.get? "parsers" = some (.array entries) → ∀ entry ∈ entries,
    ∃ fields child, entry = .object fields ∧ codec.read? fields = .ok child ∧ child.ReadsLines

theorem ReadsLines.type_mem {rule : BasicRule} (h : spec.ReadsLines) (hrule : BasicRule.ofSpec spec = .ok rule) :
    rule.type ∈ ParserType.lineTypes := by
  obtain ⟨t, ht, htype⟩ := h
  rw [BasicRule.type_of_ofSpec hrule, Except.ok.injEq] at htype
  exact htype ▸ ht

theorem ReadsLines.ne_any (h : spec.ReadsLines) : spec.type? ≠ .ok .any := by
  obtain ⟨t, ht, htype⟩ := h
  rw [htype, ne_eq, Except.ok.injEq]
  rintro rfl
  simp [ParserType.lineTypes] at ht

/-- The entries of a cascade are those of its option. -/
theorem get?_of_cascadeEntries {options : Mapping} {entries : List Json} (h : cascadeEntries options = .ok entries) :
    options.get? "parsers" = some (.array entries) := by
  unfold cascadeEntries at h
  split at h
  · cases h
  · cases h
  · cases h
  · rename_i listed _ hget
    rw [hget, Except.ok.inj h]
  · cases h

theorem ReadsLinesInTurn.type_mem {entries : List Json} {rule : BasicRule} (h : spec.ReadsLinesInTurn)
    (hentries : cascadeEntries spec.options = .ok entries) (hrule : .ok rule ∈ entries.map BasicRule.ofEntry) :
    rule.type ∈ ParserType.lineTypes := by
  obtain ⟨entry, hentry, hcompiled⟩ := List.mem_map.1 hrule
  obtain ⟨fields, child, rfl, hread, hlines⟩ := h.entries entries (get?_of_cascadeEntries hentries) entry hentry
  refine hlines.type_mem ?_
  rw [← hcompiled, BasicRule.ofEntry, ParserSpec.ofEntry, hread]
  rfl

/-- With a carriage return before every line feed a text gives the same output, or the same failure. -/
theorem run_withReturns (h : spec.ReadsLines ∨ spec.ReadsLinesInTurn) (runner : Option ScriptRunner)
    {text : String} (htext : '\r' ∉ text.toList) :
    spec.run runner (Text.withReturns text) = spec.run runner text := by
  rcases h with h | h
  · rw [run_of_ne_any h.ne_any, run_of_ne_any h.ne_any]
    cases hrule : BasicRule.ofSpec spec with
    | error e => simp only [Except.bind]
    | ok rule =>
      simp only [Except.bind]
      exact BasicRule.run_of_withReturns (h.type_mem hrule) runner htext
  · unfold run Rule.ofSpec
    rw [h.cascade]
    cases hentries : cascadeEntries spec.options with
    | error e => simp only [bind, Except.bind]
    | ok entries =>
      simp only [bind, Except.bind, pure, Except.pure, Rule.run]
      exact runBranches_congr (fun rule hrule =>
        BasicRule.run_of_withReturns (h.type_mem hentries hrule) runner htext) _

/-- Lines of JSON, or else lines with tags. -/
def jsonOrTags : ParserSpec where
  type := some "any"
  options := [("parsers", .array [.object [("type", .string "tagged_line")], .object [("type", .string "jsonl")]])]

/-- The last failure counts the lines, blank ones included. -/
theorem run_withReturns_jsonOrTags :
    jsonOrTags.ReadsLinesInTurn ∧ jsonOrTags.run none "1\r\n\r\n\x7b\r\n\r\n" = .error (.invalidJsonLine 3) := by
  have hlines : jsonOrTags.ReadsLinesInTurn := by
    refine ⟨by decide +kernel, fun entries hentries entry hentry => ?_⟩
    obtain rfl : _ = entries := Json.array.inj (Option.some.inj hentries)
    rcases List.mem_cons.1 hentry with rfl | hentry
    · exact ⟨_, ⟨some "tagged_line", []⟩, rfl, rfl, .taggedLine, by decide, by decide +kernel⟩
    · obtain rfl := List.mem_singleton.1 hentry
      exact ⟨_, ⟨some "jsonl", []⟩, rfl, rfl, .jsonl, by decide, by decide +kernel⟩
  refine ⟨hlines, ?_⟩
  have htext : '\r' ∉ "1\n\n\x7b\n\n".toList := by decide +kernel
  exact (run_withReturns (.inr hlines) none htext).trans (by decide +kernel)

end ParserSpec
end ProfileKit

import ProfileKit.Proofs.Rule.Output

/-!
# Lines of JSON

A rule for lines of JSON takes every line of a text on its own, and where there are lines that it can take
nothing out of, the first of them says how it fails (`BasicRule.run_jsonl`). What a line gives does not depend
on its number (`LineGives`); how it fails does (`LineFails`), so blank lines are counted although nothing is read
in them.
-/

namespace ProfileKit

/-- The value that an optional path leads to; without a path that is the value itself. -/
def Json.project (path : Option String) (v : Json) : Except RuleFailure Json := path.elim (.ok v) v.resolve

/-! ## One line -/

/-- Something is taken out of a line: nothing out of a blank one, and otherwise the value that the path leads
to. -/
inductive LineGives (path : Option String) : String → String → Prop where
  | blank {line : String} (h : Text.isBlankText line = true) : LineGives path line ""
  | value {line : String} {v w : Json} (hblank : Text.isBlankText line = false)
      (hread : Json.read? line = some v) (hpath : v.project path = .ok w) : LineGives path line w.extractedText

/-- Nothing can be taken out of the `number`th line. -/
inductive LineFails (path : Option String) (number : Nat) : String → RuleFailure → Prop where
  | unread {line : String} (hblank : Text.isBlankText line = false) (hread : Json.read? line = none) :
      LineFails path number line (.invalidJsonLine number)
  | stuck {line : String} {v : Json} {failure : RuleFailure} (hblank : Text.isBlankText line = false)
      (hread : Json.read? line = some v) (hpath : v.project path = .error failure) :
      LineFails path number line failure

/-- A line is JSON that the path leads somewhere in, unless it is blank. -/
def LineReads (path : Option String) (line : String) : Prop :=
  Text.isBlankText line = false → ∃ v w, Json.read? line = some v ∧ v.project path = .ok w

section

variable {path : Option String} {number : Nat} {line entry : String} {failure : RuleFailure}

theorem jsonLine_of_isBlankText (h : Text.isBlankText line = true) : jsonLine path number line = .ok "" :=
  if_pos h

theorem jsonLine_of_read?_eq_none (hblank : Text.isBlankText line = false) (hread : Json.read? line = none) :
    jsonLine path number line = .error (.invalidJsonLine number) := by
  simp [jsonLine, hblank, hread]

theorem jsonLine_of_read?_eq_some {v : Json} (hblank : Text.isBlankText line = false)
    (hread : Json.read? line = some v) :
    jsonLine path number line = (v.project path).map Json.extractedText := by
  cases path with
  | none => simp [jsonLine, hblank, hread, Json.project, Except.map]
  | some p => simp [jsonLine, hblank, hread, Json.project]

theorem LineGives.jsonLine_eq (h : LineGives path line entry) (number : Nat) :
    jsonLine path number line = .ok entry := by
  cases h with
  | blank h => exact jsonLine_of_isBlankText h
  | value hblank hread hpath =>
    rw [jsonLine_of_read?_eq_some hblank hread, hpath]
    rfl

theorem LineFails.jsonLine_eq (h : LineFails path number line failure) :
    jsonLine path number line = .error failure := by
  cases h with
  | unread hblank hread => exact jsonLine_of_read?_eq_none hblank hread
  | stuck hblank hread hpath =>
    rw [jsonLine_of_read?_eq_some hblank hread, hpath]
    rfl

/-- Every line gives something or fails, whatever its number. -/
theorem exists_lineGives_or_lineFails (path : Option String) (number : Nat) (line : String) :
    (∃ entry, LineGives path line entry) ∨ ∃ failure, LineFails path number line failure := by
  cases hblank : Text.isBlankText line with
  | true => exact .inl ⟨"", .blank hblank⟩
  | false =>
    cases hread : Json.read? line with
    | none => exact .inr ⟨_, .unread hblank hread⟩
    | some v =>
      cases hpath : v.project path with
      | ok w => exact .inl ⟨_, .value hblank hread hpath⟩
      | error failure => exact .inr ⟨failure, .stuck hblank hread hpath⟩

theorem jsonLine_eq_ok_iff : jsonLine path number line = .ok entry ↔ LineGives path line entry := by
  refine ⟨fun h => ?_, fun h => h.jsonLine_eq number⟩
  rcases exists_lineGives_or_lineFails path number line with ⟨entry', hgives⟩ | ⟨failure, hfails⟩
  · rw [hgives.jsonLine_eq, Except.ok.injEq] at h
    exact h ▸ hgives
  · rw [hfails.jsonLine_eq] at h
    cases h

theorem jsonLine_eq_error_iff : jsonLine path number line = .error failure ↔ LineFails path number line failure := by
  refine ⟨fun h => ?_, LineFails.jsonLine_eq⟩
  rcases exists_lineGives_or_lineFails path number line with ⟨entry, hgives⟩ | ⟨failure', hfails⟩
  · rw [hgives.jsonLine_eq] at h
    cases h
  · rw [hfails.jsonLine_eq, Except.error.injEq] at h
    exact h ▸ hfails

theorem lineReads_iff : LineReads path line ↔ ∃ entry, LineGives path line entry := by
  constructor
  · intro h
    cases hblank : Text.isBlankText line with
    | true => exact ⟨"", .blank hblank⟩
    | false =>
      obtain ⟨v, w, hread, hpath⟩ := h hblank
      exact ⟨_, .value hblank hread hpath⟩
  · rintro ⟨entry, h | ⟨-, hread, hpath⟩⟩ hblank
    · simp [h] at hblank
    · exact ⟨_, _, hread, hpath⟩

instance (path : Option String) (number : Nat) (line : String) (failure : RuleFailure) :
    Decidable (LineFails path number line failure) :=
  decidable_of_iff _ jsonLine_eq_error_iff

instance (path : Option String) (line : String) : Decidable (LineReads path line) :=
  match h : jsonLine path 1 line with
  | .ok entry => isTrue (lineReads_iff.2 ⟨entry, jsonLine_eq_ok_iff.1 h⟩)
  | .error _ => isFalse fun hreads => by
    obtain ⟨entry, hgives⟩ := lineReads_iff.1 hreads
    rw [hgives.jsonLine_eq] at h
    cases h

end

/-! ## All lines -/

section

variable {path : Option String} {number : Nat} {lines entries : List String} {failure : RuleFailure}

/-- The lines are taken apart one by one, so what they give together is what each of them gives alone. -/
theorem jsonLines_eq_ok_iff (number : Nat) :
    jsonLines path number lines = .ok entries ↔ lines.Forall₂ (LineGives path) entries := by
  constructor
  · exact fun h => (forall₂_of_jsonLines h).imp fun line entry ⟨_, hline⟩ => jsonLine_eq_ok_iff.1 hline
  · intro h
    induction h generalizing number with
    | nil => rfl
    | cons hline _ ih =>
      rw [jsonLines, hline.jsonLine_eq, ih]
      rfl

theorem exists_forall₂_lineGives_iff :
    (∃ entries, lines.Forall₂ (LineGives path) entries) ↔ ∀ line ∈ lines, LineReads path line := by
  induction lines with
  | nil => simp
  | cons line rest ih =>
    rw [List.forall_mem_cons, ← ih, lineReads_iff]
    constructor
    · rintro ⟨_, _ | ⟨hline, hrest⟩⟩
      exact ⟨⟨_, hline⟩, _, hrest⟩
    · rintro ⟨⟨entry, hline⟩, others, hrest⟩
      exact ⟨entry :: others, .cons hline hrest⟩

/-- The first line that fails decides. -/
theorem jsonLines_append_cons {before : List String} {line : String} (after : List String)
    (hbefore : ∀ l ∈ before, LineReads path l) (hline : LineFails path (number + before.length) line failure) :
    jsonLines path number (before ++ line :: after) = .error failure := by
  induction before generalizing number with
  | nil =>
    have hfirst : LineFails path number line failure := hline
    rw [List.nil_append, jsonLines, hfirst.jsonLine_eq]
    rfl
  | cons first rest ih =>
    obtain ⟨hfirst, hrest⟩ := List.forall_mem_cons.1 hbefore
    obtain ⟨entry, hgives⟩ := lineReads_iff.1 hfirst
    rw [List.length_cons, ← Nat.add_assoc, Nat.add_right_comm] at hline
    rw [List.cons_append, jsonLines, hgives.jsonLine_eq, ih hrest hline]
    rfl

/-- Some line fails that has only lines before it that do not. The induction leaves `number` open, which grows by
one with each line that is read. -/
theorem exists_of_jsonLines_eq_error (h : jsonLines path number lines = .error failure) :
    ∃ before line after, lines = before ++ line :: after ∧ (∀ l ∈ before, LineReads path l) ∧
      LineFails path (number + before.length) line failure := by
  induction lines generalizing number with
  | nil => cases h
  | cons line rest ih =>
    rw [jsonLines] at h
    rcases bind_eq_error_iff.1 h with hline | ⟨entry, hline, h⟩
    · exact ⟨[], line, rest, rfl, by simp, jsonLine_eq_error_iff.1 hline⟩
    · rcases bind_eq_error_iff.1 h with hrest | ⟨others, -, h⟩
      · obtain ⟨before, bad, after, rfl, hbefore, hbad⟩ := ih hrest
        refine ⟨line :: before, bad, after, rfl, ?_, ?_⟩
        · exact List.forall_mem_cons.2 ⟨lineReads_iff.2 ⟨entry, jsonLine_eq_ok_iff.1 hline⟩, hbefore⟩
        · rw [List.length_cons, ← Nat.add_assoc, Nat.add_right_comm]
          exact hbad
      · cases h

theorem jsonLines_eq_error_iff :
    jsonLines path number lines = .error failure ↔
      ∃ before line after, lines = before ++ line :: after ∧ (∀ l ∈ before, LineReads path l) ∧
        LineFails path (number + before.length) line failure := by
  refine ⟨exists_of_jsonLines_eq_error, ?_⟩
  rintro ⟨before, line, after, rfl, hbefore, hline⟩
  exact jsonLines_append_cons after hbefore hline

end

/-! ## The rule -/

namespace BasicRule

theorem run_jsonl_eq_ok_iff {path : Option String} {runner : Option ScriptRunner} {text : String}
    {output : RuleOutput} :
    (jsonl path).run runner text = .ok output ↔
      output.Joined ∧
        (Text.physicalLines (Text.dropFinalBreaks text)).Forall₂ (LineGives path) output.lines := by
  rw [run, ← jsonLines_eq_ok_iff 1]
  cases jsonLines path 1 (Text.physicalLines (Text.dropFinalBreaks text)) with
  | error e => simp [Except.map]
  | ok entries => simp [Except.map, RuleOutput.ofLines_eq_iff]

theorem run_jsonl_eq_error_iff {path : Option String} {runner : Option ScriptRunner} {text : String}
    {failure : RuleFailure} :
    (jsonl path).run runner text = .error failure ↔
      jsonLines path 1 (Text.physicalLines (Text.dropFinalBreaks text)) = .error failure := by
  rw [run]
  cases jsonLines path 1 (Text.physicalLines (Text.dropFinalBreaks text)) with
  | error e => simp [Except.map]
  | ok entries => simp [Except.map]

/-- A value, a blank line, a value that the path `t` does not lead anywhere in, and something that is no JSON. -/
def strayLines : String := "\x7b\"t\": [1]\x7d\r\n \n\x7b\"u\": 2\x7d\r\n\x7b\n\r\n"

end BasicRule
end ProfileKit

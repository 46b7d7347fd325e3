import ProfileKit.Proofs.Check.Pipeline

/-!
# Errors about ids

That an id is not valid is found in the id alone, and that it is there already only when a profile is about to be
saved; no rule of a kind finds either (`KeepsOffIds`). Their codes are spelled as no other code is
(`Code.isAboutId_of_render`). So a profile with a valid id that is not known has neither code among its errors
(`errorCodes_checkForSave`).
-/

namespace ProfileKit.Check

open Finding (errorIf warningIf)

variable {c : Context} {p : Profile} {code : Code} {fs gs : List Finding} {f : Finding}

/-- The id is not valid, or it may not be used again. -/
def Code.isAboutId : Code → Bool
  | .invalidId | .duplicateId => true
  | _ => false

theorem append_ne_of_head?_ne {front back text : String} {c : Char} (hfront : front.toList.head? = some c)
    (htext : text.toList.head? ≠ some c) : front ++ back ≠ text := by
  rintro rfl
  refine htext ?_
  rw [String.toList_append, List.head?_append, hfront]
  rfl

/-- The two codes are told from all others by how they are spelled. -/
theorem Code.isAboutId_of_render (h : code.render = "invalid_id" ∨ code.render = "duplicate_id") :
    code.isAboutId = true := by
  have happend {front back : String} {c : Char} (hfront : front.toList.head? = some c)
      (hi : "invalid_id".toList.head? ≠ some c) (hd : "duplicate_id".toList.head? ≠ some c) :
      ¬ (front ++ back = "invalid_id" ∨ front ++ back = "duplicate_id") :=
    not_or.2 ⟨append_ne_of_head?_ne hfront hi, append_ne_of_head?_ne hfront hd⟩
  cases code with
  | invalidId => rfl
  | duplicateId => rfl
  | missingReference k id =>
    change "missing_reference:" ++ k.name ++ ":" ++ id = _ ∨ "missing_reference:" ++ k.name ++ ":" ++ id = _ at h
    rw [String.append_assoc, String.append_assoc] at h
    exact absurd h (happend (c := 'm') rfl (by decide) (by decide))
  | referenceCheckSkipped k => exact absurd h (happend (c := 'r') rfl (by decide) (by decide))
  | parser code => exact absurd h (happend (c := 'p') rfl (by decide) (by decide))
  | _ => exact absurd h (by decide +kernel)

/-! ## Rules of kinds -/

/-- None of the errors is about an id. -/
def KeepsOffIds (fs : List Finding) : Prop := ∀ code, .error code ∈ fs → code.isAboutId = false

@[simp] theorem keepsOffIds_nil : KeepsOffIds [] := nofun

@[simp] theorem keepsOffIds_append : KeepsOffIds (fs ++ gs) ↔ KeepsOffIds fs ∧ KeepsOffIds gs := by
  simp only [KeepsOffIds, List.mem_append, or_imp, forall_and]

@[simp] theorem keepsOffIds_flatMap {α : Type} {xs : List α} {find : α → List Finding} :
    KeepsOffIds (xs.flatMap find) ↔ ∀ x ∈ xs, KeepsOffIds (find x) := by
  simp only [KeepsOffIds, List.mem_flatMap]
  exact ⟨fun h x hx code hcode => h code ⟨x, hx, hcode⟩, fun h code ⟨x, hx, hcode⟩ => h x hx code hcode⟩

@[simp] theorem keepsOffIds_cons :
    KeepsOffIds (f :: fs) ↔ (∀ code, f = .error code → code.isAboutId = false) ∧ KeepsOffIds fs := by
  simp only [KeepsOffIds, List.mem_cons, or_imp, forall_and, eq_comm]

@[simp] theorem keepsOffIds_errorIf {b : Bool} :
    KeepsOffIds (errorIf b code) ↔ b = true → code.isAboutId = false := by
  simp [KeepsOffIds]

@[simp] theorem keepsOffIds_warningIf {b : Bool} : KeepsOffIds (warningIf b code) := by
  simp [KeepsOffIds]

theorem keepsOffIds_unknownType (hcode : code.isAboutId = false) : KeepsOffIds (c.unknownType code) := by
  unfold Context.unknownType
  split <;> simp [hcode]

theorem keepsOffIds_reference {k : Kind} {id : String} : KeepsOffIds (c.reference k id) := by
  unfold Context.reference
  split <;> simp [Code.isAboutId]

theorem keepsOffIds_api (p : ApiProfile) : KeepsOffIds (api c p) := by
  have hservice : KeepsOffIds (service p) := by
    unfold service
    cases filled p.baseUrl <;> simp [Code.isAboutId]
  have hendpoint (e : ApiEndpoint) : KeepsOffIds (endpoint e) := by
    unfold endpoint
    cases filled e.baseUrl <;> simp [Code.isAboutId]
  have hpool : KeepsOffIds (pool c p) := by
    unfold pool
    rw [keepsOffIds_append]
    refine ⟨by simp [Code.isAboutId], ?_⟩
    split
    · split <;> simp [Code.isAboutId, keepsOffIds_reference]
    · simp [Code.isAboutId, hendpoint]
  unfold api
  cases filled p.type with
  | none => simp [Code.isAboutId]
  | some name =>
    cases hname : ApiType.ofName? name with
    | none =>
      have hunknown : KeepsOffIds (c.unknownType .unknownApiType) := keepsOffIds_unknownType rfl
      simp [Code.isAboutId, hname, hunknown]
    | some type => cases type <;> simp [Code.isAboutId, hname, hservice, hpool]

theorem keepsOffIds_pipeline (p : PipelineProfile) : KeepsOffIds (pipeline c p) := by
  have hrequired : ∀ e ∈ required, e.2.isAboutId = false := by decide
  have hlines : KeepsOffIds (lineCoupling c p) := by
    unfold lineCoupling
    split <;> simp [Code.isAboutId]
  unfold pipeline
  simp only [keepsOffIds_append, keepsOffIds_flatMap]
  refine ⟨⟨⟨fun e he => ?_, ?_⟩, hlines⟩, ?_⟩
  · obtain ⟨k, missing⟩ := e
    cases p.reference k with
    | none => simp [hrequired _ he]
    | some id => exact keepsOffIds_reference
  · cases p.reference .policy with
    | none => exact keepsOffIds_nil
    | some id => exact keepsOffIds_reference
  · cases p.settings <;> simp [Code.isAboutId]

theorem keepsOffIds_prompt (p : PromptProfile) : KeepsOffIds (prompt p) := by
  unfold prompt
  cases p.context <;> simp [Code.isAboutId]

theorem keepsOffIds_parserRules (p : ParserProfile) : KeepsOffIds (parser c p) := by
  have hfailure (e : RuleFailure) : KeepsOffIds (ruleFailure c e) := by
    unfold ruleFailure
    split
    · exact keepsOffIds_unknownType rfl
    · simp [Code.isAboutId]
  unfold parser
  split
  · simp [Code.isAboutId]
  · split
    · exact keepsOffIds_unknownType rfl
    · split
      · exact hfailure _
      · exact keepsOffIds_nil
      · rw [keepsOffIds_flatMap]
        rintro (e | rule) -
        · exact hfailure e
        · exact keepsOffIds_nil

theorem keepsOffIds_policy (p : PolicyProfile) : KeepsOffIds (policy p) := by
  unfold policy
  cases p.options <;> simp [Code.isAboutId]

theorem keepsOffIds_chunk (p : ChunkProfile) : KeepsOffIds (chunk p) := by
  unfold chunk
  cases p.options with
  | none => simp [Code.isAboutId]
  | some o => by_cases hline : p.type? = some .line <;> simp [Code.isAboutId, hline]

/-! ## Saving -/

/-- Only an id that is not valid gives an error about the id. -/
theorem not_isAboutId_of_mem_findings {id : String} (hid : p.trimmedId? = some id) (hvalid : Id.isValid id = true)
    (h : .error code ∈ findings c p) : code.isAboutId = false := by
  have hidentity : KeepsOffIds (identity p.id p.name) := by
    have hfilled : filled p.id = some id := hid
    simp [identity, hfilled, hvalid]
  have hall : KeepsOffIds (findings c p) := by
    unfold findings
    rw [keepsOffIds_append]
    refine ⟨hidentity, ?_⟩
    cases p with
    | api p => exact keepsOffIds_api p
    | pipeline p => exact keepsOffIds_pipeline p
    | prompt p => exact keepsOffIds_prompt p
    | parser p => exact keepsOffIds_parserRules p
    | policy p => exact keepsOffIds_policy p
    | chunk p => exact keepsOffIds_chunk p
  exact hall code h

/-- A profile with a valid id that is not known is not refused for the id. -/
theorem errorCodes_checkForSave {id : String} (hid : p.trimmedId? = some id) (hvalid : Id.isValid id = true)
    (hnew : c.index.contains p.kind id = false) (overwrite : Bool) :
    "invalid_id" ∉ (c.checkForSave p overwrite).errorCodes ∧
      "duplicate_id" ∉ (c.checkForSave p overwrite).errorCodes := by
  have hoff : ∀ code ∈ (c.checkForSave p overwrite).errors, code.isAboutId = false := by
    intro code hcode
    rw [Context.checkForSave, Report.ofFindings, Report.mem_firstOccurrences, List.mem_filterMap] at hcode
    obtain ⟨f, hf, herror⟩ := hcode
    cases f with
    | error found =>
      obtain rfl : found = code := Option.some.inj herror
      rcases List.mem_append.1 hf with hf | hf
      · exact not_isAboutId_of_mem_findings hid hvalid hf
      · obtain ⟨i, hi, hblank⟩ := Option.bind_eq_some_iff.1 hid
        have htrim : Text.trim i = id := (Text.nonBlank?_eq_some_iff.1 hblank).1
        simp [Context.duplicate, hi, htrim, hnew] at hf
    | warning => cases herror
    | skipped => cases herror
  have hcode (spelled : String) (hspelled : spelled = "invalid_id" ∨ spelled = "duplicate_id") :
      spelled ∉ (c.checkForSave p overwrite).errorCodes := by
    intro hmem
    obtain ⟨code, herror, rfl⟩ := List.mem_map.1 hmem
    have habout : code.isAboutId = true := Code.isAboutId_of_render hspelled
    rw [hoff code herror] at habout
    cases habout
  exact ⟨hcode _ (.inl rfl), hcode _ (.inr rfl)⟩

end ProfileKit.Check

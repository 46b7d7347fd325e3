import ProfileKit.Proofs.Check.Alike
import ProfileKit.Proofs.Editor.Reread
import ProfileKit.Proofs.Editor.Unedited

/-!
# Opening and writing keeps a document clean

A document that is a profile without errors stays one when it is opened and written unedited. What a slot
writes is taken by the field that reads its key, and is alike to a check (`Resaved.text` and the lemmas after
it). So it is for the mappings inside a profile (`KeepsClean`), and then for the profiles of every kind.
-/

namespace ProfileKit

open Check (Clean filled isBadCount isBadSize isBadRatio)

/-! ## Slots -/

namespace Resaved

variable {slots : List Slot} {before after : Mapping} {key : String}

theorem text (h : Resaved slots before after) (name : String) (hs : ⟨name, key, .text⟩ ∈ slots) {f : Field (Option String)}
    (hf : f.IsText) (htakes : f.Takes (before.get? key)) :
    f.Takes (after.get? key) ∧ filled (f.read (after.get? key)) = filled (f.read (before.get? key)) := by
  have hafter : after.get? key = textValue (shownAt before key) := h.get? _ hs
  rw [hafter]
  exact ⟨hf.takes_textValue _, hf.filled_read_shown htakes⟩

/-- A text whose key is renamed is read under either of its keys. -/
theorem renamedText (h : Resaved slots before after) (name : String) {old : String}
    (hs : ⟨name, key, .renamedText old⟩ ∈ slots) {f : Field (Option String)} (hf : f.IsText)
    (hkey : f.Takes (before.get? key)) (hold : f.Takes (before.get? old))
    (hone : before.get? key = none ∨ before.get? old = none) :
    f.Takes (after.get? key) ∧
      filled (f.read (after.get? key)) = filled (f.read ((before.get? key).or (before.get? old))) := by
  have hafter : after.get? key =
      textValue (if (shownAt before key).isEmpty then shownAt before old else shownAt before key) := h.get? _ hs
  rw [hafter]
  refine ⟨hf.takes_textValue _, ?_⟩
  rw [hf.filled_read_textValue]
  rcases hone with hnone | hnone
  · have hempty : shownAt before key = "" := by rw [shownAt, hnone]; rfl
    rw [hempty, hnone, Option.none_or]
    exact hf.filled_shownAt hold
  · have hempty : shownAt before old = "" := by rw [shownAt, hnone]; rfl
    have hshown : (if (shownAt before key).isEmpty then "" else shownAt before key) = shownAt before key := by
      split
      · rename_i h
        exact (String.isEmpty_iff.1 h).symm
      · rfl
    rw [hempty, hshown, hnone, Option.or_none]
    exact hf.filled_shownAt hkey

theorem toggle (h : Resaved slots before after) (name key : String) (hs : ⟨name, key, .toggle⟩ ∈ slots) :
    Field.flag.Takes (after.get? key) ∧
      Field.flag.read (after.get? key) = Field.flag.read (before.get? key) := by
  have hafter : after.get? key = ((before.get? key).bind Json.asBool?).map .bool := h.get? _ hs
  rw [hafter]
  exact ⟨Field.takes_flag_shown _, Field.read_flag_shown _⟩

theorem count (h : Resaved slots before after) (name : String) (hs : ⟨name, key, .number⟩ ∈ slots)
    (hgood : isBadCount (Field.count.read (before.get? key)) = false) :
    Field.count.read (after.get? key) = Field.count.read (before.get? key) := by
  have hafter : after.get? key = (Text.nonBlank? (shownAt before key)).map typedValue := h.get? _ hs
  rw [hafter, Field.read_count_shown h.wellFormed hgood]

theorem ratio (h : Resaved slots before after) (name : String) (hs : ⟨name, key, .number⟩ ∈ slots)
    (hgood : isBadRatio (Field.ratio.read (before.get? key)) = false) :
    Field.ratio.read (after.get? key) = Field.ratio.read (before.get? key) := by
  have hafter : after.get? key = (Text.nonBlank? (shownAt before key)).map typedValue := h.get? _ hs
  rw [hafter, Field.read_ratio_shown h.wellFormed hgood]

theorem texts (h : Resaved slots before after) (name : String) (hs : ⟨name, key, .list⟩ ∈ slots)
    (htakes : Field.texts.Takes (before.get? key)) :
    Field.texts.Takes (after.get? key) ∧
      ((Field.texts.read (after.get? key)).getD []).filterMap Text.nonBlank? =
        ((Field.texts.read (before.get? key)).getD []).filterMap Text.nonBlank? := by
  have hafter : after.get? key = listValue (itemsAt before key) := h.get? _ hs
  rw [hafter]
  exact ⟨Field.takes_texts_listValue _, Field.nonBlanks_read_texts_shown htakes⟩

theorem options (h : Resaved slots before after) (name : String) (hs : ⟨name, key, .json⟩ ∈ slots)
    (htakes : Field.options.Takes (before.get? key)) : after.get? key = before.get? key := by
  have hafter : after.get? key = Field.present (before.get? key) := h.get? _ hs
  rw [hafter, Field.present_eq_of_takes_options htakes]

end Resaved

/-! ## Mappings inside a profile -/

/-- A mapping inside a profile keeps being read without errors when its slots are written unedited. -/
structure KeepsClean {α : Type} (codec : Codec α) (check : Option α → List Check.Finding)
    (slots : List Slot) : Prop where
  clean_none : Clean (check none)
  fault?_nil : codec.fault? [] = none
  clean_nil : Clean (check (some (codec.read [])))
  resaved {before after : Mapping} (h : Resaved slots before after) (hfault : codec.fault? before = none)
    (hclean : Clean (check (some (codec.read before)))) :
    codec.fault? after = none ∧ Clean (check (some (codec.read after)))

namespace KeepsClean

variable {α : Type} {codec : Codec α} {check : Option α → List Check.Finding} {slots : List Slot}

/-- A mapping that is missing is as good as an empty one. -/
theorem innerMapping (hkeeps : KeepsClean codec check slots) {m : Mapping} {key : String}
    (htakes : codec.nested.Takes (m.get? key)) (hclean : Clean (check (codec.nested.read (m.get? key)))) :
    codec.fault? (innerMapping m key) = none ∧ Clean (check (some (codec.read (innerMapping m key)))) := by
  unfold ProfileKit.innerMapping
  split
  · rename_i fields hkey
    rw [hkey] at hclean
    exact ⟨htakes _ hkey, hclean⟩
  · exact ⟨hkeeps.fault?_nil, hkeeps.clean_nil⟩

theorem mappingValue (hkeeps : KeepsClean codec check slots) {m : Mapping} (hfault : codec.fault? m = none)
    (hclean : Clean (check (some (codec.read m)))) :
    codec.nested.Takes (mappingValue m) ∧ Clean (check (codec.nested.read (mappingValue m))) := by
  unfold ProfileKit.mappingValue
  split
  · exact ⟨fun _ hw => (Option.some_ne_none _ hw.symm).elim, hkeeps.clean_none⟩
  · refine ⟨fun w hw => ?_, hclean⟩
    rw [← Option.some.inj hw]
    exact hfault

/-- The mapping inside a profile is taken and checked when the profile is written unedited. -/
theorem unedited {k : Kind} (hkeeps : KeepsClean codec check (Layout.ofKind k).inner) {raw written : Mapping}
    (h : Unedited k raw written) (hne : (Layout.ofKind k).inner ≠ [])
    (htakes : codec.nested.Takes (raw.get? (Layout.ofKind k).scope))
    (hclean : Clean (check (codec.nested.read (raw.get? (Layout.ofKind k).scope)))) :
    codec.nested.Takes (written.get? (Layout.ofKind k).scope) ∧
      Clean (check (codec.nested.read (written.get? (Layout.ofKind k).scope))) := by
  obtain ⟨inner, hresaved, hwritten⟩ := h.inner hne
  obtain ⟨hfault, hinner⟩ := hkeeps.innerMapping htakes hclean
  obtain ⟨hfault', hinner'⟩ := hkeeps.resaved hresaved hfault hinner
  rw [hwritten]
  exact hkeeps.mappingValue hfault' hinner'

end KeepsClean

theorem PipelineSettings.keepsClean :
    KeepsClean codec Check.settingsFindings (Layout.ofKind .pipeline).inner where
  clean_none := by decide
  fault?_nil := rfl
  clean_nil := by decide
  resaved {before after} h hfault hclean := by
    constructor
    · simp only [codec, Codec.ofRecord, Record.fault?_cons h.sorted, Record.fault?_field h.sorted]
      exact ⟨Field.takes_count _, Field.takes_count _⟩
    · simp only [Check.settingsFindings, Check.clean_append, Check.clean_errorIf] at hclean ⊢
      have hbatch : (codec.read after).batchSize = (codec.read before).batchSize :=
        h.count "batch_size" (by decide) hclean.1
      have hconcurrency : (codec.read after).concurrency = (codec.read before).concurrency :=
        h.count "concurrency" (by decide) hclean.2
      rw [hbatch, hconcurrency]
      exact hclean

theorem PromptContext.keepsClean : KeepsClean codec Check.contextFindings (Layout.ofKind .prompt).inner where
  clean_none := by decide
  fault?_nil := rfl
  clean_nil := by decide
  resaved {before after} h hfault hclean := by
    simp only [codec, Codec.ofRecord, Record.fault?_cons h.wellFormed.sorted,
      Record.fault?_field h.wellFormed.sorted] at hfault
    obtain ⟨-, -, hjoiner, hformat, -⟩ := hfault
    obtain ⟨hjoiner, -⟩ := h.text "joiner" (by decide) Field.isText_text hjoiner
    obtain ⟨hformat, hsame⟩ := h.text "source_format" (by decide) Field.isText_text hformat
    constructor
    · simp only [codec, Codec.ofRecord, Record.fault?_cons h.sorted, Record.fault?_field h.sorted]
      exact ⟨Field.takes_count _, Field.takes_count _, hjoiner, hformat, Field.takes_count _⟩
    · simp only [Check.contextFindings, Check.clean_append, Check.clean_errorIf, Bool.and_eq_false_iff]
        at hclean ⊢
      obtain ⟨⟨hbefore, hafter⟩, hlines⟩ := hclean
      have hbefore' : (codec.read after).beforeLines = (codec.read before).beforeLines :=
        h.count "before_lines" (by decide) hbefore
      have hafter' : (codec.read after).afterLines = (codec.read before).afterLines :=
        h.count "after_lines" (by decide) hafter
      have hformat' : (codec.read after).sourceFormat? = (codec.read before).sourceFormat? :=
        congrArg (Option.map SourceFormat.ofName) hsame
      rw [hbefore', hafter', hformat']
      refine ⟨⟨hbefore, hafter⟩, hlines.imp_right fun hlines => ?_⟩
      -- the number of lines is checked for one format only, and may be of any shape for the others
      have hlines' : (codec.read after).sourceLines = (codec.read before).sourceLines :=
        h.count "source_lines" (by decide) hlines
      rw [hlines', hlines]

theorem PolicyOptions.keepsClean :
    KeepsClean codec Check.policyOptionFindings (Layout.ofKind .policy).inner where
  clean_none := by decide
  fault?_nil := rfl
  clean_nil := by decide
  resaved {before after} h hfault hclean := by
    simp only [codec, Codec.ofRecord, Record.fault?_cons h.wellFormed.sorted,
      Record.fault?_field h.wellFormed.sorted] at hfault
    obtain ⟨hmismatch, -, -, hchecks⟩ := hfault
    obtain ⟨hmismatch, hsame⟩ := h.text "on_mismatch" (by decide) Field.isText_looseText hmismatch
    obtain ⟨htrim, -⟩ := h.toggle "trim" "trim" (by decide)
    obtain ⟨hchecks, -⟩ := h.texts "checks" (by decide) hchecks
    constructor
    · simp only [codec, Codec.ofRecord, Record.fault?_cons h.sorted, Record.fault?_field h.sorted]
      exact ⟨hmismatch, htrim, Field.takes_ratio _, hchecks⟩
    · simp only [Check.policyOptionFindings, Check.clean_append, Check.clean_errorIf, Check.clean_flatMap,
        Check.clean_warningIf, implies_true, and_true] at hclean ⊢
      have hmismatch' : filled (codec.read after).onMismatch = filled (codec.read before).onMismatch := hsame
      have hstrategy : (codec.read after).onMismatch? = (codec.read before).onMismatch? :=
        congrArg (Option.bind · MismatchStrategy.ofName?) hsame
      have hthreshold : (codec.read after).similarityThreshold = (codec.read before).similarityThreshold :=
        h.ratio "similarity_threshold" (by decide) hclean.2
      rw [hmismatch', hstrategy, hthreshold]
      exact hclean

/-- The options of slicing are checked against the type, which stays the same. -/
theorem ChunkOptions.keepsClean (type : Option ChunkType) :
    KeepsClean codec (Check.chunkOptionFindings type) (Layout.ofKind .chunk).inner where
  clean_none := by simp [Check.chunkOptionFindings]
  fault?_nil := rfl
  clean_nil := by
    rcases type with _ | _ | _ <;> decide
  resaved {before after} h hfault hclean := by
    obtain ⟨henabled, -⟩ := h.toggle "kana_retry_enabled" "kana_retry_enabled" (by decide)
    constructor
    · simp only [codec, Codec.ofRecord, Record.fault?_cons h.sorted, Record.fault?_field h.sorted]
      exact ⟨Field.takes_count _, Field.takes_count _, Field.takes_ratio _, Field.takes_count _, henabled,
        Field.takes_ratio _, Field.takes_count _⟩
    · simp only [Check.chunkOptionFindings, Check.clean_append, Check.clean_errorIf] at hclean ⊢
      obtain ⟨⟨⟨⟨⟨htarget, hmax⟩, hbelow⟩, hbalance⟩, hcount⟩, hkana⟩ := hclean
      have htarget' : (codec.read after).targetChars = (codec.read before).targetChars :=
        h.count "target_chars" (by decide) (Check.isBadCount_of_isBadSize htarget)
      have hmax' : (codec.read after).maxChars = (codec.read before).maxChars :=
        h.count "max_chars" (by decide) (Check.isBadCount_of_isBadSize hmax)
      have hbelow' : Check.maxBelowTarget (codec.read after) = Check.maxBelowTarget (codec.read before) := by
        rw [Check.maxBelowTarget, Check.maxBelowTarget, htarget', hmax']
      have hbalance' : (codec.read after).balanceThreshold = (codec.read before).balanceThreshold :=
        h.ratio "balance_threshold" (by decide) hbalance
      have hcount' : (codec.read after).balanceCount = (codec.read before).balanceCount :=
        h.count "balance_count" (by decide) hcount
      rw [htarget', hmax', hbelow', hbalance', hcount']
      refine ⟨⟨⟨⟨⟨htarget, hmax⟩, hbelow⟩, hbalance⟩, hcount⟩, ?_⟩
      -- what is about kana may be of any shape for lines
      split
      · exact Check.clean_warningIf
      · rename_i hline
        simp only [if_neg hline, Check.clean_append, Check.clean_errorIf] at hkana ⊢
        have hthreshold : (codec.read after).kanaRetryThreshold = (codec.read before).kanaRetryThreshold :=
          h.ratio "kana_retry_threshold" (by decide) hkana.1
        have hmin : (codec.read after).kanaRetryMinChars = (codec.read before).kanaRetryMinChars :=
          h.count "kana_retry_min_chars" (by decide) (Check.isBadCount_of_isBadSize hkana.2)
        rw [hthreshold, hmin]
        exact hkana

/-! ## Profiles -/

section
variable {c : Check.Context} {k : Kind} {raw written : Mapping}

theorem Layout.identity_subset_top (k : Kind) : ∀ s ∈ identity, s ∈ (ofKind k).top := by
  cases k <;> decide

/-- Id and name are taken, and nothing is found in them that was not before. -/
theorem Unedited.identity (h : Unedited k raw written) (hid : Field.looseText.Takes (raw.get? "id"))
    (hname : Field.looseText.Takes (raw.get? "name")) :
    Field.looseText.Takes (written.get? "id") ∧ Field.looseText.Takes (written.get? "name") ∧
      (Clean (Check.identity (Field.looseText.read (raw.get? "id")) (Field.looseText.read (raw.get? "name"))) →
        Clean (Check.identity (Field.looseText.read (written.get? "id"))
          (Field.looseText.read (written.get? "name")))) := by
  obtain ⟨hid, hsameId⟩ := h.top.text "id" (Layout.identity_subset_top k _ (by decide)) Field.isText_looseText hid
  obtain ⟨hname, hsameName⟩ :=
    h.top.text "name" (Layout.identity_subset_top k _ (by decide)) Field.isText_looseText hname
  refine ⟨hid, hname, fun hclean => ?_⟩
  rw [Check.identity_congr hsameId hsameName]
  exact hclean

theorem ApiProfile.clean_unedited (h : Unedited .api raw written) (hfault : codec.fault? raw = none)
    (hclean : Clean (Check.findings c (.api (codec.read raw)))) :
    codec.fault? written = none ∧ Clean (Check.findings c (.api (codec.read written))) := by
  simp only [codec, Codec.ofRecord, Record.fault?_cons h.top.wellFormed.sorted,
    Record.fault?_field h.top.wellFormed.sorted] at hfault
  obtain ⟨hid, hname, htype, hbase, hmodel, hkey, -, -, -, -, -, -, hendpoints, hmembers⟩ := hfault
  obtain ⟨hid, hname, hidentity⟩ := h.identity hid hname
  obtain ⟨htype, hsameType⟩ := h.top.text "api_type" (by decide) Field.isText_looseText htype
  obtain ⟨hbase, hsameBase⟩ := h.top.text "base_url" (by decide) Field.isText_text hbase
  obtain ⟨hmodel, hsameModel⟩ := h.top.text "model" (by decide) Field.isText_text hmodel
  obtain ⟨hkey, -⟩ := h.top.text "api_key" (by decide) Field.isText_text hkey
  obtain ⟨hmembers, hsameMembers⟩ := h.top.texts "members" (by decide) hmembers
  -- no slot shows the endpoints
  have hkept : written.get? "endpoints" = raw.get? "endpoints" := h.other "endpoints" (by decide)
  constructor
  · simp only [codec, Codec.ofRecord, Record.fault?_cons h.top.sorted, Record.fault?_field h.top.sorted]
    exact ⟨hid, hname, htype, hbase, hmodel, hkey, Field.takes_anyValue _, Field.takes_anyValue _,
      Field.takes_count _, Field.takes_count _, Field.takes_count _, Field.takes_count _, hkept ▸ hendpoints,
      hmembers⟩
  · simp only [Check.findings, Check.clean_append] at hclean ⊢
    refine ⟨hidentity hclean.1, ?_⟩
    have hcounts := hclean.2
    simp only [Check.api, Check.clean_append, Check.clean_errorIf] at hcounts
    obtain ⟨⟨⟨⟨htimeout, hconcurrency⟩, hrpm⟩, hretries⟩, -⟩ := hcounts
    rw [Check.api_congr (q := codec.read raw)]
    · exact hclean.2
    · exact {
        type := hsameType
        baseUrl := hsameBase
        model := hsameModel
        timeout := h.top.count "timeout" (by decide) htimeout
        concurrency := h.top.count "concurrency" (by decide) hconcurrency
        rpm := h.top.count "rpm" (by decide) hrpm
        maxRetries := h.top.count "max_retries" (by decide) hretries
        endpoints := congrArg ApiEndpoint.codec.list.read hkept
        members := hsameMembers }

theorem PipelineProfile.clean_unedited (h : Unedited .pipeline raw written) (hfault : codec.fault? raw = none)
    (hclean : Clean (Check.findings c (.pipeline (codec.read raw)))) :
    codec.fault? written = none ∧ Clean (Check.findings c (.pipeline (codec.read written))) := by
  simp only [codec, Codec.ofRecord, Record.fault?_cons h.top.wellFormed.sorted,
    Record.fault?_field h.top.wellFormed.sorted] at hfault
  obtain ⟨hid, hname, hprovider, hprompt, hparser, hchunk, hpolicy, -, hsettings⟩ := hfault
  obtain ⟨hid, hname, hidentity⟩ := h.identity hid hname
  obtain ⟨hprovider, hsameProvider⟩ := h.top.text "provider" (by decide) Field.isText_looseText hprovider
  obtain ⟨hprompt, hsamePrompt⟩ := h.top.text "prompt" (by decide) Field.isText_looseText hprompt
  obtain ⟨hparser, hsameParser⟩ := h.top.text "parser" (by decide) Field.isText_looseText hparser
  obtain ⟨hchunk, hsameChunk⟩ := h.top.text "chunk_policy" (by decide) Field.isText_looseText hchunk
  obtain ⟨hpolicy, hsamePolicy⟩ := h.top.text "line_policy" (by decide) Field.isText_looseText hpolicy
  obtain ⟨happly, hsameApply⟩ := h.top.toggle "apply_line_policy" "apply_line_policy" (by decide)
  simp only [Check.findings, Check.pipeline_eq, Check.clean_append] at hclean ⊢
  obtain ⟨hclean, ⟨hreferences, hcoupling⟩, hcleanSettings⟩ := hclean
  obtain ⟨hsettings, hcleanSettings⟩ :=
    PipelineSettings.keepsClean.unedited h (by decide) hsettings hcleanSettings
  constructor
  · simp only [codec, Codec.ofRecord, Record.fault?_cons h.top.sorted, Record.fault?_field h.top.sorted]
    exact ⟨hid, hname, hprovider, hprompt, hparser, hchunk, hpolicy, happly, hsettings⟩
  · have href (k : Kind) : (codec.read written).reference k = (codec.read raw).reference k := by
      cases k with
      | api => exact hsameProvider
      | prompt => exact hsamePrompt
      | parser => exact hsameParser
      | chunk => exact hsameChunk
      | policy => exact hsamePolicy
      | pipeline => rfl
    refine ⟨hidentity hclean, ?_, hcleanSettings⟩
    rw [← Check.clean_append, Check.references_congr href hsameApply, Check.clean_append]
    exact ⟨hreferences, hcoupling⟩

theorem PromptProfile.clean_unedited (h : Unedited .prompt raw written) (hfault : codec.fault? raw = none)
    (hclean : Clean (Check.findings c (.prompt (codec.read raw)))) :
    codec.fault? written = none ∧ Clean (Check.findings c (.prompt (codec.read written))) := by
  simp only [codec, Codec.ofRecord, Record.fault?_cons h.top.wellFormed.sorted,
    Record.fault?_field h.top.wellFormed.sorted] at hfault
  obtain ⟨hid, hname, hsystem, huser, hcontext⟩ := hfault
  obtain ⟨hid, hname, hidentity⟩ := h.identity hid hname
  obtain ⟨hsystem, -⟩ := h.top.text "system_template" (by decide) Field.isText_text hsystem
  obtain ⟨huser, hsame⟩ := h.top.text "user_template" (by decide) Field.isText_text huser
  simp only [Check.findings, Check.prompt_eq, Check.clean_append, Check.clean_errorIf] at hclean ⊢
  obtain ⟨hclean, hslot, hcleanContext⟩ := hclean
  obtain ⟨hcontext, hcleanContext⟩ := PromptContext.keepsClean.unedited h (by decide) hcontext hcleanContext
  constructor
  · simp only [codec, Codec.ofRecord, Record.fault?_cons h.top.sorted, Record.fault?_field h.top.sorted]
    exact ⟨hid, hname, hsystem, huser, hcontext⟩
  · have htemplate : (codec.read written).userTemplate.bind Text.nonBlank? =
        (codec.read raw).userTemplate.bind Text.nonBlank? := hsame
    have hslot' : (codec.read written).hasSourceSlot = (codec.read raw).hasSourceSlot := by
      rw [hasSourceSlot, hasSourceSlot, htemplate]
    exact ⟨hidentity hclean, hslot' ▸ hslot, hcleanContext⟩

theorem ParserProfile.clean_unedited (h : Unedited .parser raw written) (hfault : codec.fault? raw = none)
    (hclean : Clean (Check.findings c (.parser (codec.read raw)))) :
    codec.fault? written = none ∧ Clean (Check.findings c (.parser (codec.read written))) := by
  simp only [codec, Codec.ofRecord, Record.fault?_cons h.top.wellFormed.sorted,
    Record.fault?_field h.top.wellFormed.sorted] at hfault
  obtain ⟨hid, hname, htype, hoptions⟩ := hfault
  obtain ⟨hid, hname, hidentity⟩ := h.identity hid hname
  obtain ⟨htype, hsame⟩ := h.top.text "parser_type" (by decide) Field.isText_looseText htype
  have hkept : written.get? "options" = raw.get? "options" := h.top.options "options" (by decide) hoptions
  constructor
  · simp only [codec, Codec.ofRecord, Record.fault?_cons h.top.sorted, Record.fault?_field h.top.sorted]
    exact ⟨hid, hname, htype, hkept ▸ hoptions⟩
  · have hparser : Check.parser c (codec.read written) = Check.parser c (codec.read raw) :=
      Check.parser_congr hsame (congrArg Field.options.read hkept)
    simp only [Check.findings, Check.clean_append, hparser] at hclean ⊢
    exact ⟨hidentity hclean.1, hclean.2⟩

theorem PolicyProfile.clean_unedited (h : Unedited .policy raw written) (hfault : codec.fault? raw = none)
    (hclean : Clean (Check.findings c (.policy (codec.read raw)))) :
    codec.fault? written = none ∧ Clean (Check.findings c (.policy (codec.read written))) := by
  simp only [codec, Codec.ofRecord, Record.fault?_cons h.top.wellFormed.sorted,
    Record.fault?_field h.top.wellFormed.sorted] at hfault
  obtain ⟨hid, hname, htype, hoptions⟩ := hfault
  obtain ⟨hid, hname, hidentity⟩ := h.identity hid hname
  obtain ⟨htype, hsame⟩ := h.top.text "policy_type" (by decide) Field.isText_looseText htype
  simp only [Check.findings, Check.policy_eq, Check.clean_append, Check.clean_errorIf] at hclean ⊢
  obtain ⟨hclean, hcleanType, hcleanOptions⟩ := hclean
  obtain ⟨hoptions, hcleanOptions⟩ := PolicyOptions.keepsClean.unedited h (by decide) hoptions hcleanOptions
  constructor
  · simp only [codec, Codec.ofRecord, Record.fault?_cons h.top.sorted, Record.fault?_field h.top.sorted]
    exact ⟨hid, hname, htype, hoptions⟩
  · have htype' : (codec.read written).type? = (codec.read raw).type? :=
      congrArg (Option.bind · PolicyType.ofName?) hsame
    exact ⟨hidentity hclean, htype' ▸ hcleanType, hcleanOptions⟩

theorem ChunkProfile.clean_unedited (h : Unedited .chunk raw written) (hfault : codec.fault? raw = none)
    (hclean : Clean (Check.findings c (.chunk (codec.read raw)))) :
    codec.fault? written = none ∧ Clean (Check.findings c (.chunk (codec.read written))) := by
  have hne : "chunk_type" ≠ "type" := by decide
  simp only [codec, Codec.ofRecord, Record.fault?_cons h.top.wellFormed.sorted,
    Record.fault?_pair h.top.wellFormed.sorted, Record.fault?_aliasedField h.top.wellFormed.sorted hne,
    Record.fault?_field h.top.wellFormed.sorted] at hfault
  obtain ⟨hid, hname, ⟨htype, hlegacy, hone⟩, hoptions⟩ := hfault
  obtain ⟨hid, hname, hidentity⟩ := h.identity hid hname
  obtain ⟨htype, hsame⟩ := h.top.renamedText "chunk_type" (by decide) Field.isText_looseText htype hlegacy hone
  have hold : written.get? "type" = none :=
    h.old ⟨"chunk_type", "chunk_type", .renamedText "type"⟩ (by decide) "type" rfl
  have htype' : (codec.read written).type? = (codec.read raw).type? := by
    have hread : (codec.read written).type = Field.looseText.read (written.get? "chunk_type") := by
      rw [← Option.or_none (o := written.get? "chunk_type"), ← hold]
      rfl
    rw [type?, hread]
    exact congrArg (Option.bind · ChunkType.ofName?) hsame
  simp only [Check.findings, Check.chunk_eq, Check.clean_append, Check.clean_errorIf] at hclean ⊢
  obtain ⟨hclean, hcleanType, hcleanOptions⟩ := hclean
  obtain ⟨hoptions, hcleanOptions⟩ :=
    (ChunkOptions.keepsClean _).unedited h (by decide) hoptions hcleanOptions
  constructor
  · simp only [codec, Codec.ofRecord, Record.fault?_cons h.top.sorted, Record.fault?_pair h.top.sorted,
      Record.fault?_aliasedField h.top.sorted hne, Record.fault?_field h.top.sorted]
    exact ⟨hid, hname, ⟨htype, fun v hv => by simp [hold] at hv, .inr hold⟩, hoptions⟩
  · rw [htype']
    exact ⟨hidentity hclean, hcleanType, hcleanOptions⟩

theorem Codec.exists_clean {α : Type} {codec : Codec α} {make : α → Profile}
    (hstays : codec.fault? raw = none → Clean (Check.findings c (make (codec.read raw))) →
      codec.fault? written = none ∧ Clean (Check.findings c (make (codec.read written))))
    {p : Profile} (hp : (codec.read? raw).map make = .ok p) (hclean : Clean (Check.findings c p)) :
    ∃ q, (codec.read? written).map make = .ok q ∧ Clean (Check.findings c q) := by
  obtain ⟨a, hread, rfl⟩ := Profile.map_eq_ok_iff.1 hp
  obtain ⟨hfault, rfl⟩ := Codec.read?_eq_ok_iff.1 hread
  obtain ⟨hfault, hclean⟩ := hstays hfault hclean
  exact ⟨_, Profile.map_eq_ok_iff.2 ⟨_, Codec.read?_eq_ok_iff.2 ⟨hfault, rfl⟩, rfl⟩, hclean⟩

/-- A profile without errors stays one when its document is written unedited. -/
theorem Profile.clean_unedited (h : Unedited k raw written) {p : Profile} (hp : Profile.read? k raw = .ok p)
    (hclean : Clean (Check.findings c p)) :
    ∃ q, Profile.read? k written = .ok q ∧ Clean (Check.findings c q) := by
  cases k with
  | api => exact Codec.exists_clean (ApiProfile.clean_unedited h) hp hclean
  | pipeline => exact Codec.exists_clean (PipelineProfile.clean_unedited h) hp hclean
  | prompt => exact Codec.exists_clean (PromptProfile.clean_unedited h) hp hclean
  | parser => exact Codec.exists_clean (ParserProfile.clean_unedited h) hp hclean
  | policy => exact Codec.exists_clean (PolicyProfile.clean_unedited h) hp hclean
  | chunk => exact Codec.exists_clean (ChunkProfile.clean_unedited h) hp hclean

end

/-! ## Editors -/

namespace Editor

/-- A document without errors is opened in a new editor, and what the editor writes for its form unedited is
again a document of the kind without errors. The values that are edited as JSON text read back from it, and
so does the document from the text that is written. -/
theorem resave_clean {k : Kind} {c : Check.Context} {text : String} {raw : Mapping} {p : Profile} {delay : Nat}
    (hread : Document.readMapping text = .ok raw) (hp : Profile.ofMapping k raw = .ok p)
    (hok : (c.check p).isOk = true)
    (hjson : ∀ s ∈ (Layout.ofKind k).top, s.widget = .json → ∀ v ∈ raw.get? s.key, v.TextReadsBack)
    (hyaml : ∀ e, (new k delay).load text = .ok e → e.ReadsBack e.form) :
    ∃ e q, (new k delay).load text = .ok e ∧ Profile.parse k (e.writeDocument e.form).1 = .ok q ∧
      (c.check q).isOk = true := by
  have hload := load_new (k := k) hread delay
  obtain ⟨q, hq, hclean⟩ := Profile.clean_unedited
    (unedited_display (Document.wellFormed_of_readMapping hread) hjson delay text)
    (Profile.ofMapping_eq_ok_iff.1 hp) (Check.isOk_ofFindings.1 hok)
  refine ⟨_, q, hload, ?_, Check.isOk_ofFindings.2 hclean⟩
  exact Profile.parse_eq_ok_iff.2 ⟨_, hyaml _ hload, hq⟩

/-- A parser profile whose id is a number, with a blank name and a key that the form does not show. -/
def oddParser : String :=
  "id: 7\nname: ''\ntype: ' regex '\noptions:\n  pattern: (a+)\n  group: 1\nteam: red\n"

def oddParserFields : Mapping :=
  [("id", .number (.natural 7)), ("name", .string ""),
    ("options", .object [("group", .number (.natural 1)), ("pattern", .string "(a+)")]),
    ("team", .string "red"), ("type", .string " regex ")]

theorem resave_clean_oddParser :
    ∃ e q, (new .parser 500).load oddParser = .ok e ∧
      Profile.parse .parser (e.writeDocument e.form).1 = .ok q ∧
        ((Check.Context.mk .empty false).check q).isOk = true := by
  have hread : Document.readMapping oddParser = .ok oddParserFields := by decide +kernel
  have hp : Profile.ofMapping .parser oddParserFields =
      .ok (.parser (ParserProfile.codec.read oddParserFields)) := by decide +kernel
  have hok : ((Check.Context.mk .empty false).check
      (.parser (ParserProfile.codec.read oddParserFields))).isOk = true := by decide +kernel
  have hjson : ∀ s ∈ (Layout.ofKind .parser).top, s.widget = .json →
      ∀ v ∈ oddParserFields.get? s.key, v.TextReadsBack := by decide +kernel
  have hyaml : ∀ e, (new .parser 500).load oddParser = .ok e → e.ReadsBack e.form := by
    intro e he
    rw [load_new hread] at he
    obtain rfl := Except.ok.inj he
    decide +kernel
  exact resave_clean hread hp hok hjson hyaml

end Editor
end ProfileKit

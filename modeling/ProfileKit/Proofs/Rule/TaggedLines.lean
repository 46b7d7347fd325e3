import Mathlib.Data.List.Sort
import ProfileKit.Proofs.Rule.Cascade
import ProfileKit.Proofs.Table

/-!
# Tagged lines in order

A rule that sorts tagged lines gives the lines that it gives unsorted, those with a number first and by
increasing numbers; where the numbers do not decide, the lines keep the order they came in
(`StablySorted`). So if they do decide, the order of the lines in the text does not matter
(`ParserSpec.run_sorted`).
-/

namespace ProfileKit

/-! ## Sorting entries -/

/-- Entries of tagged lines in the order of their numbers. -/
structure StablySorted (es sorted : List (Option Nat × String)) : Prop where
  perm : sorted.Perm es
  /-- The entries without a number come last, as they came. -/
  numbered_first : ∃ numbered, (∀ e ∈ numbered, e.1.isSome = true) ∧
    sorted = numbered ++ es.filter fun e => e.1 = none
  increasing : (sorted.filterMap Prod.fst).Pairwise (· ≤ ·)
  /-- Entries with one number come as they came. -/
  ties (number : Nat) :
    (sorted.filter fun e => e.1 = some number) = es.filter fun e => e.1 = some number

section

variable {a b c : Option Nat × String} {es es' : List (Option Nat × String)}

theorem tagBefore_total (a b : Option Nat × String) : (tagBefore a b || tagBefore b a) = true := by
  obtain ⟨_ | m, s⟩ := a <;> obtain ⟨_ | n, t⟩ := b <;> simp [tagBefore, Nat.le_total]

theorem tagBefore_trans (a b c : Option Nat × String) (hab : tagBefore a b = true) (hbc : tagBefore b c = true) :
    tagBefore a c = true := by
  obtain ⟨_ | l, s⟩ := a <;> obtain ⟨_ | m, t⟩ := b <;> obtain ⟨_ | n, u⟩ := c <;> simp_all [tagBefore]
  exact Nat.le_trans hab hbc

theorem tagBefore_of_eq (h : a.1 = b.1) : tagBefore a b = true := by
  obtain ⟨_ | m, s⟩ := a <;> obtain ⟨_ | n, t⟩ := b <;> simp_all [tagBefore]

/-- Entries that may stand in either order have one number, or none. -/
theorem eq_of_tagBefore (hab : tagBefore a b = true) (hba : tagBefore b a = true) : a.1 = b.1 := by
  obtain ⟨_ | m, s⟩ := a <;> obtain ⟨_ | n, t⟩ := b <;> simp_all [tagBefore]
  exact Nat.le_antisymm hab hba

theorem pairwise_mergeSort_tagBefore (es : List (Option Nat × String)) :
    (es.mergeSort tagBefore).Pairwise fun a b => tagBefore a b = true :=
  List.pairwise_mergeSort tagBefore_trans tagBefore_total es

/-- Sorting keeps the order of the entries with one number, and of those without. They are sorted among
themselves, so they are found in the sorted list in their order, and there are no others of them in it. -/
theorem filter_mergeSort_tagBefore (es : List (Option Nat × String)) (key : Option Nat) :
    ((es.mergeSort tagBefore).filter fun e => e.1 = key) = es.filter fun e => e.1 = key := by
  have htied : (es.filter fun e => e.1 = key).Pairwise fun a b => tagBefore a b = true :=
    List.pairwise_of_forall_mem_list fun a ha b hb => by
      simp only [List.mem_filter, decide_eq_true_eq] at ha hb
      exact tagBefore_of_eq (ha.2.trans hb.2.symm)
  have hsublist : (es.filter fun e => e.1 = key).Sublist (es.mergeSort tagBefore) :=
    List.sublist_mergeSort tagBefore_trans tagBefore_total htied List.filter_sublist
  have hfilter := hsublist.filter fun e => decide (e.1 = key)
  rw [List.filter_filter] at hfilter
  simp only [Bool.and_self] at hfilter
  have hperm := (List.mergeSort_perm es tagBefore).filter fun e => decide (e.1 = key)
  exact (hfilter.eq_of_length hperm.length_eq.symm).symm

/-- In a sorted list nothing with a number stands behind an entry without one. -/
theorem eq_append_of_pairwise_tagBefore (h : es.Pairwise fun a b => tagBefore a b = true) :
    es = (es.filter fun e => e.1.isSome) ++ es.filter fun e => e.1 = none := by
  induction es with
  | nil => rfl
  | cons e rest ih =>
    obtain ⟨he, hrest⟩ := List.pairwise_cons.1 h
    obtain ⟨_ | n, s⟩ := e
    · -- behind an entry without a number there are only such entries
      have hnone : ∀ e ∈ rest, e.1 = none := fun e hmem => by
        have hbefore := he e hmem
        obtain ⟨_ | n, t⟩ := e
        · rfl
        · simp [tagBefore] at hbefore
      have hsome : (rest.filter fun e => e.1.isSome) = [] :=
        List.filter_eq_nil_iff.2 fun e hmem => by simp [hnone e hmem]
      have hall : (rest.filter fun e => e.1 = none) = rest :=
        List.filter_eq_self.2 fun e hmem => by simp [hnone e hmem]
      simp [hsome, hall]
    · simpa using ih hrest

theorem stablySorted_mergeSort (es : List (Option Nat × String)) :
    StablySorted es (es.mergeSort tagBefore) where
  perm := List.mergeSort_perm es tagBefore
  numbered_first := by
    refine ⟨(es.mergeSort tagBefore).filter fun e => e.1.isSome, by simp, ?_⟩
    rw [← filter_mergeSort_tagBefore es none]
    exact eq_append_of_pairwise_tagBefore (pairwise_mergeSort_tagBefore es)
  increasing := by
    rw [List.pairwise_filterMap]
    refine (pairwise_mergeSort_tagBefore es).imp fun {a b} hab m hm n hn => ?_
    simpa [tagBefore, hm, hn] using hab
  ties number := filter_mergeSort_tagBefore es (some number)

/-- Entries that differ in their numbers are sorted in one way only. -/
theorem mergeSort_tagBefore_eq_of_perm (hperm : es'.Perm es) (hnodup : (es.map Prod.fst).Nodup) :
    es'.mergeSort tagBefore = es.mergeSort tagBefore := by
  have hsorted : (es'.mergeSort tagBefore).Perm (es.mergeSort tagBefore) :=
    (List.mergeSort_perm es' tagBefore).trans (hperm.trans (List.mergeSort_perm es tagBefore).symm)
  refine List.Perm.eq_of_pairwise (fun a b ha hb hab hba => ?_) (pairwise_mergeSort_tagBefore es')
    (pairwise_mergeSort_tagBefore es) hsorted
  have ha' : a ∈ es := hperm.mem_iff.1 (List.mem_mergeSort.1 ha)
  exact List.inj_on_of_nodup_map hnodup ha' (List.mem_mergeSort.1 hb) (eq_of_tagBefore hab hba)

end

/-! ## Entries of a text -/

/-- What the lines of a text that match give, as they come: their numbers and what is taken out of them. -/
def taggedEntries (p : Pattern) (order : TagOrder) (text : String) : List (Option Nat × String) :=
  (Text.physicalLines text).filterMap (taggedText? p order)

section

variable {p : Pattern} {order : TagOrder} {text : String}

/-- What is taken out of a line does not depend on the order that is asked for. -/
theorem map_snd_taggedEntries (p : Pattern) (order : TagOrder) (text : String) :
    (taggedEntries p order text).map Prod.snd = (taggedEntries p .input text).map Prod.snd := by
  rw [taggedEntries, taggedEntries, List.map_filterMap, List.map_filterMap]
  refine List.filterMap_congr fun line _ => ?_
  cases h : p.captures? line <;> simp [taggedText?, h]

theorem taggedEntries_eq_nil_iff : taggedEntries p order text = [] ↔ taggedEntries p .input text = [] := by
  rw [← List.map_eq_nil_iff, map_snd_taggedEntries, List.map_eq_nil_iff]

theorem runTaggedLine_of_eq_nil (h : taggedEntries p order text = []) :
    runTaggedLine p order text = .error .noTaggedLines := by
  unfold taggedEntries at h
  simp [runTaggedLine, h]

theorem runTaggedLine_of_ne_nil (h : taggedEntries p order text ≠ []) :
    runTaggedLine p order text =
      .ok (.ofLines ((order.sort (taggedEntries p order text)).map Prod.snd)) := by
  unfold runTaggedLine
  split
  · rename_i hnil
    exact absurd hnil h
  · rfl

end

/-! ## Rules that sort -/

namespace ParserSpec

variable {spec : ParserSpec} {p : Pattern} {order : TagOrder}

/-- The specification asks for its lines to be sorted. -/
def SortsLines (spec : ParserSpec) : Prop :=
  RegexFlags.isSet spec.options "sort_by_id" = true ∨
    RegexFlags.isSet spec.options "sort_by_line_number" = true

instance (spec : ParserSpec) : Decidable spec.SortsLines :=
  inferInstanceAs (Decidable (_ ∨ _))

/-- The specification without sorting. -/
def unsorted (spec : ParserSpec) : ParserSpec :=
  { spec with
    options := Table.erase "sort_by_line_number" (Table.erase "sort_by_id" spec.options) }

/-- The pattern and the order of a rule for tagged lines. -/
def tagged? (spec : ParserSpec) : Option (Pattern × TagOrder) :=
  match Rule.ofSpec spec with
  | .ok (.basic (.taggedLine p order)) => some (p, order)
  | _ => none

theorem ofSpec_of_tagged? (h : spec.tagged? = some (p, order)) :
    Rule.ofSpec spec = .ok (.basic (.taggedLine p order)) := by
  unfold tagged? at h
  split at h
  · rename_i hspec
    simp only [Option.some.injEq, Prod.mk.injEq] at h
    rw [hspec, h.1, h.2]
  · cases h

/-- What the pattern and the order of a rule for tagged lines are compiled from. -/
structure CompilesTo (options : Mapping) (p : Pattern) (order : TagOrder) : Prop where
  order_eq : TagOrder.ofOptions options = order
  pattern : ∃ flags, RegexFlags.ofOptions options = .ok flags ∧
    Pattern.ofUser ((textOption options "pattern").getD defaultTagPattern) flags = .ok p

theorem ofOptions_taggedLine_iff {options : Mapping} :
    BasicRule.ofOptions options .taggedLine = .ok (.taggedLine p order) ↔ CompilesTo options p order := by
  unfold BasicRule.ofOptions
  constructor
  · intro h
    obtain ⟨flags, hflags, h⟩ := bind_eq_ok_iff.1 h
    obtain ⟨q, hpattern, h⟩ := bind_eq_ok_iff.1 h
    obtain ⟨rfl, horder⟩ := BasicRule.taggedLine.inj (Except.ok.inj h)
    exact ⟨horder, flags, hflags, hpattern⟩
  · rintro ⟨rfl, flags, hflags, hpattern⟩
    exact bind_eq_ok_iff.2 ⟨flags, hflags, bind_eq_ok_iff.2 ⟨p, hpattern, rfl⟩⟩

theorem ofSpec_eq_taggedLine_iff :
    Rule.ofSpec spec = .ok (.basic (.taggedLine p order)) ↔
      spec.type? = .ok .taggedLine ∧ CompilesTo spec.options p order := by
  by_cases hany : spec.type? = .ok .any
  · refine iff_of_false (fun h => ?_) fun h => by simp [hany] at h
    unfold Rule.ofSpec at h
    cases hentries : cascadeEntries spec.options <;>
      simp [hany, hentries, bind, Except.bind, pure, Except.pure] at h
  · rw [Rule.ofSpec_of_ne_any hany, BasicRule.ofSpec]
    cases ht : spec.type? with
    | error e => simp [bind, Except.bind, Except.map]
    | ok t =>
      have hmap : ((BasicRule.ofOptions spec.options t).map Rule.basic = .ok (.basic (.taggedLine p order))) ↔
          BasicRule.ofOptions spec.options t = .ok (.taggedLine p order) := by
        cases BasicRule.ofOptions spec.options t <;> simp [Except.map]
      simp only [bind, Except.bind, hmap, Except.ok.injEq]
      constructor
      · intro h
        obtain rfl := BasicRule.type_of_ofOptions h
        exact ⟨rfl, ofOptions_taggedLine_iff.1 h⟩
      · rintro ⟨rfl, h⟩
        exact ofOptions_taggedLine_iff.2 h

theorem get?_unsorted {key : String} (hid : "sort_by_id" ≠ key) (hline : "sort_by_line_number" ≠ key) :
    spec.unsorted.options.get? key = spec.options.get? key := by
  rw [unsorted, Table.get?_erase, if_neg hline, Table.get?_erase, if_neg hid]

/-- Without sorting a rule has the same pattern. -/
theorem ofSpec_unsorted (h : Rule.ofSpec spec = .ok (.basic (.taggedLine p order))) :
    Rule.ofSpec spec.unsorted = .ok (.basic (.taggedLine p .input)) := by
  rw [ofSpec_eq_taggedLine_iff] at h ⊢
  obtain ⟨htype, -, flags, hflags, hpattern⟩ := h
  have hsame : ∀ key ∈ ["flags", "multiline", "dotall", "ignorecase", "pattern"],
      spec.unsorted.options.get? key = spec.options.get? key := by
    intro key hkey
    exact get?_unsorted (by rintro rfl; simp at hkey) (by rintro rfl; simp at hkey)
  have hgone : ∀ key ∈ ["sort_by_id", "sort_by_line_number"], spec.unsorted.options.get? key = none := by
    simp [unsorted, Table.get?_erase]
  refine ⟨htype, ?_, flags, ?_, ?_⟩
  · simp [TagOrder.ofOptions, RegexFlags.isSet, hgone]
  · rw [← hflags]
    simp only [RegexFlags.ofOptions, RegexFlags.isSet]
    rw [hsame "flags" (by simp), hsame "multiline" (by simp), hsame "dotall" (by simp),
      hsame "ignorecase" (by simp)]
  · rw [textOption, hsame "pattern" (by simp)]
    exact hpattern

theorem order_ne_input (h : Rule.ofSpec spec = .ok (.basic (.taggedLine p order))) (hsorts : spec.SortsLines) :
    order ≠ .input := by
  rw [← (ofSpec_eq_taggedLine_iff.1 h).2.order_eq]
  unfold TagOrder.ofOptions
  rcases hsorts with hid | hline
  · rw [if_pos hid]
    decide
  · rw [if_pos hline]
    split <;> decide

theorem run_eq_runTaggedLine (h : Rule.ofSpec spec = .ok (.basic (.taggedLine p order)))
    (runner : Option ScriptRunner) (text : String) : spec.run runner text = runTaggedLine p order text := by
  rw [ParserSpec.run, h]
  rfl

/-- A rule that sorts gives the lines that it gives without sorting, in the order of their numbers. Texts of
the same lines in another order give the same, if no two of the lines that match have the same number or
both none. -/
theorem run_sorted (h : Rule.ofSpec spec = .ok (.basic (.taggedLine p order))) (hsorts : spec.SortsLines)
    (runner : Option ScriptRunner) (text : String) :
    (taggedEntries p order text = [] ∧ spec.unsorted.run runner text = .error .noTaggedLines ∧
        spec.run runner text = .error .noTaggedLines ∨
      ∃ sorted, StablySorted (taggedEntries p order text) sorted ∧
        spec.unsorted.run runner text = .ok (.ofLines ((taggedEntries p order text).map Prod.snd)) ∧
        spec.run runner text = .ok (.ofLines (sorted.map Prod.snd))) ∧
    (((taggedEntries p order text).map Prod.fst).Nodup → ∀ text',
      (Text.physicalLines text').Perm (Text.physicalLines text) →
      spec.run runner text' = spec.run runner text) := by
  have hsort : ∀ es, order.sort es = es.mergeSort tagBefore := fun es =>
    if_neg (order_ne_input h hsorts)
  simp only [run_eq_runTaggedLine h, run_eq_runTaggedLine (ofSpec_unsorted h)]
  refine ⟨?_, fun hnodup text' hperm => ?_⟩
  · by_cases hnil : taggedEntries p order text = []
    · exact .inl ⟨hnil, runTaggedLine_of_eq_nil (taggedEntries_eq_nil_iff.1 hnil),
        runTaggedLine_of_eq_nil hnil⟩
    · refine .inr ⟨_, stablySorted_mergeSort _, ?_, ?_⟩
      · rw [runTaggedLine_of_ne_nil fun hinput => hnil (taggedEntries_eq_nil_iff.2 hinput),
          map_snd_taggedEntries p order]
        rfl
      · rw [runTaggedLine_of_ne_nil hnil, hsort]
  · have hentries : (taggedEntries p order text').Perm (taggedEntries p order text) :=
      hperm.filterMap (taggedText? p order)
    by_cases hnil : taggedEntries p order text = []
    · rw [runTaggedLine_of_eq_nil hnil, runTaggedLine_of_eq_nil (hnil ▸ hentries).eq_nil]
    · have hnil' : taggedEntries p order text' ≠ [] := fun hempty =>
        hnil (hempty ▸ hentries).symm.eq_nil
      rw [runTaggedLine_of_ne_nil hnil, runTaggedLine_of_ne_nil hnil', hsort, hsort,
        mergeSort_tagBefore_eq_of_perm hentries hnodup]

def sortById : ParserSpec where
  type := some "tagged_line"
  options := [("pattern", .string "(?P<id>[0-9]?)(?P<text>[a-z])"), ("sort_by_id", .bool true)]

/-- Tagged lines of which one has no number, and a line without a tag. -/
def mixedTags : String := "2b\nc\n-\n1a"

theorem run_sorted_mixedTags :
    ∃ p, Rule.ofSpec sortById = .ok (.basic (.taggedLine p .id)) ∧ sortById.SortsLines ∧
      ((taggedEntries p .id mixedTags).map Prod.fst).Nodup ∧
      (∃ sorted, StablySorted (taggedEntries p .id mixedTags) sorted ∧
        sortById.unsorted.run none mixedTags =
          .ok (.ofLines ((taggedEntries p .id mixedTags).map Prod.snd)) ∧
        sortById.run none mixedTags = .ok (.ofLines (sorted.map Prod.snd))) ∧
      ∀ text', (Text.physicalLines text').Perm (Text.physicalLines mixedTags) →
        sortById.run none text' = sortById.run none mixedTags := by
  have htagged : (sortById.tagged?.map fun x =>
      (x.2, (taggedEntries x.1 x.2 mixedTags).map Prod.fst)) = some (.id, [some 2, none, some 1]) := by
    decide +kernel
  obtain ⟨⟨p, order⟩, hp, heq⟩ := Option.map_eq_some_iff.1 htagged
  obtain ⟨rfl, hkeys⟩ := Prod.mk.inj heq
  have hspec := ofSpec_of_tagged? hp
  have hsorts : sortById.SortsLines := by decide
  have hnodup : ((taggedEntries p .id mixedTags).map Prod.fst).Nodup := by
    rw [hkeys]
    decide
  obtain ⟨hlines, hsame⟩ := run_sorted hspec hsorts none mixedTags
  rcases hlines with ⟨hnil, -⟩ | hlines
  · simp [hnil] at hkeys
  · exact ⟨p, hspec, hsorts, hnodup, hlines, hsame hnodup⟩

end ParserSpec
end ProfileKit

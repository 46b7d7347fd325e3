import Mathlib.Data.List.DropRight
import Mathlib.Data.List.Forall2
import ProfileKit.Text.Blank
import ProfileKit.Text.Lines

/-!
# Lines of texts

Joining the lines of a text gives the text (`joinLines_splitLines`), and what stands between separators holds
none of them (`separator_of_mem_splitAt`). The physical lines of a text are the same whether its lines end in
line feeds or in carriage returns and line feeds (`physicalLines_withReturns`), and so are those that are left
when the final line ends are dropped first (`physicalLines_dropFinalBreaks_withReturns`). The latter are the
only lines that a text can be put together from when the line ends at its end are left out (`hasLines_iff`).
-/

namespace ProfileKit.Text

/-! ## Parts of a text -/

section

variable {separator : Char → Bool} {cs : List Char}

theorem splitAt_eq_splitOnP (separator : Char → Bool) (cs : List Char) :
    splitAt separator cs = cs.splitOnP separator := by
  induction cs with
  | nil => rfl
  | cons c cs ih =>
    rw [List.splitOnP_cons_eq_if_modifyHead, splitAt, ih]
    obtain ⟨part, parts, hparts⟩ := List.exists_cons_of_ne_nil (List.splitOnP_ne_nil separator cs)
    split
    · rfl
    · rw [hparts, List.modifyHead_cons]

theorem splitAt_ne_nil (separator : Char → Bool) (cs : List Char) : splitAt separator cs ≠ [] := by
  rw [splitAt_eq_splitOnP]
  exact List.splitOnP_ne_nil separator cs

theorem splitAt_eq_singleton (h : ∀ c ∈ cs, separator c = false) : splitAt separator cs = [cs] := by
  rw [splitAt_eq_splitOnP]
  exact List.splitOnP_eq_singleton h

theorem splitAt_append_cons {c : Char} (h : separator c = true) (cs ds : List Char) :
    splitAt separator (cs ++ c :: ds) = splitAt separator cs ++ splitAt separator ds := by
  simp only [splitAt_eq_splitOnP]
  exact List.splitOnP_append_cons cs ds h

/-- A part holds no separator. -/
theorem separator_of_mem_splitAt {part : List Char} (h : part ∈ splitAt separator cs) :
    ∀ c ∈ part, separator c = false := by
  induction cs generalizing part with
  | nil => simp_all [splitAt]
  | cons c cs ih =>
    obtain ⟨first, rest, hparts⟩ := List.exists_cons_of_ne_nil (splitAt_ne_nil separator cs)
    rw [splitAt, hparts] at h
    rw [hparts] at ih
    split at h
    · rcases List.mem_cons.1 h with rfl | h
      · simp
      · exact ih h
    · rename_i hc
      rcases List.mem_cons.1 h with rfl | h
      · intro d hd
        rcases List.mem_cons.1 hd with rfl | hd
        · simpa using hc
        · exact ih List.mem_cons_self d hd
      · exact ih (List.mem_cons_of_mem first h)

end

theorem splitAt_eq_splitOn (c : Char) (cs : List Char) : splitAt (· == c) cs = cs.splitOn c :=
  splitAt_eq_splitOnP _ cs

theorem splitAt_of_not_mem {c : Char} {cs : List Char} (h : c ∉ cs) : splitAt (· == c) cs = [cs] := by
  refine splitAt_eq_singleton fun d hd => ?_
  rw [beq_eq_false_iff_ne]
  rintro rfl
  exact h hd

/-- A text is in one part exactly if the separator does not occur in it. -/
theorem length_splitAt_le_one_iff {c : Char} {cs : List Char} : (splitAt (· == c) cs).length ≤ 1 ↔ c ∉ cs := by
  constructor
  · intro h
    obtain ⟨part, parts, hparts⟩ := List.exists_cons_of_ne_nil (splitAt_ne_nil (· == c) cs)
    obtain rfl : parts = [] := by
      rw [hparts, List.length_cons] at h
      exact List.eq_nil_of_length_eq_zero (by omega)
    have hwhole : part = cs := by
      have hjoin : [c].intercalate (cs.splitOn c) = cs := List.intercalate_splitOn c
      rwa [← splitAt_eq_splitOn, hparts, List.intercalate_singleton] at hjoin
    intro hc
    have hno := separator_of_mem_splitAt (hparts ▸ List.mem_cons_self) c (hwhole ▸ hc)
    simp at hno
  · intro h
    rw [splitAt_of_not_mem h]
    exact Nat.le_refl 1

/-! ## Splitting and joining -/

theorem joinLines_splitLines (s : String) : joinLines (splitLines s) = s := by
  have hparts : (splitLines s).map String.toList = s.toList.splitOn '\n' := by
    rw [splitLines, List.map_map, splitAt_eq_splitOn]
    exact (List.map_congr_left fun part _ => String.toList_ofList).trans (List.map_id _)
  rw [← String.toList_inj, joinLines, String.toList_intercalate, hparts]
  exact List.intercalate_splitOn '\n'

theorem splitLines_ne_nil (s : String) : splitLines s ≠ [] := fun h =>
  splitAt_ne_nil _ _ (List.map_eq_nil_iff.1 h)

/-- A text without line feeds is one line. -/
theorem splitLines_eq_singleton {s : String} (h : '\n' ∉ s.toList) : splitLines s = [s] := by
  rw [splitLines, splitAt_of_not_mem h, List.map_singleton, String.ofList_toList]

/-! ## Physical lines -/

theorem dropReturn_isPrefix_self (line : List Char) : dropReturn line <+: line := by
  unfold dropReturn
  split
  · exact List.dropLast_prefix line
  · exact List.prefix_refl line

theorem not_mem_physicalLine {s line : String} (h : line ∈ physicalLines s) : '\n' ∉ line.toList := by
  obtain ⟨part, hpart, rfl⟩ := List.mem_map.1 h
  intro hmem
  rw [String.toList_ofList] at hmem
  have hno := separator_of_mem_splitAt hpart '\n' ((dropReturn_isPrefix_self part).subset hmem)
  simp at hno

theorem length_physicalLines_le_one_iff {s : String} : (physicalLines s).length ≤ 1 ↔ '\n' ∉ s.toList := by
  rw [physicalLines, List.length_map]
  exact length_splitAt_le_one_iff

theorem toList_dropFinalBreaks (s : String) :
    (dropFinalBreaks s).toList = s.toList.rdropWhile fun c => c == '\n' || c == '\r' := by
  rw [dropFinalBreaks, String.toList_ofList]
  rfl

/-! ## Carriage returns -/

theorem dropReturn_of_not_mem {line : List Char} (h : '\r' ∉ line) : dropReturn line = line := by
  unfold dropReturn
  split
  · rename_i hlast
    exact absurd (List.mem_of_getLast? (by simpa using hlast)) h
  · rfl

theorem dropReturn_concat (line : List Char) : dropReturn (line ++ ['\r']) = line := by
  simp [dropReturn]

/-- Line feeds with carriage returns before them. -/
def returnChars (cs : List Char) : List Char := cs.flatMap fun c => if c = '\n' then ['\r', '\n'] else [c]

/-- The text with a carriage return before every line feed. -/
def withReturns (s : String) : String := String.ofList (returnChars s.toList)

/-- A line that has been read up to here, `line`, ends where it would end without carriage returns. -/
theorem map_dropReturn_splitAt_returnChars (line : List Char) {cs : List Char} (hfeed : '\n' ∉ line)
    (hline : '\r' ∉ line) (hcs : '\r' ∉ cs) :
    (splitAt (· == '\n') (line ++ returnChars cs)).map dropReturn =
      (splitAt (· == '\n') (line ++ cs)).map dropReturn := by
  induction cs generalizing line with
  | nil => rfl
  | cons c cs ih =>
    obtain ⟨hc, hrest⟩ := not_or.1 (mt List.mem_cons.2 hcs)
    by_cases hnl : c = '\n'
    · subst hnl
      have hreturns : line ++ returnChars ('\n' :: cs) = (line ++ ['\r']) ++ '\n' :: returnChars cs := by
        simp [returnChars]
      have hreturn : '\n' ∉ line ++ ['\r'] := by simp [hfeed]
      have hsplit (l ds : List Char) :
          splitAt (· == '\n') (l ++ '\n' :: ds) = splitAt (· == '\n') l ++ splitAt (· == '\n') ds :=
        splitAt_append_cons (by simp) l ds
      rw [hreturns, hsplit (line ++ ['\r']), hsplit line, splitAt_of_not_mem hreturn,
        splitAt_of_not_mem hfeed, List.map_append, List.map_append, List.map_singleton, List.map_singleton,
        dropReturn_concat, dropReturn_of_not_mem hline]
      exact congrArg _ (ih [] (by simp) (by simp) hrest)
    · have hnext : line ++ returnChars (c :: cs) = (line ++ [c]) ++ returnChars cs := by
        simp [returnChars, hnl]
      rw [hnext, ih (line ++ [c]) (by simp [hfeed, Ne.symm hnl]) (by simp [hline, hc]) hrest,
        List.append_assoc, List.singleton_append]

theorem physicalLines_withReturns {s : String} (h : '\r' ∉ s.toList) :
    physicalLines (withReturns s) = physicalLines s := by
  have hlines := map_dropReturn_splitAt_returnChars [] (by simp) (by simp) h
  rw [List.nil_append, List.nil_append] at hlines
  have hmap (parts : List (List Char)) :
      parts.map (fun line => String.ofList (dropReturn line)) = (parts.map dropReturn).map String.ofList :=
    (List.map_map (g := String.ofList)).symm
  rw [physicalLines, withReturns, String.toList_ofList, physicalLines, hmap, hmap, hlines]

/-- The final line ends are dropped with their carriage returns. -/
theorem rdropWhile_returnChars {cs : List Char} (h : '\r' ∉ cs) :
    (returnChars cs).rdropWhile (fun c => c == '\n' || c == '\r') =
      returnChars (cs.rdropWhile fun c => c == '\n' || c == '\r') := by
  induction cs using List.reverseRecOn with
  | nil => rfl
  | append_singleton cs c ih =>
    have hcs : '\r' ∉ cs := fun hmem => h (List.mem_append_left _ hmem)
    have hc : c ≠ '\r' := by
      rintro rfl
      simp at h
    have hconcat : returnChars (cs ++ [c]) = returnChars cs ++ returnChars [c] := List.flatMap_append
    rw [hconcat]
    by_cases hnl : c = '\n'
    · subst hnl
      rw [List.rdropWhile_concat_pos _ _ _ (by simp), ← ih hcs]
      have hreturn : returnChars cs ++ returnChars ['\n'] = (returnChars cs ++ ['\r']) ++ ['\n'] := by
        simp [returnChars]
      rw [hreturn, List.rdropWhile_concat_pos _ _ _ (by simp), List.rdropWhile_concat_pos _ _ _ (by simp)]
    · have hsame : returnChars [c] = [c] := by simp [returnChars, hnl]
      rw [hsame, List.rdropWhile_concat_neg _ _ _ (by simp [hnl, hc]),
        List.rdropWhile_concat_neg _ _ _ (by simp [hnl, hc]), hconcat, hsame]

theorem physicalLines_dropFinalBreaks_withReturns {s : String} (h : '\r' ∉ s.toList) :
    physicalLines (dropFinalBreaks (withReturns s)) = physicalLines (dropFinalBreaks s) := by
  have hdrop : dropFinalBreaks (withReturns s) = withReturns (dropFinalBreaks s) := by
    rw [← String.toList_inj, toList_dropFinalBreaks, withReturns, withReturns, String.toList_ofList,
      String.toList_ofList, toList_dropFinalBreaks]
    exact rdropWhile_returnChars h
  rw [hdrop]
  refine physicalLines_withReturns fun hmem => h ?_
  rw [toList_dropFinalBreaks] at hmem
  exact (List.rdropWhile_prefix _ _).subset hmem

/-! ## Lines that a text is put together from -/

/-- What stands between line feeds is this line, with a carriage return after it or without one; a line that
ends in a carriage return itself has another one after it. -/
inductive HoldsLine : List Char → String → Prop where
  | bare {line : String} (h : line.toList.getLast? ≠ some '\r') : HoldsLine line.toList line
  | returned (line : String) : HoldsLine (line.toList ++ ['\r']) line

/-- A text is the parts with line feeds between them, and line ends after the last part, which takes in none of
them. -/
structure TakenApart (cs : List Char) (parts : List (List Char)) (final : List Char) : Prop where
  append_eq : cs = ['\n'].intercalate parts ++ final
  ne_nil : parts ≠ []
  no_feed : ∀ part ∈ parts, '\n' ∉ part
  only_breaks : ∀ c ∈ final, c = '\n' ∨ c = '\r'
  no_break : ∀ c ∈ (['\n'].intercalate parts).getLast?, ¬ (c = '\n' ∨ c = '\r')

/-- The lines of a text; the line ends at its end make up none. -/
def HasLines (s : String) (lines : List String) : Prop :=
  ∃ parts final, TakenApart s.toList parts final ∧ parts.Forall₂ HoldsLine lines

theorem holdsLine_iff {part : List Char} {line : String} :
    HoldsLine part line ↔ String.ofList (dropReturn part) = line := by
  constructor
  · rintro (h | ⟨line⟩)
    · rw [dropReturn, if_neg (by simpa using h), String.ofList_toList]
    · rw [dropReturn_concat, String.ofList_toList]
  · rintro rfl
    by_cases hlast : part.getLast? = some '\r'
    · obtain ⟨line, rfl⟩ := List.getLast?_eq_some_iff.1 hlast
      have hreturned := HoldsLine.returned (String.ofList line)
      rw [dropReturn_concat]
      rwa [String.toList_ofList] at hreturned
    · have hbare : HoldsLine (String.ofList part).toList (String.ofList part) :=
        .bare (by rwa [String.toList_ofList])
      rw [dropReturn, if_neg (by simpa using hlast)]
      rwa [String.toList_ofList] at hbare

/-- There is one way to take a text apart. -/
theorem TakenApart.parts_eq {cs final : List Char} {parts : List (List Char)} (h : TakenApart cs parts final) :
    splitAt (· == '\n') (cs.rdropWhile fun c => c == '\n' || c == '\r') = parts := by
  have hbody : (['\n'].intercalate parts).rdropWhile (fun c => c == '\n' || c == '\r') =
      ['\n'].intercalate parts :=
    List.rdropWhile_eq_self_iff.2 fun hne => by
      simpa using h.no_break _ (List.getLast?_eq_some_getLast hne)
  have hdrop : cs.rdropWhile (fun c => c == '\n' || c == '\r') = ['\n'].intercalate parts := by
    rw [← hbody, h.append_eq, List.rdropWhile, List.reverse_append, List.dropWhile_append_of_pos]
    · rfl
    · intro c hc
      simpa using h.only_breaks c (List.mem_reverse.1 hc)
  rw [hdrop, splitAt_eq_splitOn]
  exact List.splitOn_intercalate '\n' h.no_feed h.ne_nil

theorem takenApart_splitAt (cs : List Char) :
    TakenApart cs (splitAt (· == '\n') (cs.rdropWhile fun c => c == '\n' || c == '\r'))
      (cs.rtakeWhile fun c => c == '\n' || c == '\r') where
  append_eq := by
    rw [splitAt_eq_splitOn, List.intercalate_splitOn, List.rdropWhile_append_rtakeWhile]
  ne_nil := splitAt_ne_nil _ _
  no_feed part hpart hfeed := by simpa using separator_of_mem_splitAt hpart '\n' hfeed
  only_breaks c hc := by simpa using List.mem_rtakeWhile_imp hc
  no_break c hc := by
    rw [splitAt_eq_splitOn, List.intercalate_splitOn] at hc
    obtain ⟨hne, rfl⟩ := List.mem_getLast?_eq_getLast hc
    simpa using List.rdropWhile_last_not _ _ hne

/-- A text has exactly one list of lines, which is what its splitting finds. -/
theorem hasLines_iff {s : String} {lines : List String} :
    HasLines s lines ↔ physicalLines (dropFinalBreaks s) = lines := by
  have hholds : HoldsLine = fun part line => String.ofList (dropReturn part) = line := by
    funext part line
    exact propext holdsLine_iff
  have hlines (parts : List (List Char)) :
      parts.Forall₂ HoldsLine lines ↔ (parts.map fun part => String.ofList (dropReturn part)) = lines := by
    rw [hholds, ← List.forall₂_eq_eq_eq, List.forall₂_map_left_iff]
  rw [physicalLines, toList_dropFinalBreaks, ← hlines]
  constructor
  · rintro ⟨parts, final, hparts, h⟩
    rwa [hparts.parts_eq]
  · exact fun h => ⟨_, _, takenApart_splitAt s.toList, h⟩

instance (s : String) (lines : List String) : Decidable (HasLines s lines) :=
  decidable_of_iff _ hasLines_iff.symm

end ProfileKit.Text

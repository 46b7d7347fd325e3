import ProfileKit.Pattern.GroupNames

/-!
# Respelling a text piece by piece

What respelling does to a text is decided by four signs only: an escape, the two brackets and an
opening parenthesis. A text free of them is passed through whether a class is open or not, a closing
bracket always leaves no class open, and an opening bracket opens one together with what belongs to
its opening.
-/

namespace ProfileKit.Pattern

/-- A sign that respelling looks at. -/
def isMark (c : Char) : Bool := c == '\\' || c == '[' || c == ']' || c == '('

/-- A text without any such sign. -/
def Unmarked (w : List Char) : Prop := ∀ c ∈ w, isMark c = false

instance (w : List Char) : Decidable (Unmarked w) := List.decidableBAll (fun c => isMark c = false) w

section

variable {b : Bool} {c : Char} {cs w r : List Char}

theorem isMark_eq_false_of {p : Char → Bool} (hp : ['\\', '[', ']', '('].any p = false) (h : p c = true) :
    isMark c = false := by
  rw [← Bool.not_eq_true]
  intro hmark
  have hmem : c ∈ ['\\', '[', ']', '('] := by simpa [isMark, or_assoc] using hmark
  exact List.any_eq_false.1 hp c hmem h

/-- A character respelling does not act on where it stands is kept. -/
theorem respell_cons_of_kept (hescape : c ≠ '\\') (hclose : b = true → c ≠ ']')
    (hopen : b = false → c ≠ '[') (hparen : b = false → c = '(' → ¬ ['?', 'P', '<'] <+: cs) :
    respell b (c :: cs) = c :: respell b cs :=
  respell.eq_8 b c cs (fun _ _ h _ => hescape h) (fun _ hb h _ => hopen hb h) (fun _ hb h _ => hopen hb h)
    (fun _ hb h _ => hopen hb h) hopen hclose fun more hb h hcs => hparen hb h ⟨more, hcs.symm⟩

theorem respell_cons (hc : isMark c = false) (b : Bool) (cs : List Char) :
    respell b (c :: cs) = c :: respell b cs := by
  simp only [isMark, Bool.or_eq_false_iff, beq_eq_false_iff_ne] at hc
  obtain ⟨⟨⟨hescape, hopen⟩, hclose⟩, hparen⟩ := hc
  exact respell_cons_of_kept hescape (fun _ => hclose) (fun _ => hopen) fun _ h => absurd h hparen

theorem respell_append (hw : Unmarked w) (b : Bool) (r : List Char) :
    respell b (w ++ r) = w ++ respell b r := by
  induction w with
  | nil => rfl
  | cons c w ih =>
    obtain ⟨hc, hw⟩ := List.forall_mem_cons.1 hw
    rw [List.cons_append, respell_cons hc, ih hw, List.cons_append]

theorem respell_escape (b : Bool) (c : Char) (cs : List Char) :
    respell b ('\\' :: c :: cs) = '\\' :: c :: respell b cs := by
  cases b <;> rfl

/-- While a class is open, only an escape and a closing bracket count. -/
theorem respell_true_cons (hescape : c ≠ '\\') (hclose : c ≠ ']') (cs : List Char) :
    respell true (c :: cs) = c :: respell true cs :=
  respell_cons_of_kept hescape (fun _ => hclose) nofun nofun

theorem respell_close (b : Bool) (cs : List Char) :
    respell b (']' :: cs) = ']' :: respell false cs := by
  cases b with
  | false => exact respell_cons_of_kept (by decide) nofun (by decide) fun _ h => absurd h (by decide)
  | true => rfl

theorem respell_opener (cs : List Char) :
    respell false ('(' :: '?' :: 'P' :: '<' :: cs) = '(' :: '?' :: '<' :: respell false cs := rfl

theorem respell_paren (h : ¬ ['?', 'P', '<'] <+: cs) :
    respell false ('(' :: cs) = '(' :: respell false cs :=
  respell_cons_of_kept (by decide) nofun (by decide) fun _ _ => h

theorem respell_open_close (cs : List Char) :
    respell false ('[' :: ']' :: cs) = '[' :: ']' :: respell true cs := rfl

theorem respell_open_caret_close (cs : List Char) :
    respell false ('[' :: '^' :: ']' :: cs) = '[' :: '^' :: ']' :: respell true cs := rfl

theorem respell_open (hclose : cs.head? ≠ some ']') (hcaret : ¬ ['^', ']'] <+: cs) :
    respell false ('[' :: cs) = '[' :: respell true cs := by
  by_cases h : cs.head? = some '^'
  · obtain ⟨more, rfl⟩ := List.head?_eq_some_iff.1 h
    rw [respell.eq_3 more (by rintro cs' rfl; exact hcaret ⟨cs', rfl⟩),
      respell_true_cons (by decide) (by decide)]
  · exact respell.eq_5 cs (by rintro more rfl; simp at h) (by rintro more rfl; simp at h)
      (by rintro more rfl; simp at hclose)

theorem head?_respell (b : Bool) (cs : List Char) : (respell b cs).head? = cs.head? := by
  fun_cases respell b cs <;> simp

@[simp] theorem respell_eq_nil_iff : respell b cs = [] ↔ cs = [] := by
  rw [← List.head?_eq_none_iff, head?_respell, List.head?_eq_none_iff]

/-- An opening bracket opens a class by itself where what follows belongs to its items. -/
theorem respell_open_of_head (b : Bool) (hhead : cs.head? = some c) (hclose : c ≠ ']') (hcaret : c ≠ '^') :
    respell b ('[' :: cs) = '[' :: respell true cs := by
  obtain ⟨more, rfl⟩ := List.head?_eq_some_iff.1 hhead
  cases b with
  | false =>
    refine respell_open (by simpa using hclose) ?_
    rintro ⟨more', h⟩
    exact hcaret (List.cons.inj h).1.symm
  | true => exact respell_true_cons (by decide) (by decide) _

/-- The second sign is kept, too. -/
theorem head?_tail_respell_open (b : Bool) (cs : List Char) :
    (respell b ('[' :: cs)).tail.head? = cs.head? := by
  cases b with
  | true => rw [respell_true_cons (by decide) (by decide), List.tail_cons, head?_respell]
  | false =>
    by_cases hclose : cs.head? = some ']'
    · obtain ⟨more, rfl⟩ := List.head?_eq_some_iff.1 hclose
      rw [respell_open_close]; rfl
    by_cases hcaret : ['^', ']'] <+: cs
    · obtain ⟨more, rfl⟩ := hcaret
      exact congrArg (fun cs => cs.tail.head?) (respell_open_caret_close more)
    · rw [respell_open hclose hcaret, List.tail_cons, head?_respell]

section TakeWhile

variable {p : Char → Bool} (hp : ∀ c, p c = true → isMark c = false)
include hp

theorem takeWhile_respell (b : Bool) (cs : List Char) : (respell b cs).takeWhile p = cs.takeWhile p := by
  induction cs with
  | nil => rfl
  | cons c cs ih =>
    by_cases hc : p c = true
    · rw [respell_cons (hp c hc), List.takeWhile_cons_of_pos hc, List.takeWhile_cons_of_pos hc, ih]
    · obtain ⟨more, hmore⟩ := List.head?_eq_some_iff.1 ((head?_respell b (c :: cs)).trans List.head?_cons)
      rw [hmore, List.takeWhile_cons_of_neg hc, List.takeWhile_cons_of_neg hc]

theorem dropWhile_respell (b : Bool) (cs : List Char) :
    (respell b cs).dropWhile p = respell b (cs.dropWhile p) := by
  induction cs with
  | nil => rfl
  | cons c cs ih =>
    by_cases hc : p c = true
    · rw [respell_cons (hp c hc), List.dropWhile_cons_of_pos hc, List.dropWhile_cons_of_pos hc, ih]
    · obtain ⟨more, hmore⟩ := List.head?_eq_some_iff.1 ((head?_respell b (c :: cs)).trans List.head?_cons)
      rw [hmore, List.dropWhile_cons_of_neg hc, List.dropWhile_cons_of_neg hc, hmore]

end TakeWhile

/-- What respelling leaves as it is stood there before. -/
theorem eq_append_of_respell_eq (hw : Unmarked w) (h : respell b cs = w ++ r) :
    ∃ more, cs = w ++ more ∧ r = respell b more := by
  induction w generalizing cs with
  | nil => exact ⟨cs, rfl, h.symm⟩
  | cons c w ih =>
    obtain ⟨hc, hw⟩ := List.forall_mem_cons.1 hw
    obtain ⟨cs', rfl⟩ : ∃ cs', cs = c :: cs' := by
      rw [← List.head?_eq_some_iff, ← head?_respell b, h, List.cons_append, List.head?_cons]
    rw [respell_cons hc, List.cons_append, List.cons.injEq] at h
    obtain ⟨more, rfl, hr⟩ := ih hw h.2
    exact ⟨more, rfl, hr⟩

theorem isPrefixOf_respell (hw : Unmarked w) (b : Bool) (cs : List Char) :
    w.isPrefixOf (respell b cs) = w.isPrefixOf cs := by
  rw [Bool.eq_iff_iff, List.isPrefixOf_iff_prefix, List.isPrefixOf_iff_prefix]
  constructor
  · rintro ⟨r, hr⟩
    obtain ⟨more, rfl, -⟩ := eq_append_of_respell_eq hw hr.symm
    exact ⟨more, rfl⟩
  · rintro ⟨more, rfl⟩
    exact ⟨_, (respell_append hw b more).symm⟩

end

end ProfileKit.Pattern

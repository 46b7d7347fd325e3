import Mathlib.Data.List.Sort
import ProfileKit.Pattern
import ProfileKit.Proofs.Pattern.Queries

/-!
# Patterns with their groups respelled

A pattern whose named groups are respelled means what it meant where respelling and the grammar agree
about which parentheses open groups. They disagree only about a class with another class in it, about
verbose mode, and about brackets in the name of a group.
-/

namespace ProfileKit.Unicode.CharSet

/-- Ranges are put in the same order by insertion, which can be computed inside a proof; merging cannot. -/
theorem mergeSort_ranges (ranges : List (Nat × Nat)) :
    (ranges.mergeSort fun x y => x.1 < y.1 || (x.1 == y.1 && y.2 ≤ x.2)) =
      ranges.insertionSort fun x y => x.1 < y.1 ∨ x.1 = y.1 ∧ y.2 ≤ x.2 := by
  let before (x y : Nat × Nat) : Prop := x.1 < y.1 ∨ x.1 = y.1 ∧ y.2 ≤ x.2
  have : Std.Total before := ⟨fun x y => by grind⟩
  have : IsTrans _ before := ⟨fun x y z => by grind⟩
  have : Std.Antisymm before := ⟨fun x y => by grind⟩
  rw [← List.mergeSort_eq_insertionSort before]
  congr
  funext x y
  simp [before, Bool.beq_eq_decide_eq]

end ProfileKit.Unicode.CharSet

namespace ProfileKit.Pattern

open Unicode (CharSet)

namespace Ast

mutual

theorem every_isKept : (a : Ast) → a.every isPlain = true → a.every asksPlainly = true →
    a.every isKept = true
  | .empty, _, _ | .literal _ _, _, _ | .dot, _, _ | .assertion _, _, _ => rfl
  | .flags items, hplain, hasks | .charClass c, hplain, hasks => by
    simp_all [every, isKept]
  | .group kind body, hplain, hasks | .repetition min max greedy body, hplain, hasks => by
    simp only [every, Bool.and_eq_true] at hplain hasks ⊢
    exact ⟨Bool.and_eq_true_iff.2 ⟨hplain.1, hasks.1⟩, every_isKept body hplain.2 hasks.2⟩
  | .alternation parts, hplain, hasks | .sequence parts, hplain, hasks => by
    simp only [every, Bool.and_eq_true] at hplain hasks ⊢
    exact ⟨Bool.and_eq_true_iff.2 ⟨hplain.1, hasks.1⟩, allEvery_isKept parts hplain.2 hasks.2⟩

theorem allEvery_isKept : (as : List Ast) → allEvery isPlain as = true → allEvery asksPlainly as = true →
    allEvery isKept as = true
  | [], _, _ => rfl
  | a :: as, hplain, hasks => by
    simp only [allEvery, Bool.and_eq_true] at hplain hasks ⊢
    exact ⟨every_isKept a hplain.1 hasks.1, allEvery_isKept as hplain.2 hasks.2⟩

end

theorem read?_eq_some_iff {cs : List Char} {a : Ast} :
    read? cs = some a ↔ ∃ s, Read.readBranches (3 * cs.length + 4) [] { rest := cs } = some (a, s) ∧
      s.rest = [] ∧ a.depth ≤ nestLimit := by
  unfold read?
  constructor
  · intro h
    obtain ⟨⟨b, s⟩, hread, h⟩ := Option.bind_eq_some_iff.1 h
    dsimp only at h
    split at h
    · rename_i hend
      cases h
      rw [Bool.and_eq_true, List.isEmpty_iff, decide_eq_true_eq] at hend
      exact ⟨s, hread, hend⟩
    · cases h
  · rintro ⟨s, hread, hend, hdepth⟩
    refine Option.bind_eq_some_iff.2 ⟨(a, s), hread, ?_⟩
    simp [hend, hdepth]

/-- The whole text of a pattern is read alike. -/
theorem read?_respell {cs : List Char} {a : Ast} (h : read? cs = some a) (ha : a.every isKept = true) :
    read? (respell false cs) = some a := by
  obtain ⟨s, hread, hend, hdepth⟩ := read?_eq_some_iff.1 h
  have hfollows := Read.readBranches_follows hread rfl ha (Nat.le_add_right _ 1)
  refine read?_eq_some_iff.2 ⟨_, hfollows.run, ?_, hdepth⟩
  rw [Reading.respelled, hend, respell]

end Ast

theorem compile?_eq_some_iff {options : Options} {source : String} {p : Pattern} :
    compile? options source = some p ↔ ∃ a e o, Ast.read? source.toList = some a ∧
      a.resolve options = some (e, o) ∧ e.codeLength ≤ programLimit ∧
        p = { source
              program := e.program
              groupCount := e.captures.foldl (fun n g => max n (g.1 + 1)) 1
              names := e.captures.filterMap fun (i, name) => name.map (·, i) } := by
  unfold compile?
  constructor
  · intro h
    obtain ⟨a, hread, h⟩ := Option.bind_eq_some_iff.1 h
    obtain ⟨⟨e, o⟩, hresolve, h⟩ := Option.bind_eq_some_iff.1 h
    obtain ⟨_, hlength, h⟩ := Option.bind_eq_some_iff.1 h
    cases h
    exact ⟨a, e, o, hread, hresolve, by simpa using hlength, rfl⟩
  · rintro ⟨a, e, o, hread, hresolve, hlength, rfl⟩
    simp [hread, hresolve, hlength]

/-- A class that names its signs one by one. -/
def ClassNode.ofSigns (signs : List Char) : ClassNode :=
  .bracketed false (.union (signs.map (.literal · false)))

theorem ClassNode.resolve_ofSigns (signs : List Char) :
    (ofSigns signs).resolve {} =
      some (signs.foldr (fun c s => (CharSet.single c.toNat).union s) .empty) := by
  have hall : resolveAll {} (signs.map (.literal · false)) =
      some (signs.foldr (fun c s => (CharSet.single c.toNat).union s) .empty) := by
    induction signs with
    | nil => rfl
    | cons c cs ih =>
      rw [List.map_cons, resolveAll, ih]
      rfl
  rw [ofSigns, resolve, resolve, hall]
  rfl

/-- What a pattern captures, by what it is read as and what that means. -/
theorem map_captures?_of_resolve {source text : String} {a : Ast} {e : Expr} {o : Options}
    {found : Option Captures} (hresolve : a.resolve {} = some (e, o))
    (hread : Ast.read? source.toList = some a) (hlength : e.codeLength ≤ programLimit)
    (hfound : captures?
      { source
        program := e.program
        groupCount := e.captures.foldl (fun n g => max n (g.1 + 1)) 1
        names := e.captures.filterMap fun (i, name) => name.map (·, i) } text = found) :
    (compile? {} source).map (·.captures? text) = some found := by
  rw [compile?_eq_some_iff.2 ⟨a, e, o, hread, hresolve, hlength, rfl⟩, Option.map_some, hfound]

/-- A pattern in which respelling finds the groups that the grammar finds: verbose mode stays off, no name
of a group has a bracket in it, and no class with another class in it has items that look like the opening
of a class or of a named group. -/
def respellsWell (source : String) : Bool := (Ast.read? source.toList).all (·.every Ast.isPlain)

/-- A pattern that compiles is read alike after respelling, and matches and captures the same. -/
theorem respellGroups_sameMatches {options : Options} {source : String} {p : Pattern}
    (hwell : respellsWell source = true) (hcompile : compile? options source = some p) :
    Ast.read? (respellGroups source).toList = Ast.read? source.toList ∧
      compile? options (respellGroups source) = some { p with source := respellGroups source } ∧
        ∀ text, { p with source := respellGroups source : Pattern }.captures? text = p.captures? text := by
  obtain ⟨a, e, o, hread, hresolve, hlength, rfl⟩ := compile?_eq_some_iff.1 hcompile
  have hplain : a.every Ast.isPlain = true := by simpa [respellsWell, hread] using hwell
  have hread' : Ast.read? (respellGroups source).toList = some a := by
    rw [respellGroups, String.toList_ofList]
    exact Ast.read?_respell hread (Ast.every_isKept a hplain (Ast.asksPlainly_of_resolve a hresolve))
  exact ⟨hread'.trans hread.symm,
    compile?_eq_some_iff.2 ⟨a, e, o, hread', hresolve, hlength, rfl⟩, fun _ => rfl⟩

theorem respellGroups_sameMatches_classes :
    respellsWell "(?P<o>[(?P<])\\(?P<(?P<r>[]b[c][:digit:]]+)" = true ∧
      (compile? {} (respellGroups "(?P<o>[(?P<])\\(?P<(?P<r>[]b[c][:digit:]]+)")).bind
        (·.captures? "-P(P<]c1-") = some [some "P(P<]c1", some "P", some "]c1"] := by
  have hwell : respellsWell "(?P<o>[(?P<])\\(?P<(?P<r>[]b[c][:digit:]]+)" = true := by decide +kernel
  have hsigns : (ClassNode.ofSigns ['(', '?', 'P', '<']).resolve {} =
      some ⟨#[(40, 40), (60, 60), (63, 63), (80, 80)]⟩ := by
    simp only [ClassNode.resolve_ofSigns, List.foldr, CharSet.union, CharSet.ofRanges,
      CharSet.mergeSort_ranges]
    decide +kernel
  have hitems : (ClassNode.bracketed false (.union [.literal ']' false, .literal 'b' false,
      .bracketed false (.literal 'c' false), .posix false "digit"])).resolve {} =
      some ⟨#[(48, 57), (93, 93), (98, 99)]⟩ := by
    simp only [ClassNode.resolve, ClassNode.resolveAll, posixSet, CharSet.union, CharSet.ofRanges,
      CharSet.mergeSort_ranges]
    decide +kernel
  have hresolve {c d : ClassNode} {s t : CharSet} (hc : c.resolve {} = some s)
      (hd : d.resolve {} = some t) :
      (Ast.sequence [.group (.capture 1 (some "o")) (.charClass c),
        .repetition 0 (some 1) true (.literal '(' false), .literal 'P' false, .literal '<' false,
        .group (.capture 2 (some "r")) (.repetition 1 none true (.charClass d))]).resolve {} =
      some (.sequence (.capture 1 (some "o") (.set s))
        (.sequence (.repetition 0 (some 1) true (.set (.single 40)))
          (.sequence (.set (.single 80)) (.sequence (.set (.single 60))
            (.capture 2 (some "r") (.repetition 1 none true (.set t)))))), {}) := by
    simp [Ast.resolve, Ast.resolveItems, literalExpr, foldSet, Expr.repeated, Expr.isEmptyOnly, hc, hd]
  have hcompile : compile? {} "(?P<o>[(?P<])\\(?P<(?P<r>[]b[c][:digit:]]+)" = some _ :=
    compile?_eq_some_iff.2
      ⟨_, _, _, by decide +kernel, hresolve hsigns hitems, by decide, rfl⟩
  obtain ⟨-, hrespelled, hsame⟩ := respellGroups_sameMatches hwell hcompile
  exact ⟨hwell, by rw [hrespelled, Option.bind_some, hsame]; decide +kernel⟩

/-- Each of the three makes respelling take a sign out of a class. -/
theorem respellGroups_dropsSign :
    (compile? {} "[[a](?P<]").map (·.captures? "P") = some (some [some "P"]) ∧
      (compile? {} (respellGroups "[[a](?P<]")).map (·.captures? "P") = some none ∧
    (compile? {} "(?x)[ ](?P<]").map (·.captures? "P") = some (some [some "P"]) ∧
      (compile? {} (respellGroups "(?x)[ ](?P<]")).map (·.captures? "P") = some none ∧
    (compile? {} "(?P<a[>x)[](?P<]").map (·.captures? "xP") = some (some [some "xP", some "x"]) ∧
      (compile? {} (respellGroups "(?P<a[>x)[](?P<]")).map (·.captures? "xP") = some none := by
  have hnested {signs : List Char} {s : CharSet}
      (hs : (ClassNode.ofSigns ('a' :: signs)).resolve {} = some s) :
      (Ast.charClass (.bracketed false (.union (.bracketed false (.literal 'a' false) ::
        signs.map (.literal · false))))).resolve {} = some (.set s, {}) := by
    rw [Ast.resolve]
    exact congrArg (Option.map _) hs
  have hverbose {c : ClassNode} {s : CharSet} (hc : c.resolve {} = some s) :
      (Ast.sequence [.flags [.flag .verbose], .charClass c]).resolve {} =
        some (.sequence .empty (.set s), {}) := by
    simp [Ast.resolve, Ast.resolveItems, Options.apply, Options.switch, hc]
  have hnamed {c : ClassNode} {s : CharSet} (hc : c.resolve {} = some s) :
      (Ast.sequence [.group (.capture 1 (some "a[")) (.literal 'x' false), .charClass c]).resolve {} =
        some (.sequence (.capture 1 (some "a[") (.set (.single 120))) (.set s), {}) := by
    simp [Ast.resolve, Ast.resolveItems, literalExpr, foldSet, hc]
  have hmixed : (ClassNode.ofSigns ['a', '(', '?', 'P', '<']).resolve {} =
        some ⟨#[(40, 40), (60, 60), (63, 63), (80, 80), (97, 97)]⟩ ∧
      (ClassNode.ofSigns ['a', '(', '?', '<']).resolve {} =
        some ⟨#[(40, 40), (60, 60), (63, 63), (97, 97)]⟩ := by
    simp only [ClassNode.resolve_ofSigns, List.foldr, CharSet.union, CharSet.ofRanges,
      CharSet.mergeSort_ranges]
    decide +kernel
  have hclosing : (ClassNode.ofSigns [']', '(', '?', 'P', '<']).resolve {} =
        some ⟨#[(40, 40), (60, 60), (63, 63), (80, 80), (93, 93)]⟩ ∧
      (ClassNode.ofSigns [']', '(', '?', '<']).resolve {} =
        some ⟨#[(40, 40), (60, 60), (63, 63), (93, 93)]⟩ := by
    simp only [ClassNode.resolve_ofSigns, List.foldr, CharSet.union, CharSet.ofRanges,
      CharSet.mergeSort_ranges]
    decide +kernel
  refine ⟨?_, ?_, ?_, ?_, ?_, ?_⟩
  · exact map_captures?_of_resolve (hnested hmixed.1) (by decide +kernel) (by decide) (by decide +kernel)
  · exact map_captures?_of_resolve (hnested hmixed.2) (by decide +kernel) (by decide) (by decide +kernel)
  · exact map_captures?_of_resolve (hverbose hclosing.1) (by decide +kernel) (by decide) (by decide +kernel)
  · exact map_captures?_of_resolve (hverbose hclosing.2) (by decide +kernel) (by decide) (by decide +kernel)
  · exact map_captures?_of_resolve (hnamed hclosing.1) (by decide +kernel) (by decide) (by decide +kernel)
  · exact map_captures?_of_resolve (hnamed hclosing.2) (by decide +kernel) (by decide) (by decide +kernel)

end ProfileKit.Pattern

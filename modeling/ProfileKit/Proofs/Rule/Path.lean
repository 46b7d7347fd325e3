import ProfileKit.Proofs.Text.Blank
import ProfileKit.Proofs.Text.Integer
import ProfileKit.Proofs.Text.Lines
import ProfileKit.Rule.Path

/-!
# Where paths lead

A path of two parts is followed one part after the other, every part of a value has a path, a path leads to
parts of the value only, and a failure names the first step that cannot be taken (`Json.resolve_laws`). What a
step means depends on the value it is taken in, so steps are related to values first (`Json.Takes`) and paths
then (`Json.Walks`).
-/

namespace ProfileKit.Json

/-! ## Steps -/

/-- The way from a value to one of its immediate parts: an item by its place, which is a word of 64 bits as no
array is longer, or the value of a key. -/
inductive Edge where
  | item (place : UInt64)
  | field (key : String)
deriving DecidableEq, Repr

namespace Edge

/-- How an edge is written in a path. -/
def text : Edge → String
  | .item place => toString place.toNat
  | .field key => key

/-- A key that can stand in a path. -/
def IsPlain : Edge → Prop
  | .item _ => True
  | .field key => key ≠ "" ∧ '.' ∉ key.toList

instance : (e : Edge) → Decidable e.IsPlain
  | .item _ => isTrue trivial
  | .field _ => inferInstanceAs (Decidable (_ ∧ _))

end Edge

/-- The part of a value behind an edge. -/
def part? (v : Json) : Edge → Option Json
  | .item place =>
    match v with
    | .array items => items[place.toNat]?
    | _ => none
  | .field key => v.get? key

/-- The node of a value that edges lead to. -/
def node? (v : Json) : List Edge → Option Json
  | [] => some v
  | e :: rest => (v.part? e).bind fun w => w.node? rest

/-- A step can be taken in a value, and this is where it leads. -/
inductive Takes : Json → String → Json → Prop where
  | field {fields : Mapping} {s : String} {w : Json} (h : fields.get? s = some w) : Takes (.object fields) s w
  /-- Blanks around the number of an item count for nothing, nor does a plus sign before it. -/
  | item {items : List Json} {s : String} {i : Nat} {w : Json}
      (hplace : Text.natural? (Text.trimChars s.toList) = some i) (h : items[i]? = some w) :
      Takes (.array items) s w

/-- Steps can be taken one after the other. -/
inductive Walks : Json → List String → Json → Prop where
  | here (v : Json) : Walks v [] v
  | step {v w u : Json} {s : String} {rest : List String} (h : v.Takes s w) (hrest : w.Walks rest u) :
      Walks v (s :: rest) u

/-- What is wrong with a step that cannot be taken in a value. -/
def missing : Json → String → RuleFailure
  | .array _, s => .listIndexInvalid s
  | _, s => .keyNotFound s

section

variable {v w : Json} {s : String}

theorem step_eq_ok_iff : v.step s = .ok w ↔ v.Takes s w := by
  constructor
  · intro h
    cases v with
    | object fields =>
      cases hget : Table.get? s fields with
      | none => simp [step, hget] at h
      | some u =>
        simp only [step, hget, Option.map_some, Option.getD_some, Except.ok.injEq] at h
        exact .field (h ▸ hget)
    | array items =>
      rw [step] at h
      split at h
      · rename_i u hitem
        obtain ⟨i, hplace, hi⟩ := Option.bind_eq_some_iff.1 hitem
        exact .item hplace (Except.ok.inj h ▸ hi)
      · cases h
    | _ => cases h
  · rintro (h | ⟨hplace, h⟩)
    · simp [step, h]
    · simp [step, hplace, h]

theorem step_eq_error_iff {e : RuleFailure} : v.step s = .error e ↔ (∀ w, ¬ v.Takes s w) ∧ e = v.missing s := by
  have hmissing : ∀ e, v.step s = .error e → e = v.missing s := by
    intro e h
    cases v with
    | object fields =>
      cases hget : Table.get? s fields with
      | none =>
        simp only [step, hget, Option.map_none, Option.getD_none, Except.error.injEq] at h
        exact h.symm
      | some u => simp [step, hget] at h
    | array items =>
      rw [step] at h
      split at h
      · cases h
      · exact (Except.error.inj h).symm
    | _ => exact (Except.error.inj h).symm
  constructor
  · intro h
    refine ⟨fun w hw => ?_, hmissing e h⟩
    rw [step_eq_ok_iff.2 hw] at h
    cases h
  · rintro ⟨hno, rfl⟩
    cases hstep : v.step s with
    | ok w => exact absurd (step_eq_ok_iff.1 hstep) (hno w)
    | error e => rw [hmissing e hstep]

/-- A step is an edge, which may be written in other ways too. -/
theorem Takes.exists_edge (h : v.Takes s w) : ∃ e, v.part? e = some w := by
  cases h with
  | field h => exact ⟨.field s, h⟩
  | @item items s i w hplace h =>
    have hword : (UInt64.ofNat i).toNat = i := UInt64.toNat_ofNat_of_lt (Text.lt_of_natural? hplace)
    exact ⟨.item (UInt64.ofNat i), by rw [part?, hword]; exact h⟩

theorem natural?_trimChars_toString {i : Nat} (h : i < 2 ^ 64) :
    Text.natural? (Text.trimChars (toString i).toList) = some i := by
  have hdigits : (toString i).toList = Nat.toDigits 10 i := Nat.toList_repr
  rw [hdigits, Text.trimChars_eq_self fun c hc => ?_, Text.natural?_toDigits h]
  have hc' := Binary64.isDigit_toDigits i c hc
  cases hblank : Text.isBlank c with
  | false => rfl
  | true => exact absurd (Text.isDigit_of_isBlank hblank) (by simp [hc'])

theorem takes_of_part? {e : Edge} (h : v.part? e = some w) : v.Takes e.text w := by
  cases e with
  | item place =>
    cases v with
    | array items => exact .item (natural?_trimChars_toString place.toNat_lt) h
    | _ => cases h
  | field key =>
    cases v with
    | object fields => exact .field h
    | _ => cases h

end

/-! ## Walks -/

theorem follow_eq_ok_iff {v w : Json} {steps : List String} : v.follow steps = .ok w ↔ v.Walks steps w := by
  induction steps generalizing v with
  | nil =>
    constructor
    · intro h
      cases h
      exact .here _
    · intro h
      cases h
      rfl
  | cons s rest ih =>
    rw [follow]
    constructor
    · intro h
      cases hstep : v.step s with
      | ok u =>
        rw [hstep] at h
        exact .step (step_eq_ok_iff.1 hstep) (ih.1 h)
      | error e =>
        rw [hstep] at h
        cases h
    · rintro (_ | ⟨hs, hrest⟩)
      rw [step_eq_ok_iff.2 hs]
      exact ih.2 hrest

/-- A walk fails at the first step that cannot be taken. -/
theorem exists_of_follow_eq_error {v : Json} {steps : List String} {e : RuleFailure}
    (h : v.follow steps = .error e) :
    ∃ before s after w, steps = before ++ s :: after ∧ v.Walks before w ∧ (∀ u, ¬ w.Takes s u) ∧
      e = w.missing s := by
  induction steps generalizing v with
  | nil => cases h
  | cons s rest ih =>
    rw [follow] at h
    cases hstep : v.step s with
    | ok w =>
      rw [hstep] at h
      obtain ⟨before, s', after, u, rfl, hwalk, hstuck⟩ := ih h
      exact ⟨s :: before, s', after, u, rfl, .step (step_eq_ok_iff.1 hstep) hwalk, hstuck⟩
    | error e' =>
      rw [hstep] at h
      cases h
      exact ⟨[], s, rest, v, rfl, .here _, step_eq_error_iff.1 hstep⟩

theorem Walks.exists_node {v w : Json} {steps : List String} (h : v.Walks steps w) :
    ∃ edges, v.node? edges = some w := by
  induction h with
  | here => exact ⟨[], rfl⟩
  | step hs _ ih =>
    obtain ⟨e, he⟩ := hs.exists_edge
    obtain ⟨edges, hedges⟩ := ih
    refine ⟨e :: edges, ?_⟩
    rw [node?, he]
    exact hedges

theorem walks_of_node? {v w : Json} {edges : List Edge} (h : v.node? edges = some w) :
    v.Walks (edges.map Edge.text) w := by
  induction edges generalizing v with
  | nil =>
    cases h
    exact .here _
  | cons e rest ih =>
    obtain ⟨u, hu, hrest⟩ := Option.bind_eq_some_iff.1 h
    exact .step (takes_of_part? hu) (ih hrest)

/-! ## Paths -/

theorem pathSteps_append (p q : String) : pathSteps (p ++ "." ++ q) = pathSteps p ++ pathSteps q := by
  have hcs : (p ++ "." ++ q).toList = p.toList ++ '.' :: q.toList := by simp
  rw [pathSteps, hcs, Text.splitAt_append_cons (by rfl), List.filter_append, List.map_append]
  rfl

/-- Steps that are not empty and hold no point are found again in the path that they make up. -/
theorem pathSteps_intercalate {steps : List String} (h : ∀ s ∈ steps, s ≠ "" ∧ '.' ∉ s.toList) :
    pathSteps (".".intercalate steps) = steps := by
  induction steps with
  | nil => rfl
  | cons s rest ih =>
    obtain ⟨⟨hne, hpoint⟩, hrest⟩ := List.forall_mem_cons.1 h
    have hone : pathSteps s = [s] := by
      simp [pathSteps, Text.splitAt_of_not_mem hpoint, hne]
    cases rest with
    | nil => rw [String.intercalate_singleton, hone]
    | cons s' rest => rw [String.intercalate_cons_cons, pathSteps_append, hone, ih hrest, List.singleton_append]

theorem Edge.text_plain {e : Edge} (h : e.IsPlain) : e.text ≠ "" ∧ '.' ∉ e.text.toList := by
  cases e with
  | field key => exact h
  | item place =>
    have hdigits : (Edge.item place).text.toList = Nat.toDigits 10 place.toNat := Nat.toList_repr
    refine ⟨fun hempty => ?_, fun hpoint => ?_⟩
    · rw [hempty] at hdigits
      exact Nat.toDigits_ne_nil hdigits.symm
    · rw [hdigits] at hpoint
      exact absurd (Binary64.isDigit_toDigits _ _ hpoint) (by decide)

/-- The laws of paths: a path of two parts is followed one part after the other, and fails if the first one
does; the path that writes out the edges to a node leads to it; what a path leads to is a node; and a path that
fails does so at the first step that cannot be taken, which the failure names. -/
theorem resolve_laws (root : Json) :
    (∀ p q, root.resolve (p ++ "." ++ q) = (root.resolve p).bind fun v => v.resolve q) ∧
    (∀ edges v, root.node? edges = some v → (∀ e ∈ edges, e.IsPlain) →
      root.resolve (".".intercalate (edges.map Edge.text)) = .ok v) ∧
    (∀ path v, root.resolve path = .ok v →
      root.Walks (pathSteps path) v ∧ ∃ edges, root.node? edges = some v) ∧
    ∀ path failure, root.resolve path = .error failure → ∃ before s after w,
      pathSteps path = before ++ s :: after ∧ root.Walks before w ∧ (∀ v, ¬ w.Takes s v) ∧
        failure = w.missing s := by
  refine ⟨fun p q => ?_, fun edges v hnode hplain => ?_, fun path v h => ?_, fun path failure h => ?_⟩
  · rw [resolve, pathSteps_append, follow_append]
    rfl
  · have hsteps : pathSteps (".".intercalate (edges.map Edge.text)) = edges.map Edge.text :=
      pathSteps_intercalate (List.forall_mem_map.2 fun e he => Edge.text_plain (hplain e he))
    rw [resolve, hsteps]
    exact follow_eq_ok_iff.2 (walks_of_node? hnode)
  · have hwalk := follow_eq_ok_iff.1 h
    exact ⟨hwalk, hwalk.exists_node⟩
  · exact exists_of_follow_eq_error h

/-- Objects in arrays in an object; one key is a number. -/
def nested : Json :=
  .object [("a", .array [.null, .object [("0", .string "x")]]), ("b", .bool true)]

theorem resolve_laws_nested :
    nested.resolve "a.1.0" = .ok (.string "x") ∧ nested.Walks ["a", " +1", "0"] (.string "x") ∧
      ∃ before s after w, pathSteps "a..1.c.d" = before ++ s :: after ∧ nested.Walks before w ∧
        (∀ v, ¬ w.Takes s v) ∧ RuleFailure.keyNotFound "c" = w.missing s :=
  ⟨(resolve_laws nested).2.1 [.field "a", .item 1, .field "0"] (.string "x") (by decide +kernel)
      (by decide +kernel),
    ((resolve_laws nested).2.2.1 "a. +1.0" (.string "x") (by decide +kernel)).1,
    (resolve_laws nested).2.2.2 "a..1.c.d" (.keyNotFound "c") (by decide +kernel)⟩

end ProfileKit.Json

import ProfileKit.Pattern.Reader
import ProfileKit.Proofs.Pattern.Respelling
import Mathlib.Data.List.Basic

/-!
# Reading a respelled text

A reader follows a run over a text when, started on the text as it is respelled, it reads the same and
leaves what the run leaves, respelled. Outside verbose mode every step that moves over a sign respelling
does not look at is followed, so the readers built from such steps are.
-/

namespace ProfileKit.Pattern

/-- The same point of reading in a text that is respelled from there on. -/
def Reading.respelled (b : Bool) (s : Reading) : Reading := { s with rest := respell b s.rest }

/-- The point one character further. -/
def Reading.next (s : Reading) : Reading := { s with rest := s.rest.drop 1 }

theorem head?_respelled {b : Bool} {s : Reading} : (s.respelled b).rest.head? = s.rest.head? :=
  head?_respell b s.rest

namespace Read

variable {α β : Type} {s t u : Reading} {b b' b'' : Bool}

section Running

variable (s)

theorem bind_apply (f : Read α) (g : α → Read β) :
    (f >>= g) s = (f s).bind fun p => g p.1 p.2 := rfl

theorem pure_apply (x : α) : (pure x : Read α) s = some (x, s) := rfl

theorem rest_apply : rest s = some (s.rest, s) := rfl

theorem peek_apply : peek s = some (s.rest.head?, s) := rfl

theorem bump_apply : bump s = some ((), s.next) := rfl

theorem setRest_apply (cs : List Char) : setRest cs s = some ((), { s with rest := cs }) := rfl

variable {s}

theorem skipSpace_apply (hs : s.verbose = false) : skipSpace s = some ((), s) := by
  simp [skipSpace, bind_apply, pure_apply, get, getThe, MonadStateOf.get, StateT.get, hs]

theorem peekAfter_apply (hs : s.verbose = false) :
    peekAfter s = some ((s.rest.drop 1).head?, s) := by
  simp [peekAfter, bind_apply, pure_apply, get, getThe, MonadStateOf.get, StateT.get, hs]

theorem bumpOn_apply (hs : s.verbose = false) :
    bumpOn s = if s.next.rest = [] then none else some ((), s.next) := by
  have hskip : skipSpace s.next = some ((), s.next) :=
    skipSpace_apply hs
  simp only [bumpOn, bind_apply, bump_apply, Option.bind_some, hskip, rest_apply, List.isEmpty_iff]
  split <;> rfl

theorem exists_of_bind {f : Read α} {g : α → Read β} {y : β} (h : (f >>= g) s = some (y, u)) :
    ∃ x t, f s = some (x, t) ∧ g x t = some (y, u) := by
  obtain ⟨⟨x, t⟩, hf, hg⟩ := Option.bind_eq_some_iff.1 h
  exact ⟨x, t, hf, hg⟩

theorem eq_of_pure {x y : α} (h : (pure x : Read α) s = some (y, t)) : y = x ∧ t = s := by
  rw [pure_apply, Option.some.injEq, Prod.mk.injEq] at h
  exact ⟨h.1.symm, h.2.symm⟩

end Running

/-- The reader `f` follows a run that read `x` from `s` to `t`. -/
structure Follows (b : Bool) (f : Read α) (s : Reading) (x : α) (b' : Bool) (t : Reading) : Prop where
  run : f (s.respelled b) = some (x, t.respelled b')
  verbose : t.verbose = false
  suffix : respell b' t.rest <:+ respell b s.rest

namespace Follows

theorem bind {f : Read α} {g : α → Read β} {x : α} {y : β} (hf : Follows b f s x b' t)
    (hg : t.verbose = false → Follows b' (g x) t y b'' u) : Follows b (f >>= g) s y b'' u :=
  have hg := hg hf.verbose
  { run := by rw [bind_apply, hf.run]; exact hg.run
    verbose := hg.verbose
    suffix := hg.suffix.trans hf.suffix }

theorem length_le {f : Read α} {x : α} (h : Follows b f s x b' t) :
    (t.respelled b').rest.length ≤ (s.respelled b).rest.length := h.suffix.length_le

end Follows

/-- The reader `f` follows a run and takes something of the respelled text. -/
structure Advances (b : Bool) (f : Read α) (s : Reading) (x : α) (b' : Bool) (t : Reading) : Prop
    extends Follows b f s x b' t where
  advance : (t.respelled b').rest.length < (s.respelled b).rest.length

namespace Advances

theorem bind {f : Read α} {g : α → Read β} {x : α} {y : β} (hf : Advances b f s x b' t)
    (hg : t.verbose = false → Follows b' (g x) t y b'' u) : Advances b (f >>= g) s y b'' u where
  toFollows := hf.toFollows.bind hg
  advance := Nat.lt_of_le_of_lt (hg hf.verbose).length_le hf.advance

end Advances

theorem Follows.bind_advances {f : Read α} {g : α → Read β} {x : α} {y : β} (hf : Follows b f s x b' t)
    (hg : Advances b' (g x) t y b'' u) : Advances b (f >>= g) s y b'' u where
  toFollows := hf.bind fun _ => hg.toFollows
  advance := Nat.lt_of_lt_of_le hg.advance hf.length_le

section Steps

variable {x : α} {y : β} {c : Char}

theorem rest_next {cs : List Char} (hrest : s.rest = c :: cs) : s.next.rest = cs := by
  rw [Reading.next, hrest, List.drop_one, List.tail_cons]

/-- A sign that respelling does not look at stays where it stands. -/
theorem rest_respelled (hhead : s.rest.head? = some c) (hc : isMark c = false) :
    (s.respelled b).rest = c :: (s.next.respelled b).rest := by
  obtain ⟨cs, hrest⟩ := List.head?_eq_some_iff.1 hhead
  rw [Reading.respelled, hrest, respell_cons hc, Reading.respelled, rest_next hrest]

theorem next_respelled (hrest : (s.respelled b).rest = c :: (s.next.respelled b').rest) :
    (s.respelled b).next = s.next.respelled b' := by
  rw [Reading.next, hrest]; rfl

/-- Moving over a sign that stays where it stands. -/
theorem advances_bump (hrest : (s.respelled b).rest = c :: (s.next.respelled b').rest)
    (hs : s.verbose = false) : Advances b bump s () b' s.next where
  run := by rw [bump_apply, next_respelled hrest]
  verbose := hs
  suffix := ⟨[c], hrest.symm⟩
  advance := by rw [hrest]; exact Nat.lt_succ_self _

theorem advances_bumpOn (hrest : (s.respelled b).rest = c :: (s.next.respelled b').rest)
    (hs : s.verbose = false) (hmore : s.next.rest ≠ []) : Advances b bumpOn s () b' s.next where
  run := by
    rw [bumpOn_apply (by exact hs), next_respelled hrest, if_neg (by simpa [Reading.respelled] using hmore)]
  verbose := hs
  suffix := ⟨[c], hrest.symm⟩
  advance := by rw [hrest]; exact Nat.lt_succ_self _

theorem follows_pure {x' : α} (h : (pure x : Read α) s = some (x', t)) (hs : s.verbose = false) :
    Follows b (pure x) s x' b t := by
  obtain ⟨rfl, rfl⟩ := eq_of_pure h
  exact ⟨rfl, hs, List.suffix_rfl⟩

variable {f g : Read β} {k k' : Option Char → Read β} {l l' : List Char → Read β}

theorem follows_ite {p : Prop} [Decidable p] {f' g' : Read β} (h : (if p then f else g) s = some (y, u))
    (hf : p → f s = some (y, u) → Follows b f' s y b' u)
    (hg : ¬ p → g s = some (y, u) → Follows b g' s y b' u) :
    Follows b (if p then f' else g') s y b' u := by
  by_cases hp : p
  · rw [if_pos hp] at h ⊢; exact hf hp h
  · rw [if_neg hp] at h ⊢; exact hg hp h

theorem follows_rest_bind (h : (rest >>= l) s = some (y, u))
    (hg : l s.rest s = some (y, u) → Follows b (l' (s.respelled b).rest) s y b' u) :
    Follows b (rest >>= l') s y b' u :=
  ⟨(hg h).run, (hg h).verbose, (hg h).suffix⟩

theorem follows_skipSpace_bind (h : (skipSpace >>= fun _ => f) s = some (y, u)) (hs : s.verbose = false)
    (hg : f s = some (y, u) → Follows b g s y b' u) : Follows b (skipSpace >>= fun _ => g) s y b' u := by
  obtain ⟨_, t, hskip, h⟩ := exists_of_bind h
  rw [skipSpace_apply hs, Option.some.injEq, Prod.mk.injEq] at hskip
  obtain ⟨-, rfl⟩ := hskip
  have hfollows : Follows b skipSpace s () b s := ⟨skipSpace_apply hs, hs, List.suffix_rfl⟩
  exact hfollows.bind fun _ => hg h

theorem follows_peek_bind (h : (peek >>= k) s = some (y, u)) (hs : s.verbose = false)
    (hg : k s.rest.head? s = some (y, u) → Follows b (k' s.rest.head?) s y b' u) :
    Follows b (peek >>= k') s y b' u := by
  have hfollows : Follows b peek s s.rest.head? b s :=
    ⟨by rw [peek_apply, Reading.respelled, head?_respell], hs, List.suffix_rfl⟩
  exact hfollows.bind fun _ => hg h

theorem follows_bump_bind (h : (bump >>= fun _ => f) s = some (y, u)) (hs : s.verbose = false)
    (hhead : s.rest.head? = some c) (hc : isMark c = false)
    (hg : f s.next = some (y, u) → Follows b g s.next y b' u) :
    Follows b (bump >>= fun _ => g) s y b' u :=
  (advances_bump (rest_respelled hhead hc) hs).toFollows.bind fun _ => hg h

theorem next_of_bumpOn {x : Unit} (h : bumpOn s = some (x, t)) (hs : s.verbose = false) :
    s.next.rest ≠ [] ∧ t = s.next := by
  rw [bumpOn_apply hs] at h
  split at h
  · cases h
  · rename_i hmore
    cases h
    exact ⟨hmore, rfl⟩

theorem follows_bumpOn_bind (h : (bumpOn >>= fun _ => f) s = some (y, u)) (hs : s.verbose = false)
    (hhead : s.rest.head? = some c) (hc : isMark c = false)
    (hg : s.next.rest ≠ [] → f s.next = some (y, u) → Follows b g s.next y b' u) :
    Follows b (bumpOn >>= fun _ => g) s y b' u := by
  obtain ⟨_, t, hbump, h⟩ := exists_of_bind h
  obtain ⟨hmore, rfl⟩ := next_of_bumpOn hbump hs
  exact (advances_bumpOn (rest_respelled hhead hc) hs hmore).toFollows.bind fun _ => hg hmore h

end Steps

section TakeWhile

/-! A reader that takes characters as long as they meet a condition. -/

variable {take : Nat → List Char → Read (List Char)} {p : Char → Bool}
  (hzero : ∀ acc, take 0 acc = pure acc.reverse)
  (hsucc : ∀ n acc, take (n + 1) acc = peek >>= fun o =>
    match o with
    | some c => if p c = true then bump >>= fun _ => skipSpace >>= fun _ => take n (c :: acc)
      else pure acc.reverse
    | none => pure acc.reverse)
include hzero hsucc

theorem takeWhile_apply (acc : List Char) {fuel : Nat} {cs : List Char} (hs : s.verbose = false)
    (hfuel : cs.length ≤ fuel) :
    take fuel acc { s with rest := cs } =
      some (acc.reverse ++ cs.takeWhile p, { s with rest := cs.dropWhile p }) := by
  induction cs generalizing fuel acc with
  | nil => cases fuel <;> simp [hzero, hsucc, bind_apply, peek_apply, pure_apply]
  | cons c cs ih =>
    obtain ⟨fuel, rfl⟩ : ∃ n, fuel = n + 1 := ⟨fuel - 1, by rw [List.length_cons] at hfuel; omega⟩
    rw [hsucc, bind_apply, peek_apply, Option.bind_some]
    by_cases hc : p c = true
    · have hskip : skipSpace { s with rest := cs } = some ((), { s with rest := cs }) := skipSpace_apply hs
      simp [hc, bind_apply, bump_apply, Reading.next, hskip, ih _ (Nat.le_of_succ_le_succ hfuel)]
    · simp [hc, pure_apply]

theorem takeWhile_follows (hp : ∀ c, p c = true → isMark c = false) {fuel m : Nat} {w : List Char}
    (h : take fuel [] s = some (w, t)) (hs : s.verbose = false) (hfuel : s.rest.length ≤ fuel)
    (hm : (s.respelled b).rest.length ≤ m) : Follows b (take m []) s w b t := by
  have hrun : take fuel [] s = _ := takeWhile_apply hzero hsucc [] hs hfuel
  obtain ⟨rfl, rfl⟩ := Prod.mk.inj (Option.some.inj (h.symm.trans hrun))
  refine ⟨?_, hs, ?_⟩
  · have hrun' : take m [] (s.respelled b) = _ := takeWhile_apply hzero hsucc [] hs hm
    rw [hrun', Reading.respelled, takeWhile_respell hp, dropWhile_respell hp]
  · rw [← dropWhile_respell hp]; exact List.dropWhile_suffix p

end TakeWhile

end Read
end ProfileKit.Pattern

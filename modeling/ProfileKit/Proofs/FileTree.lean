import Mathlib.Data.List.Nodup
import ProfileKit.FileTree
import ProfileKit.Proofs.Table
import ProfileKit.Proofs.Text.Lines

/-!
# Walks in file trees

A walk that comes to a directory is not disturbed by files that come and go (`FileTree.Leads.of_keepsWays`),
and goes on from there to what stands in the directory (`FileTree.Leads.walk_found`, `walk_free` and
`walk_missing`), however it got there. What is in a directory is looked up under the path that the walk came to.
Names with an extension are taken apart as they were put together (`FilePath.splitExtension_append`).
-/

namespace ProfileKit

/-! ## Texts as bytes -/

theorem toList_loop (bytes : ByteArray) (i : Nat) (before : List UInt8) :
    ByteArray.toList.loop bytes i before = before.reverse ++ bytes.data.toList.drop i := by
  induction hn : bytes.size - i generalizing i before with
  | zero =>
    have hsize : bytes.data.toList.length ≤ i := by
      rw [Array.length_toList]
      exact Nat.le_of_sub_eq_zero hn
    rw [ByteArray.toList.loop, if_neg (by omega), List.drop_eq_nil_of_le hsize, List.append_nil]
  | succ n ih =>
    have hi : i < bytes.data.toList.length := by
      rw [Array.length_toList]
      change i < bytes.size
      omega
    have hget : bytes.get! i = bytes.data.toList[i] := by
      rw [Array.getElem_toList]
      exact getElem!_pos bytes.data i _
    rw [ByteArray.toList.loop, if_pos (by omega), ih _ _ (by omega), hget, List.drop_eq_getElem_cons hi,
      List.reverse_cons, List.append_assoc, List.singleton_append]

/-- A text is read back from its bytes. -/
theorem fromUTF8?_toUTF8 (text : String) :
    String.fromUTF8? ⟨text.toUTF8.toList.toArray⟩ = some text := by
  have hbytes : (⟨text.toUTF8.toList.toArray⟩ : ByteArray) = text.toByteArray := by
    rw [ByteArray.toList, toList_loop]
    rfl
  rw [hbytes, String.fromUTF8?, dif_pos text.isValidUTF8]
  rfl

/-! ## Paths -/

namespace FilePath

/-- A name without slashes is a path of one part. -/
theorem parts_eq_singleton {name : String} (hslash : '/' ∉ name.toList) (hempty : name ≠ "")
    (hhere : name ≠ ".") : parts name = [name] := by
  have hsplit : Text.splitAt (· == '/') name.toList = [name.toList] := Text.splitAt_of_not_mem hslash
  simp [parts, hsplit, hempty, hhere]

/-- An extension without points is split off as it was put on. -/
theorem splitExtension_append {stem extension : String} (hstem : stem ≠ "")
    (hpoint : '.' ∉ extension.toList) : splitExtension (stem ++ "." ++ extension) = (stem, some extension) := by
  have hcs : (stem ++ "." ++ extension).toList = stem.toList ++ '.' :: extension.toList := by
    simp
  have hafter :
      ((stem.toList ++ '.' :: extension.toList).reverse.takeWhile (· ≠ '.')).reverse = extension.toList := by
    rw [List.reverse_append, List.reverse_cons, List.append_assoc, List.singleton_append,
      List.takeWhile_append_of_pos, List.takeWhile_cons_of_neg (by simp), List.append_nil, List.reverse_reverse]
    intro c hc
    rw [decide_eq_true_eq]
    rintro rfl
    exact hpoint (List.mem_reverse.1 hc)
  have hlength : 0 < stem.toList.length := by
    rw [List.length_pos_iff]
    simpa using hstem
  have hlonger : extension.toList.length + 1 < (stem.toList ++ '.' :: extension.toList).length := by
    rw [List.length_append, List.length_cons]
    omega
  have htake : (stem.toList ++ '.' :: extension.toList).length - extension.toList.length - 1 =
      stem.toList.length := by
    rw [List.length_append, List.length_cons]
    omega
  simp only [splitExtension, hcs]
  rw [hafter, if_pos hlonger, htake, List.take_left]
  simp

/-- Before what stands after the last point, there is a point, unless there is none at all. -/
theorem exists_before_lastPoint (cs : List Char)
    (h : (cs.reverse.takeWhile (· ≠ '.')).length < cs.length) :
    ∃ front, cs = front ++ '.' :: (cs.reverse.takeWhile (· ≠ '.')).reverse := by
  have happend : cs.reverse.takeWhile (· ≠ '.') ++ cs.reverse.dropWhile (· ≠ '.') = cs.reverse :=
    List.takeWhile_append_dropWhile
  have hpoint := List.head?_dropWhile_not (· ≠ '.') cs.reverse
  cases hfront : cs.reverse.dropWhile (· ≠ '.') with
  | nil =>
    have hlength := congrArg List.length happend
    rw [hfront, List.append_nil, List.length_reverse] at hlength
    omega
  | cons c front =>
    rw [hfront] at happend hpoint
    obtain rfl : c = '.' := by simpa using hpoint
    refine ⟨front.reverse, ?_⟩
    have hcs := congrArg List.reverse happend
    rw [List.reverse_reverse, List.reverse_append, List.reverse_cons, List.append_assoc] at hcs
    exact hcs.symm

/-- A name that is taken apart is put together again from its parts. -/
theorem splitExtension_eq_some_iff {name stem extension : String} :
    splitExtension name = (stem, some extension) ↔
      name = stem ++ "." ++ extension ∧ stem ≠ "" ∧ '.' ∉ extension.toList := by
  constructor
  · intro h
    simp only [splitExtension] at h
    split at h
    · rename_i hlonger
      obtain ⟨rfl, hextension⟩ := Prod.mk.inj h
      obtain rfl := Option.some.inj hextension
      rw [List.length_reverse] at hlonger
      have hpoint : '.' ∉ name.toList.reverse.takeWhile (· ≠ '.') := fun hmem => by
        simpa using List.mem_takeWhile_imp hmem
      obtain ⟨front, hname⟩ := exists_before_lastPoint name.toList (by omega)
      generalize name.toList.reverse.takeWhile (· ≠ '.') = back at *
      have hlength : name.toList.length = front.length + 1 + back.length := by
        rw [hname, List.length_append, List.length_cons, List.length_reverse]
        omega
      have hstem : name.toList.take (name.toList.length - back.reverse.length - 1) = front := by
        have hfront : name.toList.length - back.reverse.length - 1 = front.length := by
          rw [List.length_reverse]
          omega
        rw [hfront, hname, List.take_left]
      rw [hstem]
      refine ⟨?_, ?_, ?_⟩
      · rw [← String.toList_inj, hname]
        simp
      · intro hempty
        have hnil : front = [] := by simpa using hempty
        rw [hnil, List.length_nil] at hlength
        omega
      · rwa [String.toList_ofList, List.mem_reverse]
    · cases h
  · rintro ⟨rfl, hstem, hpoint⟩
    exact splitExtension_append hstem hpoint

theorem before_cons {a b : String} {p q : FilePath} :
    before (a :: p) (b :: q) = true ↔ a < b ∨ (a = b ∧ before p q = true) := by
  simp [before]

theorem before_irrefl : ∀ p : FilePath, before p p = false
  | [] => rfl
  | a :: p => by simp [before, before_irrefl p]

theorem before_trans : ∀ {p q r : FilePath}, before p q = true → before q r = true → before p r = true
  | [], _ :: _, _ :: _, _, _ => rfl
  | a :: p, b :: q, c :: r, hpq, hqr => by
    rw [before_cons] at *
    rcases hpq with hab | ⟨rfl, hpq⟩ <;> rcases hqr with hbc | ⟨rfl, hqr⟩
    · exact .inl (lt_trans hab hbc)
    · exact .inl hab
    · exact .inl hbc
    · exact .inr ⟨rfl, before_trans hpq hqr⟩

theorem before_total : ∀ {p q : FilePath}, p ≠ q → before p q = false → before q p = true
  | [], [], hne, _ => absurd rfl hne
  | a :: p, [], _, _ => rfl
  | a :: p, b :: q, hne, hno => by
    rw [← Bool.not_eq_true, before_cons, not_or, not_and, Bool.not_eq_true] at hno
    rw [before_cons]
    obtain ⟨hba, htail⟩ := hno
    rcases lt_or_eq_of_le (not_lt.1 hba) with hlt | rfl
    · exact .inl hlt
    · exact .inr ⟨rfl, before_total (fun e => hne (by rw [e])) (htail rfl)⟩

instance : LawfulSortKey FilePath where
  irrefl := before_irrefl
  trans := before_trans
  total := before_total

end FilePath

namespace FileTree

variable {t t' : FileTree} {path r : FilePath} {name : String} {follow : Bool}

/-! ## Walks that come to a directory -/

/-- Where a link in the directory `here` is followed from. -/
def linkStart (here : FilePath) (target : String) : FilePath :=
  if target.toList.head? == some '/' then [] else here

/-- One step of a walk, from `here` with these links left and these parts before it. -/
inductive Step (t : FileTree) : Nat → FilePath → List String → Nat → FilePath → List String → Prop
  | up {links : Nat} {here : FilePath} {rest : List String} :
    Step t links here (".." :: rest) links here.dropLast rest
  | directory {links : Nat} {here : FilePath} {part : String} {rest : List String} (hup : part ≠ "..")
    (hn : t.get? (here ++ [part]) = some .directory) :
    Step t links here (part :: rest) links (here ++ [part]) rest
  | link {links : Nat} {here : FilePath} {part : String} {rest : List String} {target : String}
    (hup : part ≠ "..") (hn : t.get? (here ++ [part]) = some (.link target)) :
    Step t (links + 1) here (part :: rest) links (linkStart here target) (FilePath.parts target ++ rest)

section Step

variable {fuel links links' : Nat} {here here' : FilePath} {parts parts' : List String}

/-- All directories and links of `t` are in `t'`. -/
def KeepsWays (t t' : FileTree) : Prop :=
  ∀ p n, (∀ bytes, n ≠ .file bytes) → t.get? p = some n → t'.get? p = some n

theorem Step.of_keepsWays (h : Step t links here parts links' here' parts') (hk : KeepsWays t t') :
    Step t' links here parts links' here' parts' := by
  cases h with
  | up => exact .up
  | directory hup hn => exact .directory hup (hk _ _ nofun hn)
  | link hup hn => exact .link hup (hk _ _ nofun hn)

theorem Step.append (h : Step t links here parts links' here' parts') (q : FilePath) :
    Step t links here (parts ++ q) links' here' (parts' ++ q) := by
  cases h with
  | up => exact .up
  | directory hup hn => exact .directory hup hn
  | link hup hn =>
    rw [List.append_assoc]
    exact .link hup hn

/-- A walk takes the step, unless that is to follow a link which is the last part. -/
theorem walkFrom_step (h : Step t links here parts links' here' parts')
    (hgoes : 1 < parts.length ∨ follow = true) :
    t.walkFrom follow (fuel + 1) links here parts = t.walkFrom follow fuel links' here' parts' := by
  cases h with
  | up => rw [walkFrom, if_pos rfl]
  | directory hup hn =>
    rw [walkFrom, if_neg hup]
    simp only [hn]
  | @link _ _ part rest target hup hn =>
    have hlast : (rest.isEmpty && !follow) = false := by
      rcases hgoes with hrest | rfl
      · cases rest with
        | nil => simp at hrest
        | cons => rfl
      · exact Bool.and_false _
    rw [walkFrom, if_neg hup]
    simp only [hn, hlast, Bool.false_eq_true, if_false, linkStart]

/-- A walk that comes to a directory has taken a step, if anything was before it. -/
theorem step_of_walkFrom (hparts : parts ≠ [])
    (hw : t.walkFrom true (fuel + 1) links here parts = .ok (.found r .directory)) :
    ∃ links' here' parts', Step t links here parts links' here' parts' ∧
      t.walkFrom true fuel links' here' parts' = .ok (.found r .directory) := by
  cases parts with
  | nil => exact absurd rfl hparts
  | cons part rest =>
    by_cases hup : part = ".."
    · subst hup
      exact ⟨_, _, _, .up, by rwa [walkFrom, if_pos rfl] at hw⟩
    rw [walkFrom, if_neg hup] at hw
    cases hn : t.get? (here ++ [part]) with
    | none =>
      simp only [hn] at hw
      split at hw <;> cases hw
    | some n =>
      simp only [hn] at hw
      cases n with
      | file bytes => simp only [] at hw; split at hw <;> cases hw
      | directory => exact ⟨_, _, _, .directory hup hn, hw⟩
      | link target =>
        simp only [Bool.not_true, Bool.and_false, Bool.false_eq_true, if_false] at hw
        cases links with
        | zero => cases hw
        | succ links => exact ⟨_, _, _, .link hup hn, hw⟩

theorem walkFrom_of_keepsWays (hk : KeepsWays t t')
    (hw : t.walkFrom true fuel links here parts = .ok (.found r .directory)) :
    t'.walkFrom true fuel links here parts = .ok (.found r .directory) := by
  induction fuel generalizing links here parts with
  | zero => cases hw
  | succ fuel ih =>
    by_cases hparts : parts = []
    · subst hparts
      exact hw
    · obtain ⟨links', here', parts', hstep, hrest⟩ := step_of_walkFrom hparts hw
      rw [walkFrom_step (hstep.of_keepsWays hk) (.inr rfl)]
      exact ih hrest

/-- A walk that has come to a directory goes on from there, if it may take more steps. -/
theorem walkFrom_append (hw : t.walkFrom true fuel links here parts = .ok (.found r .directory)) :
    ∃ fuel' links', ∀ n follow q, q ≠ [] →
      t.walkFrom follow (fuel + n) links here (parts ++ q) = t.walkFrom follow (fuel' + 1 + n) links' r q := by
  induction fuel generalizing links here parts with
  | zero => cases hw
  | succ fuel ih =>
    by_cases hparts : parts = []
    · subst hparts
      obtain rfl : here = r := by cases hw; rfl
      exact ⟨fuel, links, fun n follow q _ => rfl⟩
    · obtain ⟨links₁, here₁, parts₁, hstep, hrest⟩ := step_of_walkFrom hparts hw
      obtain ⟨fuel', links', hgoes⟩ := ih hrest
      refine ⟨fuel', links', fun n follow q hq => ?_⟩
      -- With `q` behind it no link on the way is the last part, so it is followed in any case.
      have hlong : 1 < (parts ++ q).length := by
        rw [List.length_append]
        have := List.length_pos_of_ne_nil hparts
        have := List.length_pos_of_ne_nil hq
        omega
      rw [← hgoes n follow q hq, Nat.add_right_comm, walkFrom_step (hstep.append q) (.inl hlong)]

end Step

/-- The walk along `path` comes to the directory `r`. -/
def Leads (t : FileTree) (path r : FilePath) : Prop := t.walk true path = .ok (.found r .directory)

theorem Leads.of_keepsWays (h : t.Leads path r) (hk : KeepsWays t t') : t'.Leads path r :=
  walkFrom_of_keepsWays hk h

/-- A walk through a directory goes on with steps to spare. -/
theorem Leads.walk_append (h : t.Leads path r) :
    ∃ fuel links, ∀ follow q, q ≠ [] →
      t.walk follow (path ++ q) = t.walkFrom follow (fuel + 1 + q.length) links r q := by
  obtain ⟨fuel, links, hgoes⟩ := walkFrom_append h
  refine ⟨fuel, links, fun follow q hq => ?_⟩
  rw [← hgoes q.length follow q hq, walk]
  congr 1
  simp only [walkLimit, List.length_append]
  omega

/-- What stands in the directory is found; a link is not meant here, since it may be followed. -/
theorem Leads.walk_found (h : t.Leads path r) (hup : name ≠ "..") {n : FileNode}
    (hn : t.get? (r ++ [name]) = some n) (hlink : ∀ target, n ≠ .link target) (follow : Bool) :
    t.walk follow (path ++ [name]) = .ok (.found (r ++ [name]) n) := by
  obtain ⟨fuel, links, hgoes⟩ := h.walk_append
  rw [hgoes follow [name] (by simp), List.length_singleton, walkFrom, if_neg hup]
  simp only [hn]
  cases n with
  | file bytes => rfl
  | directory => rfl
  | link target => exact absurd rfl (hlink target)

theorem Leads.walk_free (h : t.Leads path r) (hup : name ≠ "..") (hn : t.get? (r ++ [name]) = none)
    (follow : Bool) : t.walk follow (path ++ [name]) = .ok (.free (r ++ [name])) := by
  obtain ⟨fuel, links, hgoes⟩ := h.walk_append
  rw [hgoes follow [name] (by simp), List.length_singleton, walkFrom, if_neg hup]
  simp [hn]

/-- A walk to something below what is not there fails. -/
theorem Leads.walk_missing (h : t.Leads path r) (hup : name ≠ "..") (hn : t.get? (r ++ [name]) = none)
    {q : FilePath} (hq : q ≠ []) (follow : Bool) : t.walk follow (path ++ name :: q) = .error .notFound := by
  obtain ⟨fuel, links, hgoes⟩ := h.walk_append
  rw [hgoes follow (name :: q) (by simp), List.length_cons, ← Nat.add_assoc, walkFrom, if_neg hup]
  simp [hn, hq]

theorem Leads.child (h : t.Leads path r) (hup : name ≠ "..")
    (hn : t.get? (r ++ [name]) = some .directory) : t.Leads (path ++ [name]) (r ++ [name]) :=
  h.walk_found hup hn nofun true

/-! ## Looking -/

/-- What a walk finds stands where it was found, unless it is a directory, which may be the root. -/
theorem get?_of_walkFrom {n : FileNode} {fuel links : Nat} {here : FilePath} {parts : List String}
    (hw : t.walkFrom follow fuel links here parts = .ok (.found r n)) : n = .directory ∨ t.get? r = some n := by
  fun_induction walkFrom t follow fuel links here parts <;> grind

theorem readText_of_found {text : String} (h : t.walk true path = .ok (.found r (.file text.toUTF8.toList))) :
    t.readText path = .ok text := by
  unfold readText node
  rw [h]
  simp only []
  rw [fromUTF8?_toUTF8]

theorem directory?_of_leads (h : t.Leads path r) : t.directory? path = some r := by
  unfold directory?
  rw [h]

theorem mem_names (hs : Table.Sorted t) (h : t.Leads path r) :
    name ∈ t.names path ↔ ∃ n, t.get? (r ++ [name]) = some n := by
  simp only [names, directory?_of_leads h, Table.keys, List.mem_filterMap, List.mem_map,
    Table.get?_eq_some_iff hs]
  constructor
  · rintro ⟨q, ⟨e, he, rfl⟩, hq⟩
    cases hlast : e.1.getLast? with
    | none => simp [hlast] at hq
    | some last =>
      simp only [hlast, Option.ite_none_right_eq_some, Option.some.injEq] at hq
      obtain ⟨rfl, rfl⟩ := hq
      rw [List.dropLast_append_getLast? _ hlast]
      exact ⟨_, he⟩
  · rintro ⟨n, hn⟩
    exact ⟨r ++ [name], ⟨_, hn, rfl⟩, by simp⟩

/-- A directory has each name once. -/
theorem nodup_names (hs : Table.Sorted t) (path : FilePath) : (t.names path).Nodup := by
  unfold names
  cases t.directory? path with
  | none => exact List.nodup_nil
  | some p =>
    refine List.Nodup.filterMap (fun q q' name hq hq' => ?_) (Table.nodup_keys hs)
    cases hlast : q.getLast? with
    | none => simp [hlast] at hq
    | some last =>
      cases hlast' : q'.getLast? with
      | none => simp [hlast'] at hq'
      | some last' =>
        simp only [hlast, hlast', Option.mem_def, Option.ite_none_right_eq_some, Option.some.injEq] at hq hq'
        rw [← List.dropLast_append_getLast? _ hlast, ← List.dropLast_append_getLast? _ hlast',
          hq.1, hq.2, hq'.1, hq'.2]

/-! ## Changing -/

theorem makeDirectories_of_found (h : t.Leads (path ++ [name]) r)
    (hw : t.walk false (path ++ [name]) = .ok (.found r .directory)) :
    t.makeDirectories (path ++ [name]) = .ok t := by
  have hcreate : t.create (path ++ [name]) .directory = .error .alreadyExists := by
    unfold create
    rw [hw]
  have hdir : t.isDirectory (path ++ [name]) = true := by
    unfold isDirectory node
    rw [h]
  simp [makeDirectories, makeDirectoriesUp, hcreate, hdir]

theorem makeDirectories_of_free (hw : t.walk false (path ++ [name]) = .ok (.free r)) :
    t.makeDirectories (path ++ [name]) = .ok (t.insert r .directory) := by
  have hcreate : t.create (path ++ [name]) .directory = .ok (t.insert r .directory) := by
    unfold create
    rw [hw]
  simp [makeDirectories, makeDirectoriesUp, hcreate]

theorem create_eq_ok {n : FileNode} (h : t.create path n = .ok t') : ∃ p, t' = Table.insert p n t := by
  unfold create at h
  split at h
  · cases h
  · rename_i p _
    exact ⟨p, (Except.ok.inj h).symm⟩
  · cases h

section

variable {P : FileTree → Prop} (hP : ∀ t p, P t → P (Table.insert p .directory t))

include hP

theorem create_keeps (h : P t) (hc : t.create path .directory = .ok t') : P t' := by
  obtain ⟨p, rfl⟩ := create_eq_ok hc
  exact hP t p h

theorem makeDirectoriesUp_keeps (h : P t) {names : List String} (hm : t.makeDirectoriesUp names = .ok t') : P t' := by
  induction names generalizing t' with
  | nil => exact Except.ok.inj hm ▸ h
  | cons name above ih =>
    rw [makeDirectoriesUp] at hm
    split at hm
    · rename_i u hc
      exact Except.ok.inj hm ▸ create_keeps hP h hc
    · split at hm
      · cases hm
      · rename_i u hmade
        split at hm
        · rename_i v hc
          exact Except.ok.inj hm ▸ create_keeps hP (ih hmade) hc
        · split at hm
          · exact Except.ok.inj hm ▸ ih hmade
          · cases hm
    · split at hm
      · exact Except.ok.inj hm ▸ h
      · cases hm

/-- What stays true when a directory is put into the tree stays true when directories are made. -/
theorem makeDirectories_keeps (h : P t) (hm : t.makeDirectories path = .ok t') : P t' :=
  makeDirectoriesUp_keeps hP h hm

end

/-- What is put where a file or nothing was is in no way. -/
theorem keepsWays_put (h : ∀ m, t.get? path = some m → ∃ bytes, m = .file bytes) (n : Option FileNode) :
    KeepsWays t (t.put path n) := by
  intro p m hm hp
  rw [Table.get?_put, if_neg, hp]
  rintro rfl
  obtain ⟨bytes, rfl⟩ := h m hp
  exact hm bytes rfl

/-! ## Trees of texts -/

/-- Only directories stand in the tree, and files that are texts; there are no links. -/
def OfTexts (t : FileTree) : Prop :=
  ∀ e ∈ t, e.2 = .directory ∨ ∃ text : String, e.2 = .file text.toUTF8.toList

namespace OfTexts

variable {place : Place}

theorem insert (h : OfTexts t) (p : FilePath) {n : FileNode}
    (hn : n = .directory ∨ ∃ text : String, n = .file text.toUTF8.toList) : OfTexts (Table.insert p n t) := by
  intro e he
  rcases Table.mem_insert he with rfl | he
  · exact hn
  · exact h e he

theorem get?_ne_link (h : OfTexts t) (p : FilePath) (target : String) : t.get? p ≠ some (.link target) := by
  intro hg
  rcases h _ (Table.mem_of_get? hg) with hn | ⟨text, hn⟩ <;> cases hn

/-- A walk comes to the directory in which its last part is looked up; no link can lead it elsewhere. -/
theorem walkFrom_concat (h : OfTexts t) {fuel fuel' links : Nat} {here : FilePath} {parts : List String}
    (hfuel : parts.length ≤ fuel') (hw : t.walkFrom true fuel links here (parts ++ [name]) = .ok place) :
    ∃ r, t.walkFrom true (fuel' + 1) links here parts = .ok (.found r .directory) ∧
      ∃ fuel, t.walkFrom true fuel links r [name] = .ok place := by
  induction parts generalizing fuel fuel' here with
  | nil => exact ⟨here, rfl, fuel, hw⟩
  | cons part rest ih =>
    obtain ⟨fuel', rfl⟩ := Nat.exists_eq_add_of_lt (Nat.lt_of_lt_of_le (Nat.zero_lt_succ _) hfuel)
    rw [List.length_cons, Nat.zero_add, Nat.add_le_add_iff_right] at hfuel
    cases fuel with
    | zero => cases hw
    | succ fuel =>
      by_cases hup : part = ".."
      · subst hup
        rw [Nat.zero_add, walkFrom_step .up (.inr rfl)]
        rw [List.cons_append, walkFrom_step .up (.inr rfl)] at hw
        exact ih hfuel hw
      cases hn : t.get? (here ++ [part]) with
      | none => simp [walkFrom, hup, hn] at hw
      | some n =>
        cases n with
        | file bytes => simp [walkFrom, hup, hn] at hw
        | directory =>
          rw [Nat.zero_add, walkFrom_step (.directory hup hn) (.inr rfl)]
          rw [List.cons_append, walkFrom_step (.directory hup hn) (.inr rfl)] at hw
          exact ih hfuel hw
        | link target => exact absurd hn (h.get?_ne_link _ _)

theorem leads_of_walk (h : OfTexts t) (hup : name ≠ "..") (hw : t.walk true (path ++ [name]) = .ok place) :
    ∃ r, t.Leads path r ∧ (place = .free (r ++ [name]) ∧ t.get? (r ++ [name]) = none ∨
      ∃ n, place = .found (r ++ [name]) n ∧ t.get? (r ++ [name]) = some n) := by
  have hfuel : path.length ≤ path.length + 4095 := Nat.le_add_right _ _
  obtain ⟨r, hleads, fuel, hlast⟩ := h.walkFrom_concat hfuel hw
  refine ⟨r, hleads, ?_⟩
  cases fuel with
  | zero => cases hlast
  | succ fuel =>
    rw [walkFrom, if_neg hup] at hlast
    cases hn : t.get? (r ++ [name]) with
    | none => exact .inl ⟨by simpa [hn] using hlast.symm, rfl⟩
    | some n =>
      simp only [hn] at hlast
      cases n with
      | file bytes => exact .inr ⟨_, by simpa using hlast.symm, rfl⟩
      | directory =>
        cases fuel with
        | zero => cases hlast
        | succ fuel => exact .inr ⟨_, (Except.ok.inj hlast).symm, rfl⟩
      | link target => exact absurd hn (h.get?_ne_link _ _)

/-- A file is written in the directory that its path leads to, where a file or nothing was. -/
theorem writeText_eq_ok (h : OfTexts t) (hup : name ≠ "..") {text : String}
    (hw : t.writeText (path ++ [name]) text = .ok t') :
    ∃ r, t.Leads path r ∧ t' = Table.insert (r ++ [name]) (.file text.toUTF8.toList) t ∧
      ∀ n, t.get? (r ++ [name]) = some n → ∃ bytes, n = .file bytes := by
  unfold writeText writeBytes at hw
  cases hwalk : t.walk true (path ++ [name]) with
  | error f => simp [hwalk] at hw
  | ok place =>
    obtain ⟨r, hleads, ⟨rfl, hnone⟩ | ⟨n, rfl, hn⟩⟩ := h.leads_of_walk hup hwalk
    · simp only [hwalk] at hw
      exact ⟨r, hleads, (Except.ok.inj hw).symm, fun n hn => by rw [hnone] at hn; cases hn⟩
    · simp only [hwalk] at hw
      cases n with
      | file bytes =>
        refine ⟨r, hleads, (Except.ok.inj hw).symm, fun m hm => ⟨bytes, ?_⟩⟩
        rw [hn] at hm
        exact (Option.some.inj hm).symm
      | directory => cases hw
      | link target => cases hw

end OfTexts

end FileTree
end ProfileKit

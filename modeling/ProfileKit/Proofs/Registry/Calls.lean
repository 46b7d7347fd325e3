import ProfileKit.Proofs.Check.Findings
import ProfileKit.Proofs.Registry.Index
import ProfileKit.Proofs.Registry.RepairEffect

/-!
# Calls of a registry in memory

What `Registry.save`, `rename` and `delete` give and leave behind when the store is one in memory
(`eval_save`, `eval_rename`, `eval_delete`), and what is known of a call that succeeds (`save_ok`,
`rename_ok`, `delete_ok`).
-/

namespace ProfileKit

/-- What the profiles of a store are checked against. -/
def MemoryStore.context (strict : Bool) (s : MemoryStore) : Check.Context := ⟨s.index, strict⟩

namespace Registry

open Check MemoryStore Repair

variable {s : MemoryStore} {strict : Bool} {k : Kind} {id old new text : String}

/-! ## Checking and saving -/

theorem eval_check (h : s.WellFormed) (k : Kind) (text : String) :
    ((registry strict).check k text).eval s = (.ok ((s.context strict).checkText k text), s) := by
  simp only [Registry.check, Action.eval_bind, eval_index h]
  rfl

/-- A check of a text without errors: the text reads, and no finding in the profile is one. -/
theorem isOk_checkText {c : Context} :
    (c.checkText k text).isOk = true ↔ ∃ p, Profile.parse k text = .ok p ∧ Clean (findings c p) := by
  unfold Context.checkText
  cases Profile.parse k text with
  | error e => simp [isOk_ofFindings, Finding.error?]
  | ok p => simp [isOk_ofFindings, Context.check]

theorem eval_check_pipeline (h : s.WellFormed) {p : PipelineProfile}
    (hp : Profile.parse .pipeline text = .ok (.pipeline p)) :
    ((registry strict).check .pipeline text).eval s =
      (.ok (.ofFindings (identity p.id p.name ++ pipeline (s.context strict) p)), s) := by
  rw [eval_check h, Context.checkText, hp]
  rfl

theorem eval_save (h : s.WellFormed) {p : Profile} (hp : Profile.parse k text = .ok p)
    (overwrite : Bool) :
    ((registry strict).save k text overwrite).eval s =
      if ((s.context strict).checkForSave p overwrite).isOk then
        match MemoryStore.save k (Text.trim (p.id.getD "")) text overwrite s with
        | (.ok ws, s') => (.ok (((s.context strict).checkForSave p overwrite).warningCodes ++ ws), s')
        | (.error e, s') => (.error e, s')
      else (.error (.validation ((s.context strict).checkForSave p overwrite).errorCodes), s) := by
  simp only [Registry.save, hp, Action.eval_bind, Action.eval_ofExcept, eval_index h]
  have hcontext : (registry strict).context (MemoryStore.index s) = s.context strict := rfl
  rw [hcontext]
  cases hok : ((s.context strict).checkForSave p overwrite).isOk
  · simp
  · simp only [Bool.not_true, Bool.false_eq_true, if_false, if_true, Action.eval_pure, Action.eval_bind,
      registry, MemoryStore.eval_save]
    cases hsave : MemoryStore.save k (Text.trim (p.id.getD "")) text overwrite s with
    | mk r s' => cases r <;> rfl

theorem eval_save_error {e : ProfileError} (hp : Profile.parse k text = .error e) (overwrite : Bool) :
    ((registry strict).save k text overwrite).eval s = (.error e, s) := by
  simp [Registry.save, hp, Action.eval_bind]

/-- A profile that is found clean has a valid id, without blanks around it. -/
theorem trimmedId?_of_clean {c : Context} {p : Profile} (h : Clean (findings c p)) :
    ∃ id, p.trimmedId? = some id ∧ Text.trim (p.id.getD "") = id ∧ Id.isValid id = true := by
  simp only [findings, clean_append, identity] at h
  obtain ⟨⟨hid, -⟩, -⟩ := h
  unfold filled at hid
  cases hi : p.id with
  | none => simp [hi, Finding.error?] at hid
  | some i =>
    rw [hi, Option.bind_some] at hid
    cases hn : Text.nonBlank? i with
    | none => simp [hn, Finding.error?] at hid
    | some id =>
      have htrim : Text.trim i = id := (Text.nonBlank?_eq_some_iff.1 hn).1
      refine ⟨id, by rw [Profile.trimmedId?, hi, Option.bind_some, hn], htrim, ?_⟩
      simpa [hn] using hid

/-- A save that succeeds: the text reads as a profile without errors, and is kept under its id. -/
theorem save_ok (h : s.WellFormed) {overwrite : Bool} {ws : List String} {s' : MemoryStore}
    (hsave : ((registry strict).save k text overwrite).eval s = (.ok ws, s')) :
    ∃ p id, Profile.parse k text = .ok p ∧ p.trimmedId? = some id ∧
      Text.trim (p.id.getD "") = id ∧ Id.isValid id = true ∧
      Clean (findings (s.context strict) p) ∧ s' = s.insert ⟨k, id⟩ text := by
  cases hp : Profile.parse k text with
  | error e => simp [eval_save_error hp] at hsave
  | ok p =>
    rw [Registry.eval_save h hp] at hsave
    split at hsave
    · rename_i hok
      rw [Context.checkForSave, isOk_ofFindings, clean_append] at hok
      obtain ⟨id, hid, htrim, hvalid⟩ := trimmedId?_of_clean hok.1
      refine ⟨p, id, rfl, hid, htrim, hvalid, hok.1, ?_⟩
      rw [htrim] at hsave
      cases hput : MemoryStore.save k id text overwrite s with
      | mk r t =>
        rw [hput] at hsave
        cases r with
        | error e => simp at hsave
        | ok ws' =>
          obtain ⟨-, -, -, rfl⟩ := save_eq_ok hput
          simp only [Prod.mk.injEq] at hsave
          exact hsave.2.symm
    · simp at hsave

/-! ## Renaming and deleting -/

/-- The store in which a profile has moved, before the references to it are repaired. -/
def moved (k : Kind) (old new text : String) (s : MemoryStore) : MemoryStore :=
  Table.erase ⟨k, old⟩ (s.insert ⟨k, new⟩ text)

theorem get?_moved (key : Key) :
    (moved k old new text s).get? key =
      if key = ⟨k, old⟩ then none else if key = ⟨k, new⟩ then some text else s.get? key := by
  rw [moved, Table.get?_erase, Table.get?_insert]
  simp only [eq_comm]

theorem eval_rename (h : s.WellFormed) (k : Kind) (old new : String) :
    ((registry strict).rename k old new).eval s =
      match Id.check new with
      | .error e => (.error e, s)
      | .ok () =>
        if old = new then (.ok .none, s)
        else if s.contains ⟨k, new⟩ then (.error (.conflict (Key.render ⟨k, new⟩)), s)
        else
          match MemoryStore.load k old s with
          | .error e => (.error e, s)
          | .ok loaded =>
            let t := moved k old new (loaded.profile.setId new).toYaml s
            (.ok (reportOf (some new) .none (t.countP (isReferring k old))),
              repaired k old (some new) t) := by
  simp only [Registry.rename, Action.eval_bind, Action.eval_ofExcept]
  cases hid : Id.check new with
  | error e => rfl
  | ok u =>
    dsimp only
    split
    · simp
    · rename_i hne
      have hvalid : Id.isValid new = true := by
        by_contra hno
        simp [Id.check, hno] at hid
      have hcontains : ((MemoryStore.list k s).map Summary.id).contains new = s.contains ⟨k, new⟩ := by
        rw [Bool.eq_iff_iff, List.contains_iff_mem]
        exact mem_ids
      simp only [registry, Action.eval_bind, eval_list, hcontains]
      split
      · simp
      · rename_i hfree
        simp only [Action.eval_bind, eval_load]
        cases hload : MemoryStore.load k old s with
        | error e => simp
        | ok loaded =>
          have hold : s.contains ⟨k, old⟩ = true :=
            Table.contains_iff.2 ⟨_, (load_eq_ok_iff.1 hload).1⟩
          have hsave : MemoryStore.save k new (loaded.profile.setId new).toYaml false s =
              (.ok [], s.insert ⟨k, new⟩ (loaded.profile.setId new).toYaml) := by
            simp [MemoryStore.save, hid, hfree]
          have hdelete : MemoryStore.delete k old (s.insert ⟨k, new⟩ (loaded.profile.setId new).toYaml) =
              (.ok (), moved k old new (loaded.profile.setId new).toYaml s) := by
            simp [MemoryStore.delete, Table.contains_insert, hold, moved]
          simp only [MemoryStore.eval_save, hsave, MemoryStore.eval_delete, hdelete]
          exact eval_run ((h.insert ⟨k, new⟩ hvalid _).erase ⟨k, old⟩) k old (some new)

theorem eval_delete (h : s.WellFormed) (k : Kind) (id : String) :
    ((registry strict).delete k id).eval s =
      if s.contains ⟨k, id⟩ then
        let t := Table.erase ⟨k, id⟩ s
        (.ok (reportOf (firstOther? k id t) .none (t.countP (isReferring k id))),
          repaired k id (firstOther? k id t) t)
      else (.error (.notFound (Key.render ⟨k, id⟩)), s) := by
  simp only [Registry.delete, registry, Action.eval_bind, MemoryStore.eval_delete, MemoryStore.delete]
  by_cases hc : s.contains ⟨k, id⟩ = true
  · simp only [hc, if_true]
    exact eval_run (h.erase ⟨k, id⟩) k id none
  · simp [hc]

/-- A rename that succeeds and changes something. -/
structure Renamed (k : Kind) (old new : String) (s : MemoryStore) (p : Profile) (s' : MemoryStore) :
    Prop where
  isValid : Id.isValid new = true
  ne : old ≠ new
  free : s.contains ⟨k, new⟩ = false
  read : ∃ text, s.get? ⟨k, old⟩ = some text ∧ Profile.parse k text = .ok p
  eq : s' = repaired k old (some new) (moved k old new (p.setId new).toYaml s)

theorem rename_ok (h : s.WellFormed) {report : RepairReport} {s' : MemoryStore}
    (hr : ((registry strict).rename k old new).eval s = (.ok report, s')) :
    (old = new ∧ s' = s) ∨ ∃ p, Renamed k old new s p s' := by
  rw [eval_rename h] at hr
  by_cases hvalid : Id.isValid new = true
  · simp only [Id.check, hvalid, if_true] at hr
    split at hr
    · rename_i heq
      simp only [Prod.mk.injEq] at hr
      exact .inl ⟨heq, hr.2.symm⟩
    · rename_i hne
      split at hr
      · simp at hr
      · rename_i hfree
        cases hload : MemoryStore.load k old s with
        | error e => simp [hload] at hr
        | ok loaded =>
          simp only [hload, Prod.mk.injEq] at hr
          exact .inr ⟨loaded.profile, hvalid, hne, by simpa using hfree, ⟨_, load_eq_ok_iff.1 hload⟩,
            hr.2.symm⟩
  · simp [Id.check, hvalid] at hr

theorem delete_ok (h : s.WellFormed) {report : RepairReport} {s' : MemoryStore}
    (hr : ((registry strict).delete k id).eval s = (.ok report, s')) :
    s.contains ⟨k, id⟩ = true ∧
      s' = repaired k id (firstOther? k id (Table.erase ⟨k, id⟩ s)) (Table.erase ⟨k, id⟩ s) := by
  rw [eval_delete h] at hr
  split at hr
  · rename_i hc
    simp only [Prod.mk.injEq] at hr
    exact ⟨hc, hr.2.symm⟩
  · simp at hr

end Registry
end ProfileKit

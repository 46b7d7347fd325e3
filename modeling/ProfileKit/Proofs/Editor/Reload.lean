import ProfileKit.Proofs.Editor.Separation

/-!
# Loading what was written

An editor that writes a form and loads the document it wrote should show that form again. What the document
alone does not tell is how numbers and JSON text were typed; that is remembered as long as profiles with one id
are loaded. Ids are compared as values of the documents, though, and a form writes every id as a text. So where
the document had a number for its id, say, what is written for it loads as another profile
(`Editor.idStays_iff`), and numbers and JSON text are shown as they are stored.

`Editor.load_writeDocument_iff` says exactly when the form comes back: the id of the document is left out or a
text that is not empty, or no number and no JSON text of the form is spelled otherwise than it is shown. An edit
that is pending at the load is written into the same memory as it is put aside, so it must not spell them
otherwise either (`Form.SpelledAlike`).
-/

namespace ProfileKit

/-! ## Slots -/

/-- The widgets whose text is stored in another spelling. -/
def Widget.isSpelled : Widget → Bool
  | .number | .json => true
  | _ => false

namespace Slot

variable {s : Slot} {scope : String} {f g : Form} {m : Mapping} {memory memory' : FieldMemory} {entry : Entry}

/-- The text of the slot is what is shown for the value that it is stored as. -/
def ShownAsTyped (s : Slot) (f : Form) : Prop :=
  match s.widget with
  | .number => f.text s.name = "" ∨ (typedValue (Text.trim (f.text s.name))).shownText = f.text s.name
  | .json => f.text s.name = "" ∨ ∃ fields, FieldMemory.IsObject (f.text s.name) fields ∧
      (Json.object fields).renderIndented = f.text s.name
  | _ => True

/-- Of the memory a slot only looks at the text that was typed for it. -/
theorem read_congr_typed (h : memory.typed.get? (s.path scope) = memory'.typed.get? (s.path scope)) :
    s.read memory scope m = s.read memory' scope m := by
  unfold Slot.path at h
  cases hw : s.widget with
  | number =>
    simp only [hw] at h
    simp only [read, hw, FieldMemory.typedText?_congr h]
  | json =>
    simp only [hw] at h
    simp only [read, hw, FieldMemory.typedText?_congr h]
  | _ => simp only [read, hw]

theorem write_of_not_isSpelled (h : s.widget.isSpelled = false) : (s.write f scope (m, memory)).2 = memory := by
  cases hw : s.widget <;> simp_all [Widget.isSpelled, write]

/-- What is remembered of a slot after it was written depends on its text alone, if the text is kept. -/
theorem typed_write_congr (hf : f.get? s.name = some entry) (haccepts : s.widget.Accepts entry)
    (hspelled : s.widget.isSpelled = true → g.text s.name = f.text s.name) {m m' : Mapping}
    (hmemory : s.widget.isSpelled = false → memory.typed.get? (s.path scope) = memory'.typed.get? (s.path scope)) :
    (s.write g scope (m, memory)).2.typed.get? (s.path scope) =
      (s.write f scope (m', memory')).2.typed.get? (s.path scope) := by
  cases hw : s.widget with
  | number =>
    have htext : g.text s.name = f.text s.name := hspelled (by rw [hw]; rfl)
    simp [write, hw, Slot.path, htext, FieldMemory.get?_typed_remember]
  | json =>
    have htext : g.text s.name = f.text s.name := hspelled (by rw [hw]; rfl)
    have hpath : s.path scope = s.key := by simp [Slot.path, hw]
    cases entry with
    | text t =>
      have ht : t = "" ∨ ∃ fields, FieldMemory.IsObject t fields := by simpa [Widget.Accepts, hw] using haccepts
      simp only [write, hw, hpath, htext, Form.text_of_get? hf]
      rcases ht with rfl | ⟨fields, hobject⟩
      · rw [FieldMemory.putJson_of_isBlank memory m s.key (by decide),
          FieldMemory.putJson_of_isBlank memory' m' s.key (by decide)]
        simp [Table.get?_erase]
      · rw [FieldMemory.putJson_of_isObject memory m s.key hobject,
          FieldMemory.putJson_of_isObject memory' m' s.key hobject]
        simp [Table.get?_insert]
    | _ => simp [Widget.Accepts, hw] at haccepts
  | _ =>
    simp only [write, hw]
    exact hmemory (by rw [hw]; rfl)

/-- Where nothing is remembered, the slot is read back if its text is shown as it was typed. -/
theorem read_write_forgotten (hkeys : s.keys.Nodup) (hf : f.get? s.name = some entry)
    (haccepts : s.widget.Accepts entry) (hnil : memory'.typed = []) :
    s.read memory' scope (s.write f scope (m, memory)).1 = entry ↔ s.ShownAsTyped f := by
  have hkept := read_write hkeys hf haccepts scope (m, memory)
  cases hw : s.widget with
  | number =>
    cases entry with
    | text t =>
      have ht : t = "" ∨ Text.isBlankText t = false := by simpa [Widget.Accepts, hw] using haccepts
      simp only [read, write, ShownAsTyped, hw, Form.text_of_get? hf, typedText?_of_nil hnil, Option.getD_none,
        Entry.text.injEq, shownAt, Table.get?_put, if_true]
      rcases ht with rfl | hblank
      · exact iff_of_true (by decide) (.inl rfl)
      · have hne : t ≠ "" := by
          rintro rfl
          revert hblank
          decide
        simp [Text.nonBlank?, hblank, hne]
    | _ => simp [Widget.Accepts, hw] at haccepts
  | json =>
    cases entry with
    | text t =>
      have ht : t = "" ∨ ∃ fields, FieldMemory.IsObject t fields := by simpa [Widget.Accepts, hw] using haccepts
      simp only [read, write, ShownAsTyped, hw, Form.text_of_get? hf, typedText?_of_nil hnil, Option.getD_none,
        Entry.text.injEq]
      rcases ht with rfl | ⟨fields, hobject⟩
      · rw [FieldMemory.putJson_of_isBlank memory m s.key (by decide)]
        exact iff_of_true (by simp [jsonAt, Table.get?_erase]) (.inl rfl)
      · have hne : t ≠ "" := by
          rintro rfl
          exact absurd hobject.not_blank (by decide)
        rw [FieldMemory.putJson_of_isObject memory m s.key hobject]
        have hfields : ∀ fields', FieldMemory.IsObject t fields' ↔ fields' = fields := fun fields' =>
          ⟨fun h => Json.object.inj (Option.some.inj (h.symm.trans hobject)), fun h => h ▸ hobject⟩
        simp [jsonAt, Table.get?_insert, hne, hfields]
    | _ => simp [Widget.Accepts, hw] at haccepts
  | _ =>
    simp only [read, hw] at hkept
    simp only [read, ShownAsTyped, hw, hkept]

end Slot

/-! ## Forms -/

namespace Form

variable {k : Kind} {f g : Form} {m : Mapping} {memory memory' : FieldMemory}

/-- No number and no JSON text of the form is spelled otherwise than it is shown. -/
def ShownAsTyped (f : Form) (k : Kind) : Prop := ∀ s ∈ (Layout.ofKind k).all, s.ShownAsTyped f

/-- Two forms have the same texts for all numbers and JSON texts. -/
def SpelledAlike (f g : Form) (k : Kind) : Prop :=
  ∀ s ∈ (Layout.ofKind k).all, s.widget.isSpelled = true → f.text s.name = g.text s.name

/-- Forms are equal if they show the same in every slot. -/
theorem eq_iff_shown (hf : f.entries.map Prod.fst = (Layout.ofKind k).all.map Slot.name)
    (hg : g.entries.map Prod.fst = (Layout.ofKind k).all.map Slot.name) :
    f = g ↔ ∀ s ∈ (Layout.ofKind k).all, f.shown s = g.shown s := by
  refine ⟨fun h s _ => h ▸ rfl, fun h => ?_⟩
  have hnames := (Layout.lawful_ofKind k).names
  have hentries : f.entries = g.entries := by
    rw [entries_eq hf hnames, entries_eq hg hnames]
    exact List.map_congr_left fun s hs => by rw [h s hs]
  exact congrArg Form.mk hentries

/-- Of the memory a form only looks at the texts that were typed. -/
theorem ofMapping_congr_typed
    (htop : ∀ s ∈ (Layout.ofKind k).top, memory.typed.get? (s.path "") = memory'.typed.get? (s.path ""))
    (hinner : ∀ s ∈ (Layout.ofKind k).inner, memory.typed.get? (s.path (Layout.ofKind k).scope) =
      memory'.typed.get? (s.path (Layout.ofKind k).scope)) :
    ofMapping k memory m = ofMapping k memory' m := by
  have hentries : (ofMapping k memory m).entries = (ofMapping k memory' m).entries := by
    rw [entries_ofMapping, entries_ofMapping]
    congr 1
    · exact List.map_congr_left fun s hs => by rw [Slot.read_congr_typed (htop s hs)]
    · exact List.map_congr_left fun s hs => by rw [Slot.read_congr_typed (hinner s hs)]
  exact congrArg Form.mk hentries

/-- A form is still read back if another one was written after it, over any document, that spells nothing
otherwise. -/
theorem ofMapping_writeOver_of_spelledAlike (h : f.Fits k) (halike : g.SpelledAlike f k) (memory : FieldMemory)
    (raw raw' : Mapping) :
    ofMapping k (g.writeOver k (f.writeOver k memory raw).2 raw').2 (f.writeOver k memory raw).1 = f := by
  have hl := Layout.lawful_ofKind k
  refine (ofMapping_congr_typed (fun s hs => ?_) (fun s hs => ?_)).trans (ofMapping_writeOver h memory raw)
  · have hall := List.mem_append_left (Layout.ofKind k).inner hs
    have hwritten := (same_writeOver_top hs f memory raw).typed
    rw [(same_writeOver_top hs g _ raw').typed, hwritten]
    refine Slot.typed_write_congr (get?_eq_shown h.names hl.names hall) (h.accepts s hall) (halike s hall)
      fun hspelled => ?_
    rw [hwritten, Slot.write_of_not_isSpelled hspelled]
  · have hall := List.mem_append_right (Layout.ofKind k).top hs
    have hwritten := (same_writeOver_inner hs f memory raw).typed
    rw [(same_writeOver_inner hs g _ raw').typed, hwritten]
    refine Slot.typed_write_congr (get?_eq_shown h.names hl.names hall) (h.accepts s hall) (halike s hall)
      fun hspelled => ?_
    rw [hwritten, Slot.write_of_not_isSpelled hspelled]

/-- With nothing remembered a form is read back if it is shown as it was typed. -/
theorem ofMapping_writeOver_forgotten_iff (h : f.Fits k) (hnil : memory'.typed = []) (memory : FieldMemory)
    (raw : Mapping) : ofMapping k memory' (f.writeOver k memory raw).1 = f ↔ f.ShownAsTyped k := by
  have hl := Layout.lawful_ofKind k
  rw [eq_iff_shown (map_fst_ofMapping k _ _) h.names]
  refine forall₂_congr fun s hall => ?_
  have hf := get?_eq_shown h.names hl.names hall
  rcases List.mem_append.1 hall with hs | hs
  · have hsame : s.Same "" ((f.writeOver k memory raw).1, memory') ((s.write f "" (raw, memory)).1, memory') :=
      ⟨(same_writeOver_top hs f memory raw).mapping, rfl, fun _ => rfl⟩
    rw [shown_of_get? (get?_ofMapping_top hs), hsame.read]
    exact Slot.read_write_forgotten (Layout.nodup_keys hall) hf (h.accepts s hall) hnil
  · have hsame : s.Same (Layout.ofKind k).scope
        (innerMapping (f.writeOver k memory raw).1 (Layout.ofKind k).scope, memory')
        ((s.write f (Layout.ofKind k).scope (innerMapping raw (Layout.ofKind k).scope, memory)).1, memory') :=
      ⟨(same_writeOver_inner hs f memory raw).mapping, rfl, fun _ => rfl⟩
    rw [shown_of_get? (get?_ofMapping_inner hs), hsame.read]
    exact Slot.read_write_forgotten (Layout.nodup_keys hall) hf (h.accepts s hall) hnil

/-- The id of a form is written as a text. -/
theorem get?_id_writeOver (f : Form) (k : Kind) (memory : FieldMemory) (raw : Mapping) :
    (f.writeOver k memory raw).1.get? "id" = textValue (f.text "id") := by
  have hid : (⟨"id", "id", .text⟩ : Slot) ∈ (Layout.ofKind k).top := by cases k <;> decide
  rw [(same_writeOver_top hid f memory raw).mapping "id" (by decide)]
  simp [Slot.write, Table.get?_put]

end Form

/-! ## Editors -/

namespace Editor

variable {e : Editor} {f : Form} {raw : Mapping}

/-- The id of a document is written as it is: it is left out, or a text that is not empty. -/
def IdStays (raw : Mapping) : Prop :=
  raw.get? "id" = none ∨ ∃ id, raw.get? "id" = some (.string id) ∧ id ≠ ""

/-- The text that is shown for an id is the id if the id stays. -/
theorem idStays_iff : sameValue (textValue (shownAt raw "id")) (raw.get? "id") = true ↔ IdStays raw := by
  unfold IdStays shownAt
  cases hid : raw.get? "id" with
  | none => exact iff_of_true (by decide) (.inl rfl)
  | some v =>
    cases v with
    | string id =>
      by_cases hempty : id = ""
      · subst hempty
        exact iff_of_false (by decide) (by simp)
      · simp [textValue, Json.shownText, hempty, sameValue, Json.agrees_refl]
    | _ =>
      refine iff_of_false ?_ (by simp)
      unfold textValue
      split <;> simp [sameValue, Json.agrees]

/-- An editor that has put aside an edit which spells nothing otherwise still reads the form it wrote before. -/
theorem ofMapping_park (hf : f.Fits e.kind) (hpending : e.isPending = true → e.form.SpelledAlike f e.kind) :
    Form.ofMapping e.kind (e.writeDocument f).2.park.memory (e.mappingOf f).1 = f := by
  unfold park
  split
  · rename_i hp
    exact Form.ofMapping_writeOver_of_spelledAlike hf (hpending hp) e.memory e.raw e.raw
  · exact Form.ofMapping_writeOver hf e.memory e.raw

/-- An editor writes a form with the id of the document that was loaded, and loads what it wrote. The form is shown
again exactly if the id stays, or if the form is shown as it was typed. -/
theorem load_writeDocument_iff (hf : f.Fits e.kind) (hid : f.text "id" = shownAt e.raw "id")
    (hpending : e.isPending = true → e.form.SpelledAlike f e.kind) (hy : e.ReadsBack f) :
    ∃ loaded, (e.writeDocument f).2.load (e.writeDocument f).1 = .ok loaded ∧
      (loaded.form = f ↔ IdStays e.raw ∨ f.ShownAsTyped e.kind) := by
  have hload : (e.writeDocument f).2.load (e.writeDocument f).1 =
      .ok ((e.writeDocument f).2.park.display (e.mappingOf f).1 (e.writeDocument f).1) := by
    rw [load, hy]
    rfl
  refine ⟨_, hload, ?_⟩
  obtain ⟨hkind, hraw⟩ := kind_raw_park (e.writeDocument f).2
  have hwritten : (e.mappingOf f).1.get? "id" = textValue (shownAt e.raw "id") := by
    rw [← hid]
    exact Form.get?_id_writeOver f e.kind e.memory e.raw
  have hform : ((e.writeDocument f).2.park.display (e.mappingOf f).1 (e.writeDocument f).1).form =
      Form.ofMapping e.kind (if sameValue (textValue (shownAt e.raw "id")) (e.raw.get? "id")
        then (e.writeDocument f).2.park.memory else (e.writeDocument f).2.park.memory.forgetTyped)
        (e.mappingOf f).1 := by
    rw [← hwritten]
    simp only [display, hkind, hraw]
    rfl
  rw [hform]
  by_cases hstays : IdStays e.raw
  · rw [if_pos (idStays_iff.2 hstays)]
    exact iff_of_true (ofMapping_park hf hpending) (.inl hstays)
  · -- The memory of typed texts is emptied, so only spellings that are shown anyway come back.
    rw [if_neg (fun h => hstays (idStays_iff.1 h)), or_iff_right hstays]
    exact Form.ofMapping_writeOver_forgotten_iff hf rfl e.memory e.raw

theorem load_writeDocument_iff_typedApi :
    typedApi.Fits loadedApi.kind ∧ typedApi.text "id" = shownAt loadedApi.raw "id" ∧
      loadedApi.isPending = false ∧ loadedApi.ReadsBack typedApi ∧
      ∃ loaded, (loadedApi.writeDocument typedApi).2.load (loadedApi.writeDocument typedApi).1 = .ok loaded ∧
        loaded.form = typedApi := by
  have hf : typedApi.Fits loadedApi.kind := by decide +kernel
  have hid : typedApi.text "id" = shownAt loadedApi.raw "id" := by decide +kernel
  have hpending : loadedApi.isPending = false := by decide +kernel
  have hy : loadedApi.ReadsBack typedApi := by decide +kernel
  have hstays : loadedApi.raw.get? "id" = some (.string "a") := by decide +kernel
  obtain ⟨loaded, hload, hiff⟩ := load_writeDocument_iff hf hid (by simp [hpending]) hy
  exact ⟨hf, hid, hpending, hy, loaded, hload, hiff.2 (.inl (.inr ⟨"a", hstays, by decide⟩))⟩

/-- An editor that shows an API profile with a number for its id. -/
def numberedApi : Editor := ((new .api 300).load "id: 2024\ntimeout: 5\n").toOption.getD (new .api 300)

/-- An editor in which a number was typed in a spelling that is not stored, and is not written yet. -/
def busyApi : Editor :=
  let e := ((new .api 300).load "id: a\ntimeout: 5\n").toOption.getD (new .api 300)
  e.edit (e.form.set "timeout" (.text "+5")) 0

/-- The form of an editor with a number in another spelling. -/
def respelled (e : Editor) : Form := e.form.set "timeout" (.text "05")

/-- The number that is shown after a form was written and loaded. -/
def reloadedTimeout (e : Editor) (f : Form) : Option String :=
  ((e.writeDocument f).2.load (e.writeDocument f).1).toOption.map (·.form.text "timeout")

/-- A number is not shown as it was typed, once as the id was a number itself, and once as a pending edit had it in
another spelling. -/
theorem load_writeDocument_respells :
    ((respelled numberedApi).Fits numberedApi.kind ∧
      (respelled numberedApi).text "id" = shownAt numberedApi.raw "id" ∧ numberedApi.isPending = false ∧
      numberedApi.ReadsBack (respelled numberedApi) ∧
      (respelled numberedApi).text "timeout" = "05" ∧
      reloadedTimeout numberedApi (respelled numberedApi) = some "5") ∧
    ((respelled busyApi).Fits busyApi.kind ∧ (respelled busyApi).text "id" = shownAt busyApi.raw "id" ∧
      busyApi.ReadsBack (respelled busyApi) ∧ (respelled busyApi).text "timeout" = "05" ∧
      reloadedTimeout busyApi (respelled busyApi) = some "+5") := by
  decide +kernel

end Editor

end ProfileKit

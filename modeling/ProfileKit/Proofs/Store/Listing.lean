import ProfileKit.Proofs.Store.Directory

/-!
# What a listing shows

A listing goes through whatever stands in the directory of a kind. It passes over names that are not a valid id
with the extension of the store, over directories, and over links that lead nowhere; what is left are the files of
profiles (`ProfileFile`). Each of them is shown once, by the ids in increasing order (`Lists`), as long as the
bytes of all of them are a text. There the passing over ends: a single file whose bytes are none makes the whole
listing fail, and that is the only way in which it can (`list_unless_unreadable`).
-/

namespace ProfileKit

/-- A loop one of whose steps fails, if all steps that do fail alike. -/
theorem mapM_eq_error {ε α β : Type} {f : α → Except ε β} {e : ε} {xs : List α}
    (hall : ∀ x ∈ xs, (∃ b, f x = .ok b) ∨ f x = .error e) (hsome : ∃ x ∈ xs, f x = .error e) :
    xs.mapM f = .error e := by
  induction xs with
  | nil =>
    obtain ⟨x, hx, -⟩ := hsome
    cases hx
  | cons x xs ih =>
    rw [List.mapM_cons]
    rcases hall x (by simp) with ⟨b, hb⟩ | he
    · have hrest : ∃ y ∈ xs, f y = .error e := by
        obtain ⟨y, hy, hye⟩ := hsome
        rcases List.mem_cons.1 hy with rfl | hy
        · rw [hb] at hye
          cases hye
        · exact ⟨y, hy, hye⟩
      rw [hb, ih (fun y hy => hall y (List.mem_cons_of_mem _ hy)) hrest]
      rfl
    · rw [he]
      rfl

namespace FileTree

variable {t : FileTree} {path : FilePath} {bytes : List UInt8}

/-- The text that bytes are, if they are one. -/
def textOf? (bytes : List UInt8) : Option String := String.fromUTF8? ⟨bytes.toArray⟩

theorem isFile_iff : t.isFile path = true ↔ ∃ bytes, t.node path = .ok (.file bytes) := by
  unfold isFile
  split
  · rename_i bytes hnode
    exact ⟨fun _ => ⟨bytes, hnode⟩, fun _ => rfl⟩
  · rename_i hno
    exact ⟨nofun, fun ⟨bytes, hnode⟩ => absurd hnode (hno bytes)⟩

theorem readText_of_textOf? {text : String} (hnode : t.node path = .ok (.file bytes))
    (htext : textOf? bytes = some text) : t.readText path = .ok text := by
  unfold textOf? at htext
  unfold readText
  simp only [hnode, htext]

theorem readText_of_textOf?_eq_none (hnode : t.node path = .ok (.file bytes)) (htext : textOf? bytes = none) :
    t.readText path = .error .invalidData := by
  unfold textOf? at htext
  unfold readText
  simp only [hnode, htext]

end FileTree

namespace DirectoryStore

open FileTree (textOf?)

variable {d : DirectoryStore} {t : FileTree} {k : Kind} {name id : String} {bytes : List UInt8}

/-- A file in the directory of a kind, or a link to one, whose name is a valid id with the extension of the
store. -/
structure ProfileFile (d : DirectoryStore) (k : Kind) (t : FileTree) (name id : String) (bytes : List UInt8) :
    Prop where
  mem_names : name ∈ t.names (d.kindPath k)
  node : t.node (d.kindPath k ++ [name]) = .ok (.file bytes)
  splitExtension : FilePath.splitExtension name = (id, some d.extension)
  isValid : Id.isValid id = true

/-- A listing has one entry for each file of a profile that is a text, by the ids in increasing order. -/
structure Lists (d : DirectoryStore) (k : Kind) (t : FileTree) (listed : List Summary) : Prop where
  sorted : listed.Pairwise fun a b => a.id < b.id
  mem_iff (s : Summary) : s ∈ listed ↔ ∃ name bytes text, ProfileFile d k t name s.id bytes ∧
    textOf? bytes = some text ∧ s = .ofText k s.id text

/-- The files of the profiles of a kind are texts. -/
def HoldsTexts (d : DirectoryStore) (k : Kind) (t : FileTree) : Prop :=
  ∀ name id bytes, ProfileFile d k t name id bytes → ∃ text, textOf? bytes = some text

/-! ## Files of profiles -/

theorem entryOf?_eq_some_iff {e : String × String} :
    Mirrors.entryOf? d k t name = some e ↔
      e.2 = name ∧ FilePath.splitExtension name = (e.1, some d.extension) ∧
        t.isFile (d.kindPath k ++ [name]) = true ∧ Id.isValid e.1 = true := by
  obtain ⟨id, file⟩ := e
  rcases hsplit : FilePath.splitExtension name with ⟨stem, extension⟩
  simp only [Mirrors.entryOf?, hsplit, Option.ite_none_right_eq_some, Bool.and_eq_true, beq_iff_eq,
    Option.some.injEq, Prod.mk.injEq]
  constructor
  · rintro ⟨⟨⟨hfile, hextension⟩, hvalid⟩, rfl, rfl⟩
    exact ⟨rfl, ⟨rfl, hextension⟩, hfile, hvalid⟩
  · rintro ⟨rfl, ⟨rfl, hextension⟩, hfile, hvalid⟩
    exact ⟨⟨⟨hfile, hextension⟩, hvalid⟩, rfl, rfl⟩

theorem storedFiles_perm (d : DirectoryStore) (k : Kind) (t : FileTree) :
    (d.storedFiles k t).Perm ((t.names (d.kindPath k)).filterMap (Mirrors.entryOf? d k t)) :=
  List.mergeSort_perm _ _

theorem mem_storedFiles :
    (id, name) ∈ d.storedFiles k t ↔ ∃ bytes, ProfileFile d k t name id bytes := by
  rw [(storedFiles_perm d k t).mem_iff, List.mem_filterMap]
  simp only [entryOf?_eq_some_iff, FileTree.isFile_iff]
  constructor
  · rintro ⟨file, hmem, rfl, hsplit, ⟨bytes, hnode⟩, hvalid⟩
    exact ⟨bytes, hmem, hnode, hsplit, hvalid⟩
  · rintro ⟨bytes, h⟩
    exact ⟨name, h.mem_names, rfl, h.splitExtension, ⟨bytes, h.node⟩, h.isValid⟩

/-- A file is named by the id and the extension, so an id has one file only. -/
theorem nodup_ids_storedFiles (hs : Table.Sorted t) : ((d.storedFiles k t).map Prod.fst).Nodup := by
  refine (((storedFiles_perm d k t).map Prod.fst).nodup_iff).2 ?_
  rw [List.map_filterMap]
  refine List.Nodup.filterMap (fun file file' i hi hi' => ?_) (FileTree.nodup_names hs _)
  obtain ⟨e, he, rfl⟩ := Option.map_eq_some_iff.1 hi
  obtain ⟨e', he', heq⟩ := Option.map_eq_some_iff.1 hi'
  have hsplit := (entryOf?_eq_some_iff.1 he).2.1
  have hsplit' := (entryOf?_eq_some_iff.1 he').2.1
  rw [heq] at hsplit'
  rw [(FilePath.splitExtension_eq_some_iff.1 hsplit).1, (FilePath.splitExtension_eq_some_iff.1 hsplit').1]

theorem sorted_storedFiles (hs : Table.Sorted t) :
    (d.storedFiles k t).Pairwise fun a b => a.1 < b.1 := by
  have hle : (d.storedFiles k t).Pairwise fun a b => (!decide (b.1 < a.1)) = true := by
    refine List.pairwise_mergeSort (fun a b c hab hbc => ?_) (fun a b => ?_) _
    · rw [Mirrors.not_after_iff] at *
      exact hab.trans hbc
    · rw [Bool.or_eq_true, Mirrors.not_after_iff, Mirrors.not_after_iff]
      exact le_total a.1 b.1
  have hne := List.pairwise_map.1 (nodup_ids_storedFiles (d := d) (k := k) hs)
  exact (hle.and hne).imp fun h => lt_of_le_of_ne (Mirrors.not_after_iff.1 h.1) h.2

/-- Whether the files of profiles are texts is seen by going through the names in the directory. -/
theorem holdsTexts_of_names
    (h : ∀ file ∈ t.names (d.kindPath k), ∀ e ∈ Mirrors.entryOf? d k t file,
      (t.readText (d.kindPath k ++ [e.2])).toOption ≠ none) : HoldsTexts d k t := by
  intro file i b hf
  have hentry : Mirrors.entryOf? d k t file = some (i, file) :=
    entryOf?_eq_some_iff.2 ⟨rfl, hf.splitExtension, FileTree.isFile_iff.2 ⟨b, hf.node⟩, hf.isValid⟩
  have hread := h file hf.mem_names _ hentry
  cases htext : textOf? b with
  | some text => exact ⟨text, rfl⟩
  | none =>
    rw [FileTree.readText_of_textOf?_eq_none hf.node htext] at hread
    exact absurd rfl hread

/-! ## Listings -/

/-- The entry that is shown for a file that was found. -/
def summaryOf (d : DirectoryStore) (k : Kind) (t : FileTree) (found : String × String) : Summary :=
  .ofText k found.1 ((t.readText (d.kindPath k ++ [found.2])).toOption.getD "")

theorem ProfileFile.summaryOf_eq {text : String} (h : ProfileFile d k t name id bytes)
    (htext : textOf? bytes = some text) : summaryOf d k t (id, name) = .ofText k id text := by
  simp only [summaryOf, FileTree.readText_of_textOf? h.node htext]
  rfl

theorem lists_storedFiles (hs : Table.Sorted t) (h : HoldsTexts d k t) :
    Lists d k t ((d.storedFiles k t).map (summaryOf d k t)) where
  sorted := List.pairwise_map.2 (sorted_storedFiles hs)
  mem_iff s := by
    rw [List.mem_map]
    constructor
    · rintro ⟨⟨i, file⟩, he, rfl⟩
      obtain ⟨b, hf⟩ := mem_storedFiles.1 he
      obtain ⟨text, htext⟩ := h file i b hf
      exact ⟨file, b, text, hf, htext, hf.summaryOf_eq htext⟩
    · rintro ⟨file, b, text, hf, htext, hsummary⟩
      exact ⟨(s.id, file), mem_storedFiles.2 ⟨b, hf⟩, (hf.summaryOf_eq htext).trans hsummary.symm⟩

theorem list_of_holdsTexts (h : HoldsTexts d k t) :
    d.list k t = .ok ((d.storedFiles k t).map (summaryOf d k t)) := by
  refine mapM_eq_ok fun e he => ?_
  obtain ⟨i, file⟩ := e
  obtain ⟨b, hf⟩ := mem_storedFiles.1 he
  obtain ⟨text, htext⟩ := h file i b hf
  simp only [FileTree.readText_of_textOf? hf.node htext, hf.summaryOf_eq htext]

theorem list_of_not_text (hf : ProfileFile d k t name id bytes) (hno : textOf? bytes = none) :
    d.list k t = .error (errorOf .invalidData) := by
  refine mapM_eq_error (fun e he => ?_) ⟨(id, name), mem_storedFiles.2 ⟨bytes, hf⟩, ?_⟩
  · obtain ⟨i, file⟩ := e
    obtain ⟨b, hfile⟩ := mem_storedFiles.1 he
    cases htext : textOf? b with
    | some text =>
      left
      simp only [FileTree.readText_of_textOf? hfile.node htext]
      exact ⟨_, rfl⟩
    | none =>
      right
      simp only [FileTree.readText_of_textOf?_eq_none hfile.node htext]
  · simp only [FileTree.readText_of_textOf?_eq_none hf.node hno]

/-- Whatever stands in the directory of a kind, a listing shows the files of profiles, if all of them are texts.
One that is not is not passed over, but makes the listing fail. -/
theorem list_unless_unreadable (hs : Table.Sorted t) (d : DirectoryStore) (k : Kind) :
    (HoldsTexts d k t → ∃ listed, d.list k t = .ok listed ∧ Lists d k t listed) ∧
      (¬ HoldsTexts d k t → d.list k t = .error (errorOf .invalidData)) := by
  refine ⟨fun h => ⟨_, list_of_holdsTexts h, lists_storedFiles hs h⟩, fun h => ?_⟩
  simp only [HoldsTexts, not_forall, not_exists] at h
  obtain ⟨name, id, bytes, hf, hno⟩ := h
  exact list_of_not_text hf (Option.eq_none_iff_forall_not_mem.2 hno)

def yamlProfiles : DirectoryStore := ⟨["profiles"], "yaml"⟩

/-- A directory in which a profile, a link to one, and much else stands. -/
def crowdedChunks : FileTree :=
  [(["profiles"], .directory), (["profiles", "chunk"], .directory),
    (["profiles", "chunk", "a.yaml"], .link "/shared.yaml"), (["profiles", "chunk", "b.txt"], .file [255]),
    (["profiles", "chunk", "b.yaml"], .file "name: B\n".toUTF8.toList),
    (["profiles", "chunk", "bad id.yaml"], .file [255]), (["profiles", "chunk", "c.yaml"], .directory),
    (["profiles", "chunk", "ghost.yaml"], .link "gone"), (["shared.yaml"], .file "id: s\n".toUTF8.toList)]

theorem list_unless_unreadable_crowdedChunks :
    ∃ listed, yamlProfiles.list .chunk crowdedChunks = .ok listed ∧
      Lists yamlProfiles .chunk crowdedChunks listed ∧ ⟨"a", none⟩ ∈ listed ∧ ⟨"b", some "B"⟩ ∈ listed := by
  have hs : Table.Sorted crowdedChunks := by unfold Table.Sorted; decide
  have htexts : HoldsTexts yamlProfiles .chunk crowdedChunks := holdsTexts_of_names (by decide +kernel)
  obtain ⟨listed, hlist, hlists⟩ := (list_unless_unreadable hs yamlProfiles .chunk).1 htexts
  have ha : ProfileFile yamlProfiles .chunk crowdedChunks "a.yaml" "a" "id: s\n".toUTF8.toList :=
    ⟨by decide +kernel, by decide +kernel, by decide +kernel, by decide⟩
  have hb : ProfileFile yamlProfiles .chunk crowdedChunks "b.yaml" "b" "name: B\n".toUTF8.toList :=
    ⟨by decide +kernel, by decide +kernel, by decide +kernel, by decide⟩
  exact ⟨listed, hlist, hlists, (hlists.mem_iff _).2 ⟨_, _, _, ha, fromUTF8?_toUTF8 _, by decide +kernel⟩,
    (hlists.mem_iff _).2 ⟨_, _, _, hb, fromUTF8?_toUTF8 _, by decide +kernel⟩⟩

/-- A profile, and a file that has the name of one but holds no text. -/
def brokenChunks : FileTree :=
  [(["profiles"], .directory), (["profiles", "chunk"], .directory),
    (["profiles", "chunk", "a.yaml"], .file [255]),
    (["profiles", "chunk", "b.yaml"], .file "name: B\n".toUTF8.toList)]

/-- The file that cannot be read takes the profile that can with it. -/
theorem list_brokenChunks :
    ProfileFile yamlProfiles .chunk brokenChunks "b.yaml" "b" "name: B\n".toUTF8.toList ∧
      yamlProfiles.list .chunk brokenChunks = .error (.storage "IOError: invalid data") ∧
      ¬ ∃ listed, yamlProfiles.list .chunk brokenChunks = .ok listed ∧
        Lists yamlProfiles .chunk brokenChunks listed := by
  have ha : ProfileFile yamlProfiles .chunk brokenChunks "a.yaml" "a" [255] :=
    ⟨by decide +kernel, by decide +kernel, by decide +kernel, by decide⟩
  have herror := list_of_not_text ha (by decide +kernel)
  refine ⟨⟨by decide +kernel, by decide +kernel, by decide +kernel, by decide⟩, herror, ?_⟩
  rintro ⟨listed, hlist, -⟩
  rw [herror] at hlist
  cases hlist

end DirectoryStore
end ProfileKit

import ProfileKit.CommandLine
import ProfileKit.Proofs.Store.Listing

/-!
# What is listed of what was saved

A save puts the extension of the store behind the id, as it stands, and a load looks for the same name. A listing
goes the other way: it takes the names of the files apart, each at its last point. That gives the id and the
extension back if there is no point in the extension, and never otherwise (`Saved.profileFile_iff`). So what was
saved is loaded under every extension, but listed only under one without a point
(`CommandLine.directory_listed_iff_of_save`); of the extension in the settings, the points at its start do not count.
-/

namespace ProfileKit

namespace DirectoryStore

variable {d : DirectoryStore} {t t' : FileTree} {r : FilePath} {k : Kind} {id text : String} {overwrite : Bool}
  {warnings : List String} {p : Profile}

/-- The file of a profile holds its text, in a tree of texts. The directory of the kind is `r`. -/
structure Saved (d : DirectoryStore) (k : Kind) (id text : String) (r : FilePath) (t : FileTree) : Prop where
  sorted : Table.Sorted t
  ofTexts : t.OfTexts
  isValid : Id.isValid id = true
  leads : t.Leads (d.kindPath k) r
  get?_file : t.get? (r ++ [d.fileOf id]) = some (.file text.toUTF8.toList)

/-! ## Saving -/

theorem isValid_of_filePath {path : FilePath} (h : d.filePath k id = .ok path) : Id.isValid id = true := by
  unfold filePath Id.check at h
  split at h
  · assumption
  · cases h

/-- A save that succeeds has found no file that it must not replace, and has written the text. -/
theorem save_eq_ok (h : d.save k id text overwrite t = (.ok warnings, t')) :
    ∃ path t₁, d.filePath k id = .ok path ∧ checkFree path k id overwrite t = .ok () ∧
      t.makeDirectories (d.kindPath k) = .ok t₁ ∧ t₁.writeText path text = .ok t' ∧ warnings = [] := by
  unfold save at h
  split at h
  · cases h
  · rename_i path hpath
    split at h
    · cases h
    · rename_i hfree
      split at h
      · cases h
      · rename_i t₁ hmade
        split at h
        · cases h
        · rename_i t₂ hwritten
          cases h
          exact ⟨path, t₁, hpath, hfree, hmade, hwritten, rfl⟩

theorem saved_of_save (hslash : '/' ∉ d.extension.toList) (hs : Table.Sorted t) (ht : t.OfTexts)
    (h : d.save k id text overwrite t = (.ok warnings, t')) : ∃ r, Saved d k id text r t' := by
  obtain ⟨path, t₁, hpath, -, hmade, hwritten, -⟩ := save_eq_ok h
  have hid : Id.isValid id = true := isValid_of_filePath hpath
  rw [filePath_eq hslash hid k] at hpath
  obtain rfl := Except.ok.inj hpath
  obtain ⟨hs₁, ht₁⟩ : Table.Sorted t₁ ∧ t₁.OfTexts :=
    FileTree.makeDirectories_keeps (P := fun t => Table.Sorted t ∧ t.OfTexts)
      (fun t q hq => ⟨Table.sorted_insert hq.1 _ _, hq.2.insert q (.inl rfl)⟩) ⟨hs, ht⟩ hmade
  obtain ⟨r, hleads, rfl, hfree⟩ := ht₁.writeText_eq_ok (fileOf_ne hid (.inr rfl)) hwritten
  exact ⟨r, {
    sorted := Table.sorted_insert hs₁ _ _
    ofTexts := ht₁.insert _ (.inr ⟨text, rfl⟩)
    isValid := hid
    leads := hleads.of_keepsWays (FileTree.keepsWays_put hfree (some _))
    get?_file := by rw [Table.get?_insert, if_pos rfl] }⟩

/-! ## Looking for what was saved -/

theorem holdsTexts_of_ofTexts (ht : t.OfTexts) (d : DirectoryStore) (k : Kind) : HoldsTexts d k t := by
  intro name i bytes hf
  have hnode := hf.node
  unfold FileTree.node at hnode
  split at hnode
  · rename_i q n hwalk
    obtain rfl := Except.ok.inj hnode
    have hg := (FileTree.get?_of_walkFrom hwalk).resolve_left nofun
    obtain ⟨text, htext⟩ := (ht _ (Table.mem_of_get? hg)).resolve_left nofun
    obtain rfl := FileNode.file.inj htext
    exact ⟨text, fromUTF8?_toUTF8 text⟩
  · cases hnode
  · cases hnode

namespace Saved

theorem walk_file (h : Saved d k id text r t) :
    t.walk true (d.kindPath k ++ [d.fileOf id]) =
      .ok (.found (r ++ [d.fileOf id]) (.file text.toUTF8.toList)) :=
  h.leads.walk_found (fileOf_ne h.isValid (.inr rfl)) h.get?_file nofun true

theorem load (hslash : '/' ∉ d.extension.toList) (h : Saved d k id text r t) (hp : Profile.parse k text = .ok p) :
    d.load k id t = .ok ⟨p, text⟩ := by
  rw [load_eq hslash h.isValid, FileTree.readText_of_found h.walk_file]
  change StoredProfile.ofText k text = _
  rw [StoredProfile.ofText, hp]
  rfl

/-- The name of the file is taken apart as it was put together exactly if the extension has no point. -/
theorem profileFile_iff (h : Saved d k id text r t) :
    (∃ name bytes, ProfileFile d k t name id bytes) ↔ '.' ∉ d.extension.toList := by
  constructor
  · rintro ⟨name, bytes, hf⟩
    exact (FilePath.splitExtension_eq_some_iff.1 hf.splitExtension).2.2
  · intro hpoint
    refine ⟨d.fileOf id, text.toUTF8.toList, ?_, ?_, splitExtension_fileOf hpoint h.isValid, h.isValid⟩
    · exact (FileTree.mem_names h.sorted h.leads).2 ⟨_, h.get?_file⟩
    · unfold FileTree.node
      rw [h.walk_file]

theorem list (h : Saved d k id text r t) :
    ∃ listed, d.list k t = .ok listed ∧ (id ∈ listed.map Summary.id ↔ '.' ∉ d.extension.toList) := by
  have htexts : HoldsTexts d k t := holdsTexts_of_ofTexts h.ofTexts d k
  refine ⟨_, list_of_holdsTexts htexts, ?_⟩
  rw [← h.profileFile_iff, List.mem_map]
  simp only [(lists_storedFiles h.sorted htexts).mem_iff]
  constructor
  · rintro ⟨s, ⟨name, bytes, -, hf, -, -⟩, rfl⟩
    exact ⟨name, bytes, hf⟩
  · rintro ⟨name, bytes, hf⟩
    obtain ⟨content, hcontent⟩ := htexts name id bytes hf
    exact ⟨.ofText k id content, ⟨name, bytes, content, hf, hcontent, rfl⟩, rfl⟩

end Saved
end DirectoryStore

namespace CommandLine

variable {w : Surroundings} {s : Settings} {t t' : FileTree}

/-- The extension of the settings counts without the points at its start. -/
theorem noSlash_directory (hslash : '/' ∉ s.extension.toList) : '/' ∉ (directory w s).extension.toList := by
  intro hmem
  rw [directory, String.toList_ofList] at hmem
  exact hslash ((List.dropWhile_suffix _).subset hmem)

/-- What is saved in the directory that the settings name is loaded, byte for byte, under any extension. It is
listed exactly if the extension has no point but at its start. -/
theorem directory_listed_iff_of_save (w : Surroundings) (hslash : '/' ∉ s.extension.toList)
    (hs : Table.Sorted t) (ht : t.OfTexts) {k : Kind} {id text : String} {p : Profile}
    (hp : Profile.parse k text = .ok p) {overwrite : Bool} {warnings : List String}
    (h : (directory w s).save k id text overwrite t = (.ok warnings, t')) :
    (directory w s).load k id t' = .ok ⟨p, text⟩ ∧
      ∃ listed, (directory w s).list k t' = .ok listed ∧
        (id ∈ listed.map Summary.id ↔ '.' ∉ (directory w s).extension.toList) := by
  obtain ⟨r, hsaved⟩ := DirectoryStore.saved_of_save (noSlash_directory hslash) hs ht h
  exact ⟨hsaved.load (noSlash_directory hslash) hp, hsaved.list⟩

def atHome : Surroundings := ⟨"profiles", [], ["home"], ""⟩

def homeTree : FileTree := [(["home"], .directory), (["home", "notes"], .file "to do\n".toUTF8.toList)]

theorem sorted_homeTree : Table.Sorted homeTree := by unfold Table.Sorted; decide

theorem ofTexts_homeTree : homeTree.OfTexts := by
  intro e he
  simp only [homeTree, List.mem_cons, List.not_mem_nil, or_false] at he
  rcases he with rfl | rfl
  · exact .inl rfl
  · exact .inr ⟨_, rfl⟩

def namedChunk : String := "id: b\nname: B\ntype: line\n"

theorem parse_namedChunk :
    Profile.parse .chunk namedChunk = .ok (.chunk ⟨some "b", some "B", some "line", none, []⟩) := by
  decide +kernel

/-- The tree after the chunk profile has been saved in it, under an extension. -/
def homeTreeWith (extension : String) : FileTree :=
  [(["home"], .directory), (["home", "notes"], .file "to do\n".toUTF8.toList),
    (["home", "profiles"], .directory), (["home", "profiles", "chunk"], .directory),
    (["home", "profiles", "chunk", "b." ++ extension], .file namedChunk.toUTF8.toList)]

theorem directory_listed_iff_of_save_pointFirst :
    let d := directory atHome { Settings.default with extension := ".yml" }
    d.save .chunk "b" namedChunk false homeTree = (.ok [], homeTreeWith "yml") ∧
      (∃ p, d.load .chunk "b" (homeTreeWith "yml") = .ok ⟨p, namedChunk⟩) ∧
      ∃ listed, d.list .chunk (homeTreeWith "yml") = .ok listed ∧ "b" ∈ listed.map Summary.id := by
  intro d
  have hsave : d.save .chunk "b" namedChunk false homeTree = (.ok [], homeTreeWith "yml") := by decide +kernel
  obtain ⟨hload, listed, hlist, hmem⟩ :=
    directory_listed_iff_of_save atHome (by decide) sorted_homeTree ofTexts_homeTree parse_namedChunk hsave
  exact ⟨hsave, ⟨_, hload⟩, listed, hlist, hmem.2 (by decide)⟩

/-- With a point in the extension, what was saved is there but is not listed. -/
theorem directory_unlisted_innerPoint :
    let d := directory atHome { Settings.default with extension := "profile.yaml" }
    d.save .chunk "b" namedChunk false homeTree = (.ok [], homeTreeWith "profile.yaml") ∧
      d.load .chunk "b" (homeTreeWith "profile.yaml") =
        .ok ⟨.chunk ⟨some "b", some "B", some "line", none, []⟩, namedChunk⟩ ∧
      ∃ listed, d.list .chunk (homeTreeWith "profile.yaml") = .ok listed ∧ "b" ∉ listed.map Summary.id := by
  intro d
  have hslash : '/' ∉ d.extension.toList := by decide
  have hsave : d.save .chunk "b" namedChunk false homeTree = (.ok [], homeTreeWith "profile.yaml") := by
    decide +kernel
  obtain ⟨r, hsaved⟩ := DirectoryStore.saved_of_save hslash sorted_homeTree ofTexts_homeTree hsave
  obtain ⟨listed, hlist, hmem⟩ := hsaved.list
  exact ⟨hsave, hsaved.load hslash parse_namedChunk, listed, hlist, fun h => hmem.1 h (by decide)⟩

end CommandLine
end ProfileKit

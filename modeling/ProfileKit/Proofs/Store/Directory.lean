import ProfileKit.Proofs.FileTree
import ProfileKit.Proofs.Store.Memory
import ProfileKit.Store.Directory

/-!
# What a store in a directory holds

A store in a directory does what a store in memory does, call for call, as long as nothing but its own files
stands in its directory. `DirectoryStore.Mirrors` is what holds between the file tree and the table in memory
after every call: the file of a profile holds its text, and no other file is there. Each call tells the same on
both sides and keeps this (`Mirrors.list`, `Mirrors.load`, `Mirrors.save`, `Mirrors.delete`).
-/

namespace ProfileKit

/-- A loop none of whose steps fails. -/
theorem mapM_eq_ok {ε α β : Type} {f : α → Except ε β} {g : α → β} {xs : List α}
    (h : ∀ x ∈ xs, f x = .ok (g x)) : xs.mapM f = .ok (xs.map g) := by
  induction xs with
  | nil => rfl
  | cons x xs ih =>
    rw [List.mapM_cons, h x (by simp), ih fun y hy => h y (List.mem_cons_of_mem _ hy)]
    rfl

/-! ## Names of files -/

theorem Kind.name_ne_up (k : Kind) : k.name ≠ ".." := by
  cases k <;> decide

namespace DirectoryStore

variable {d : DirectoryStore} {r : FilePath} {t : FileTree} {s : MemoryStore} {k : Kind} {id text : String}

/-- The name of the file of a profile. -/
def fileOf (d : DirectoryStore) (id : String) : String := id ++ "." ++ d.extension

/-- Neither a point nor a slash is in the extension. -/
structure PlainExtension (d : DirectoryStore) : Prop where
  noPoint : '.' ∉ d.extension.toList
  noSlash : '/' ∉ d.extension.toList

theorem fileOf_inj {id' : String} : d.fileOf id = d.fileOf id' ↔ id = id' := by
  refine ⟨fun h => ?_, fun h => by rw [h]⟩
  rw [fileOf, fileOf, ← String.toList_inj] at h
  simp only [String.toList_append] at h
  exact String.toList_inj.1 (List.append_cancel_right (List.append_cancel_right h))

/-- The name of a file starts as the id does, so it is none of the names with a meaning of their own. -/
theorem fileOf_ne (hid : Id.isValid id = true) {name : String}
    (hname : name.toList.head? = none ∨ name.toList.head? = some '.') : d.fileOf id ≠ name := by
  obtain ⟨c, cs, hcs, hc⟩ := Id.exists_start_of_isValid hid
  rintro rfl
  simp only [fileOf, String.toList_append, hcs, List.cons_append, List.head?_cons] at hname
  rcases hname with hname | hname
  · cases hname
  · obtain rfl := Option.some.inj hname
    exact absurd hc (by decide)

theorem filePath_eq (hd : '/' ∉ d.extension.toList) (hid : Id.isValid id = true) (k : Kind) :
    d.filePath k id = .ok (d.kindPath k ++ [d.fileOf id]) := by
  have hslash : '/' ∉ (d.fileOf id).toList := by
    simp [fileOf, Id.noSlash_of_isValid hid, hd]
  have hparts : FilePath.parts (d.fileOf id) = [d.fileOf id] :=
    FilePath.parts_eq_singleton hslash (fileOf_ne hid (.inl rfl)) (fileOf_ne hid (.inr rfl))
  rw [← hparts, filePath, Id.check, if_pos hid]
  rfl

/-- A load reads the file, and then what is in it. -/
theorem load_eq (hd : '/' ∉ d.extension.toList) (hid : Id.isValid id = true) (k : Kind) (t : FileTree) :
    d.load k id t = (t.readText (d.kindPath k ++ [d.fileOf id])).mapError (profileError k id) >>=
      StoredProfile.ofText k := by
  unfold load readText
  rw [filePath_eq hd hid k]
  rfl

theorem splitExtension_fileOf (hd : '.' ∉ d.extension.toList) (hid : Id.isValid id = true) :
    FilePath.splitExtension (d.fileOf id) = (id, some d.extension) := by
  refine FilePath.splitExtension_append ?_ hd
  rintro rfl
  cases hid

/-! ## What is in the tree -/

/-- The store in the directory `r` holds the texts of `s`, and nothing else is in the directories of the kinds. -/
structure Mirrors (d : DirectoryStore) (r : FilePath) (t : FileTree) (s : MemoryStore) : Prop where
  sorted : Table.Sorted t
  wellFormed : s.WellFormed
  leads : t.Leads d.root r
  /-- The directory of a kind is made when something is saved in it, and stays. -/
  directory (k : Kind) : t.get? (r ++ [k.name]) = some .directory ∨
    t.get? (r ++ [k.name]) = none ∧ ∀ id, s.get? ⟨k, id⟩ = none
  file (k : Kind) (name : String) (n : FileNode) : t.get? (r ++ [k.name] ++ [name]) = some n ↔
    ∃ id text, s.get? ⟨k, id⟩ = some text ∧ name = d.fileOf id ∧ n = .file text.toUTF8.toList

/-- An empty directory is an empty store. -/
theorem mirrors_nil (hs : Table.Sorted t) (hl : t.Leads d.root r)
    (hempty : ∀ q, q ≠ [] → t.get? (r ++ q) = none) : Mirrors d r t [] where
  sorted := hs
  wellFormed := MemoryStore.wellFormed_nil
  leads := hl
  directory k := .inr ⟨hempty [k.name] (by simp), fun _ => rfl⟩
  file k name n := by
    rw [List.append_assoc, hempty _ (by simp)]
    simp [Table.get?]

namespace Mirrors

theorem isValid (h : Mirrors d r t s) (hg : s.get? ⟨k, id⟩ = some text) : Id.isValid id = true :=
  h.wellFormed.isValid (Table.contains_iff.2 ⟨text, hg⟩)

theorem get?_stored (h : Mirrors d r t s) (hg : s.get? ⟨k, id⟩ = some text) :
    t.get? (r ++ [k.name] ++ [d.fileOf id]) = some (.file text.toUTF8.toList) :=
  (h.file k _ _).2 ⟨id, text, hg, rfl, rfl⟩

theorem get?_missing (h : Mirrors d r t s) (hg : s.get? ⟨k, id⟩ = none) :
    t.get? (r ++ [k.name] ++ [d.fileOf id]) = none := by
  by_contra hno
  obtain ⟨n, hn⟩ := Option.ne_none_iff_exists'.1 hno
  obtain ⟨id', text, hg', hname, -⟩ := (h.file k _ n).1 hn
  rw [fileOf_inj] at hname
  subst hname
  rw [hg] at hg'
  cases hg'

theorem directory_of_stored (h : Mirrors d r t s) (hg : s.get? ⟨k, id⟩ = some text) :
    t.get? (r ++ [k.name]) = some .directory := by
  refine (h.directory k).resolve_right fun ⟨_, hno⟩ => ?_
  rw [hno id] at hg
  cases hg

theorem leads_kind (h : Mirrors d r t s) (hk : t.get? (r ++ [k.name]) = some .directory) :
    t.Leads (d.kindPath k) (r ++ [k.name]) := h.leads.child k.name_ne_up hk

/-- The file of a stored profile is found, whether links are followed or not. -/
theorem walk_stored (h : Mirrors d r t s) (hg : s.get? ⟨k, id⟩ = some text) (follow : Bool) :
    t.walk follow (d.kindPath k ++ [d.fileOf id]) =
      .ok (.found (r ++ [k.name] ++ [d.fileOf id]) (.file text.toUTF8.toList)) := by
  have hup : d.fileOf id ≠ ".." := fileOf_ne (h.isValid hg) (.inr rfl)
  exact (h.leads_kind (h.directory_of_stored hg)).walk_found hup (h.get?_stored hg) nofun follow

/-- Without a stored profile there is no file, and maybe no directory for it either. -/
theorem walk_missing (h : Mirrors d r t s) (hid : Id.isValid id = true) (hg : s.get? ⟨k, id⟩ = none)
    (follow : Bool) :
    t.walk follow (d.kindPath k ++ [d.fileOf id]) = .error .notFound ∨
      ∃ p, t.walk follow (d.kindPath k ++ [d.fileOf id]) = .ok (.free p) := by
  have hup : d.fileOf id ≠ ".." := fileOf_ne hid (.inr rfl)
  rcases h.directory k with hk | ⟨hk, -⟩
  · exact .inr ⟨_, (h.leads_kind hk).walk_free hup (h.get?_missing hg) follow⟩
  · left
    rw [kindPath, List.append_assoc, List.singleton_append]
    exact h.leads.walk_missing k.name_ne_up hk (by simp) follow

/-! ## Changes of the tree -/

theorem insert_directory (h : Mirrors d r t s) (hk : t.get? (r ++ [k.name]) = none) :
    Mirrors d r (Table.insert (r ++ [k.name]) .directory t) s where
  sorted := Table.sorted_insert h.sorted _ _
  wellFormed := h.wellFormed
  leads := by
    refine h.leads.of_keepsWays (FileTree.keepsWays_put (fun m hm => ?_) (some .directory))
    rw [hk] at hm
    cases hm
  directory j := by
    rw [Table.get?_insert]
    split
    · exact .inl rfl
    · exact h.directory j
  file j name n := by
    rw [Table.get?_insert, if_neg (by simp)]
    exact h.file j name n

/-- A file and the text under its key change together. -/
theorem put_file (h : Mirrors d r t s) (hk : t.get? (r ++ [k.name]) = some .directory)
    (hid : Id.isValid id = true) (value : Option String) :
    Mirrors d r
      (t.put (r ++ [k.name] ++ [d.fileOf id]) (value.map fun text => .file text.toUTF8.toList))
      (s.put ⟨k, id⟩ value) where
  sorted := Table.sorted_put h.sorted _ _
  wellFormed := by
    cases value with
    | none => exact h.wellFormed.erase ⟨k, id⟩
    | some text => exact h.wellFormed.insert ⟨k, id⟩ hid text
  leads := by
    refine h.leads.of_keepsWays (FileTree.keepsWays_put (fun m hm => ?_) _)
    obtain ⟨-, text, -, -, rfl⟩ := (h.file k _ m).1 hm
    exact ⟨_, rfl⟩
  directory j := by
    rw [Table.get?_put, if_neg (by simp)]
    refine (h.directory j).imp_right fun ⟨hj, hno⟩ => ⟨hj, fun id' => ?_⟩
    rw [Table.get?_put, if_neg, hno]
    rintro ⟨⟩
    rw [hj] at hk
    cases hk
  file j name n := by
    rw [Table.get?_put]
    by_cases hplace : j = k ∧ name = d.fileOf id
    · obtain ⟨rfl, rfl⟩ := hplace
      rw [if_pos rfl, Option.map_eq_some_iff]
      constructor
      · rintro ⟨text, hvalue, rfl⟩
        exact ⟨id, text, by rw [Table.get?_put, if_pos rfl, hvalue], rfl, rfl⟩
      · rintro ⟨id', text, hg, hname, rfl⟩
        rw [fileOf_inj] at hname
        subst hname
        rw [Table.get?_put, if_pos rfl] at hg
        exact ⟨text, hg, rfl⟩
    · -- Whatever else the directories hold is under another key on the other side.
      rw [if_neg, h.file j name n]
      · have hother (id' : String) (hname : name = d.fileOf id') :
            (s.put ⟨k, id⟩ value).get? ⟨j, id'⟩ = s.get? ⟨j, id'⟩ := by
          rw [Table.get?_put, if_neg]
          rintro ⟨⟩
          exact hplace ⟨rfl, hname⟩
        constructor
        · rintro ⟨id', text, hg, hname, hn⟩
          exact ⟨id', text, by rw [hother id' hname, hg], hname, hn⟩
        · rintro ⟨id', text, hg, hname, hn⟩
          exact ⟨id', text, by rw [← hother id' hname, hg], hname, hn⟩
      · intro he
        obtain ⟨hkind, hname⟩ := List.append_inj' he rfl
        have hkind := List.append_cancel_left hkind
        exact hplace ⟨Kind.name_inj (List.singleton_inj.1 hkind).symm, (List.singleton_inj.1 hname).symm⟩

theorem makeDirectories (h : Mirrors d r t s) (k : Kind) :
    ∃ t', t.makeDirectories (d.kindPath k) = .ok t' ∧ Mirrors d r t' s ∧
      t'.get? (r ++ [k.name]) = some .directory := by
  rcases h.directory k with hk | ⟨hk, -⟩
  · have hw := h.leads.walk_found k.name_ne_up hk nofun false
    exact ⟨t, FileTree.makeDirectories_of_found (h.leads_kind hk) hw, h, hk⟩
  · have hw := h.leads.walk_free k.name_ne_up hk false
    have hmade : (Table.insert (r ++ [k.name]) .directory t).get? (r ++ [k.name]) = some .directory := by
      rw [Table.get?_insert, if_pos rfl]
    exact ⟨_, FileTree.makeDirectories_of_free hw, h.insert_directory hk, hmade⟩

/-! ## Calls -/

theorem node_stored (h : Mirrors d r t s) (hg : s.get? ⟨k, id⟩ = some text) :
    t.node (d.kindPath k ++ [d.fileOf id]) = .ok (.file text.toUTF8.toList) := by
  unfold FileTree.node
  rw [h.walk_stored hg]

theorem node_missing (h : Mirrors d r t s) (hid : Id.isValid id = true) (hg : s.get? ⟨k, id⟩ = none) :
    t.node (d.kindPath k ++ [d.fileOf id]) = .error .notFound := by
  unfold FileTree.node
  rcases h.walk_missing hid hg true with hw | ⟨p, hw⟩ <;> rw [hw]

theorem load (hd : d.PlainExtension) (h : Mirrors d r t s) (k : Kind) (hid : Id.isValid id = true) :
    d.load k id t = MemoryStore.load k id s := by
  rw [load_eq hd.noSlash hid, MemoryStore.load]
  cases hg : s.get? ⟨k, id⟩ with
  | some text =>
    rw [FileTree.readText_of_found (h.walk_stored hg true)]
    rfl
  | none =>
    have hread : t.readText (d.kindPath k ++ [d.fileOf id]) = .error .notFound := by
      unfold FileTree.readText
      rw [h.node_missing hid hg]
    rw [hread]
    rfl

theorem checkFree_eq (h : Mirrors d r t s) (k : Kind) (hid : Id.isValid id = true) (overwrite : Bool) :
    checkFree (d.kindPath k ++ [d.fileOf id]) k id overwrite t =
      if !overwrite && s.contains ⟨k, id⟩ then .error (.conflict (Key.render ⟨k, id⟩)) else .ok () := by
  unfold checkFree FileTree.exists? Table.contains
  cases hg : s.get? ⟨k, id⟩ with
  | some text =>
    rw [h.node_stored hg]
    cases overwrite <;> rfl
  | none =>
    rw [h.node_missing hid hg]
    cases overwrite <;> rfl

theorem writeText (h : Mirrors d r t s) (hk : t.get? (r ++ [k.name]) = some .directory)
    (hid : Id.isValid id = true) (text : String) :
    t.writeText (d.kindPath k ++ [d.fileOf id]) text =
      .ok (Table.insert (r ++ [k.name] ++ [d.fileOf id]) (.file text.toUTF8.toList) t) := by
  unfold FileTree.writeText FileTree.writeBytes
  cases hg : s.get? ⟨k, id⟩ with
  | some old => rw [h.walk_stored hg]
  | none =>
    have hup : d.fileOf id ≠ ".." := fileOf_ne hid (.inr rfl)
    rw [(h.leads_kind hk).walk_free hup (h.get?_missing hg)]

theorem save (hd : d.PlainExtension) (h : Mirrors d r t s) (k : Kind) (hid : Id.isValid id = true)
    (text : String) (overwrite : Bool) :
    ∃ t', d.save k id text overwrite t = ((MemoryStore.save k id text overwrite s).1, t') ∧
      Mirrors d r t' (MemoryStore.save k id text overwrite s).2 := by
  unfold DirectoryStore.save MemoryStore.save
  rw [filePath_eq hd.noSlash hid k, Id.check, if_pos hid]
  simp only [h.checkFree_eq k hid]
  cases !overwrite && s.contains ⟨k, id⟩ with
  | true => exact ⟨t, rfl, h⟩
  | false =>
    obtain ⟨t', hmake, h', hk⟩ := h.makeDirectories k
    simp only [hmake, h'.writeText hk hid]
    exact ⟨_, rfl, h'.put_file hk hid (some text)⟩

theorem delete (hd : d.PlainExtension) (h : Mirrors d r t s) (k : Kind) (hid : Id.isValid id = true) :
    ∃ t', d.delete k id t = ((MemoryStore.delete k id s).1, t') ∧
      Mirrors d r t' (MemoryStore.delete k id s).2 := by
  unfold DirectoryStore.delete MemoryStore.delete FileTree.removeFile Table.contains
  rw [filePath_eq hd.noSlash hid k]
  simp only []
  cases hg : s.get? ⟨k, id⟩ with
  | some text =>
    rw [h.walk_stored hg]
    exact ⟨_, rfl, h.put_file (h.directory_of_stored hg) hid none⟩
  | none =>
    rcases h.walk_missing hid hg false with hw | ⟨p, hw⟩ <;> rw [hw] <;> exact ⟨t, rfl, h⟩

/-! ## Listings -/

/-- The names in the directory of a kind are those of the files of what is stored. -/
theorem names_perm (h : Mirrors d r t s) (k : Kind) :
    (t.names (d.kindPath k)).Perm ((MemoryStore.ids k s).map d.fileOf) := by
  rcases h.directory k with hk | ⟨hk, hno⟩
  · have hids : ((MemoryStore.ids k s).map d.fileOf).Nodup :=
      List.Nodup.map (fun _ _ => fileOf_inj.1) ((h.wellFormed.sorted_ids k).imp ne_of_lt)
    refine (List.perm_ext_iff_of_nodup (FileTree.nodup_names h.sorted _) hids).2 fun name => ?_
    rw [FileTree.mem_names h.sorted (h.leads_kind hk), List.mem_map]
    simp only [h.file k name, MemoryStore.mem_ids, Table.contains_iff]
    constructor
    · rintro ⟨n, id, text, hg, rfl, -⟩
      exact ⟨id, ⟨text, hg⟩, rfl⟩
    · rintro ⟨id, ⟨text, hg⟩, rfl⟩
      exact ⟨_, id, text, hg, rfl, rfl⟩
  · have hnames : t.names (d.kindPath k) = [] := by
      unfold FileTree.names FileTree.directory? kindPath
      rw [h.leads.walk_free k.name_ne_up hk]
    have hids : MemoryStore.ids k s = [] := by
      refine List.eq_nil_iff_forall_not_mem.2 fun id hid => ?_
      rw [MemoryStore.mem_ids, Table.contains, hno id] at hid
      cases hid
    rw [hnames, hids]
    exact .nil

theorem not_after_iff {a b : String} : (!decide (b < a)) = true ↔ a ≤ b := by
  rw [Bool.not_eq_true', decide_eq_false_iff_not, not_lt]

/-- The entry for a name in the directory of a kind, if it is the name of a file of the store. -/
def entryOf? (d : DirectoryStore) (k : Kind) (t : FileTree) (name : String) : Option (String × String) :=
  let (stem, extension) := FilePath.splitExtension name
  if t.isFile (d.kindPath k ++ [name]) && extension == some d.extension && Id.isValid stem then
    some (stem, name)
  else none

theorem entryOf?_stored (hd : d.PlainExtension) (h : Mirrors d r t s) (hg : s.get? ⟨k, id⟩ = some text) :
    entryOf? d k t (d.fileOf id) = some (id, d.fileOf id) := by
  have hfile : t.isFile (d.kindPath k ++ [d.fileOf id]) = true := by
    unfold FileTree.isFile
    rw [h.node_stored hg]
  simp [entryOf?, splitExtension_fileOf hd.noPoint (h.isValid hg), hfile, h.isValid hg]

/-- What is listed are the files of what is stored, by their ids. -/
theorem storedFiles_eq (hd : d.PlainExtension) (h : Mirrors d r t s) (k : Kind) :
    d.storedFiles k t = (MemoryStore.ids k s).map fun id => (id, d.fileOf id) := by
  have hperm : ((t.names (d.kindPath k)).filterMap (entryOf? d k t)).Perm
      ((MemoryStore.ids k s).map fun id => (id, d.fileOf id)) := by
    refine ((h.names_perm k).filterMap (entryOf? d k t)).trans (.of_eq ?_)
    rw [List.filterMap_map, ← List.filterMap_eq_map]
    refine List.filterMap_congr fun id hid => ?_
    obtain ⟨text, hg⟩ := Table.contains_iff.1 (MemoryStore.mem_ids.1 hid)
    exact h.entryOf?_stored hd hg
  have hsorted : ((MemoryStore.ids k s).map fun id => (id, d.fileOf id)).Pairwise
      fun a b => (!decide (b.1 < a.1)) = true :=
    List.pairwise_map.2 ((h.wellFormed.sorted_ids k).imp fun hlt => not_after_iff.2 hlt.le)
  have hall := (List.mergeSort_perm _ fun a b => !decide (b.1 < a.1)).trans hperm
  refine List.Perm.eq_of_pairwise (fun a b ha hb hab hba => ?_) (List.pairwise_mergeSort ?_ ?_ _) hsorted hall
  · -- Files are sorted by their ids alone, but an id has one file only.
    obtain ⟨i, -, rfl⟩ := List.mem_map.1 (hall.mem_iff.1 ha)
    obtain ⟨j, -, rfl⟩ := List.mem_map.1 hb
    obtain rfl : i = j := le_antisymm (not_after_iff.1 hab) (not_after_iff.1 hba)
    rfl
  · intro a b c hab hbc
    rw [not_after_iff] at *
    exact hab.trans hbc
  · intro a b
    rw [Bool.or_eq_true, not_after_iff, not_after_iff]
    exact le_total a.1 b.1

theorem list (hd : d.PlainExtension) (h : Mirrors d r t s) (k : Kind) :
    d.list k t = .ok (MemoryStore.list k s) := by
  unfold DirectoryStore.list
  rw [h.storedFiles_eq hd, MemoryStore.ids_eq, List.map_map, List.mapM_map]
  refine mapM_eq_ok fun e he => ?_
  rw [List.mem_filter, decide_eq_true_eq] at he
  obtain ⟨⟨j, id⟩, text⟩ := e
  obtain ⟨hmem, rfl⟩ := he
  have hg : s.get? ⟨j, id⟩ = some text := (Table.get?_eq_some_iff h.wellFormed.sorted).2 hmem
  simp only [Function.comp_apply]
  rw [FileTree.readText_of_found (h.walk_stored hg true)]

end Mirrors
end DirectoryStore
end ProfileKit

import Mathlib.Data.List.Nodup
import SkillPlan.Proofs.FileTree.Written

/-!
# Storages in directories

What the operations of a storage in a directory do, told by what stands under the file names of its
keys: what a write or a removal that succeeds has done to the tree, that what a key answers depends on
its own file only, that a value that is kept stands in a file, and that a directory with room for the
names fails no key that fits.
-/

namespace SkillPlan.Storage.Directory

open FileTree (IsName AgreeOn AlteredAt Rooted maxNameBytes pathBytesBound)

variable {t t' : FileTree} {directory key : String} {place : Place} {value : Json}

/-! ## File names of keys -/

theorem toList_safeKey (key : String) :
    (safeKey key).toList = key.toList.map fun c => if c ∈ reserved then '_' else c := by
  simp [safeKey]

/-- No reserved character is left. -/
theorem plain_safeKey (key : String) : ∀ c ∈ (safeKey key).toList, c ∉ reserved := by
  intro c hc
  rw [toList_safeKey, List.mem_map] at hc
  obtain ⟨c', -, rfl⟩ := hc
  split
  · decide
  · assumption

theorem safeKey_of_plain (h : ∀ c ∈ key.toList, c ∉ reserved) : safeKey key = key := by
  have hmap : (key.toList.map fun c => if c ∈ reserved then '_' else c) = key.toList.map id :=
    List.map_congr_left fun c hc => if_neg (h c hc)
  rw [safeKey, hmap, List.map_id, String.ofList_toList]

@[simp] theorem safeKey_safeKey (key : String) : safeKey (safeKey key) = safeKey key :=
  safeKey_of_plain (plain_safeKey key)

theorem safeKey_append (key rest : String) : safeKey (key ++ rest) = safeKey key ++ safeKey rest := by
  apply String.toList_inj.mp
  simp [toList_safeKey]

@[simp] theorem safeKey_eq_empty : safeKey key = "" ↔ key = "" := by
  rw [← String.toList_inj, toList_safeKey, ← String.toList_inj]
  exact List.map_eq_nil_iff

theorem plain_fileName (key : String) : ∀ c ∈ (fileName key).toList, c ∉ reserved := by
  intro c hc
  rw [fileName, String.toList_append, List.mem_append] at hc
  obtain hkey | hextension := hc
  · exact plain_safeKey key c hkey
  · have hplain : ∀ c ∈ ".json".toList, c ∉ reserved := by simp [reserved]
    exact hplain c hextension

theorem isName_fileName (key : String) : IsName (fileName key) := by
  -- the extension alone is longer than the names that are none
  have hlength : 5 ≤ (fileName key).toList.length := by
    rw [fileName, String.toList_append, List.length_append]
    exact Nat.le_add_left 5 _
  have hlong : ∀ other : String, other.toList.length < 5 → fileName key ≠ other := by
    rintro other hother rfl
    omega
  refine ⟨hlong "" (by decide), hlong "." (by decide), hlong ".." (by decide), ?_⟩
  intro hslash
  exact plain_fileName key '/' hslash (by decide)

/-- A file is one of a key if its name is the key, which is not empty, and the extension. -/
theorem keyOfFile?_eq_some {name : String} :
    keyOfFile? name = some key ↔ key ≠ "" ∧ name = key ++ ".json" := by
  unfold keyOfFile?
  constructor
  · intro h
    split at h
    · rename_i c cs hafter
      cases h
      have hname := Text.eq_append_of_after? hafter
      refine ⟨by simp, ?_⟩
      apply String.toList_inj.mp
      rw [String.toList_append, String.toList_ofList, ← List.reverse_inj, hname, List.reverse_append,
        List.reverse_reverse]
    · cases h
  · rintro ⟨hkey, rfl⟩
    have hchars : key.toList ≠ [] := by simpa using hkey
    -- a file name is read from its end
    have hreverse : (key ++ ".json").toList.reverse = ".json".toList.reverse ++ key.toList.reverse := by
      rw [String.toList_append, List.reverse_append]
    rw [hreverse, Text.after?_append]
    cases hcs : key.toList.reverse with
    | nil => exact absurd (List.reverse_eq_nil_iff.mp hcs) hchars
    | cons c cs =>
      simp only
      rw [← hcs, List.reverse_reverse, String.ofList_toList]

/-- A key has one file name, so different names are not of one key. -/
theorem nodup_keys {names : List String} (h : names.Nodup) : (names.filterMap keyOfFile?).Nodup := by
  apply List.Nodup.filterMap _ h
  intro name name' key hkey hkey'
  exact (keyOfFile?_eq_some.mp hkey).2.trans (keyOfFile?_eq_some.mp hkey').2.symm

/-- The keys that are kept in files under their own names. -/
structure Fits (key : String) : Prop where
  notEmpty : key ≠ ""
  short : key.utf8ByteSize ≤ 250
  noNul : '\x00' ∉ key.toList
  plain : ∀ c ∈ key.toList, c ∉ reserved

theorem fits_iff : Fits key ↔ key ≠ "" ∧ key.utf8ByteSize ≤ 250 ∧ '\x00' ∉ key.toList ∧
    key.toList.all (· ∉ reserved) := by
  have hplain : key.toList.all (· ∉ reserved) ↔ ∀ c ∈ key.toList, c ∉ reserved := by
    simp only [List.all_eq_true, decide_eq_true_eq]
  rw [hplain]
  exact ⟨fun h => ⟨h.notEmpty, h.short, h.noNul, h.plain⟩,
    fun ⟨notEmpty, short, noNul, plain⟩ => ⟨notEmpty, short, noNul, plain⟩⟩

instance : Decidable (Fits key) := decidable_of_iff _ fits_iff.symm

namespace Fits

variable (h : Fits key)

include h

theorem fileName_eq : fileName key = key ++ ".json" := by
  rw [fileName, safeKey_of_plain h.plain]

theorem keyOfFile?_fileName : keyOfFile? (fileName key) = some key := by
  exact keyOfFile?_eq_some.mpr ⟨h.notEmpty, h.fileName_eq⟩

theorem utf8ByteSize_fileName : (fileName key).utf8ByteSize ≤ maxNameBytes := by
  rw [h.fileName_eq, String.utf8ByteSize_append]
  exact Nat.add_le_add_right h.short 5

theorem noNul_fileName : '\x00' ∉ (fileName key).toList := by
  rw [h.fileName_eq, String.toList_append, List.mem_append]
  rintro (hkey | hextension)
  · exact h.noNul hkey
  · exact absurd hextension (by decide)

theorem fileName_inj {other : String} (hother : Fits other) (heq : fileName key = fileName other) :
    key = other := by
  have hkeys := congrArg keyOfFile? heq
  rw [h.keyOfFile?_fileName, hother.keyOfFile?_fileName] at hkeys
  exact Option.some.inj hkeys

end Fits

/-! ## Operations, by what stands in the file of the key -/

section

variable {node : Option FileNode} {ends : Bool} {f : FileFault}

theorem set_of_error (h : t.locate (path directory key) = .error f) (value : Json) :
    set directory t key value =
      .error (fault "store::set" ("Failed to write " ++ path directory key) f.message) := by
  have hopen : FileTree.isClosed (path directory key) = false :=
    (isName_fileName key).isClosed_join directory
  simp only [set, FileTree.writeText, FileTree.write_of_error hopen h]

theorem set_of_locate (h : t.locate (path directory key) = .ok (place, node, ends)) (value : Json) :
    set directory t key value =
      if node = some .directory then
        .error (fault "store::set" ("Failed to write " ++ path directory key)
          FileFault.isDirectory.message)
      else .ok (t.put place (.file (Json.toWideText value).toUTF8)) := by
  have hopen : FileTree.isClosed (path directory key) = false :=
    (isName_fileName key).isClosed_join directory
  have hwrite := FileTree.write_of_locate hopen h (Json.toWideText value).toUTF8
  by_cases hnode : node = some .directory
  · rw [if_pos hnode] at hwrite ⊢
    simp only [set, FileTree.writeText, hwrite]
  · rw [if_neg hnode] at hwrite ⊢
    simp only [set, FileTree.writeText, hwrite]

theorem erase_of_error (h : t.locate (path directory key) = .error f) :
    erase directory t key = .ok t := by
  simp [erase, FileTree.exists?_of_error h]

theorem erase_of_locate : t.locate (path directory key) = .ok (place, node, ends) →
    erase directory t key =
      match node with
      | none => .ok t
      | some (.file _) => .ok (t.prune place)
      | some .directory =>
        .error (fault "store::delete" ("Failed to delete " ++ path directory key)
          FileFault.isDirectory.message) := by
  intro h
  simp only [erase, FileTree.exists?_of_locate h, FileTree.remove_of_locate h]
  rcases node with _ | _ | content <;> rfl

/-- The keys are those of the names in the directory. -/
theorem keys_of_locate (h : t.locate directory = .ok (place, some .directory, ends)) :
    keys directory t = (t.namesBelow place).filterMap keyOfFile? := by
  unfold keys
  rw [FileTree.list_of_locate h]

end

/-! ## Changes that succeed -/

/-- A value that was written is in the file of its key, in the place of no directory. -/
theorem put_of_set (h : set directory t key value = .ok t') : ∃ above,
    t.LeadsTo directory above ∧ t.node? (above ++ [fileName key]) ≠ some .directory ∧
      t' = t.put (above ++ [fileName key]) (.file (Json.toWideText value).toUTF8) := by
  cases hlocate : t.locate (path directory key) with
  | error f =>
    rw [set_of_error hlocate] at h
    cases h
  | ok found =>
    obtain ⟨there, node, ends⟩ := found
    obtain ⟨above, habove, rfl, rfl⟩ := (isName_fileName key).of_locate_join hlocate
    rw [set_of_locate hlocate] at h
    split at h
    · cases h
    · rename_i hnode
      cases h
      exact ⟨above, habove, hnode, rfl⟩

/-- A removal leaves the tree as it is, or takes the file of the key from it. -/
theorem prune_of_erase (h : erase directory t key = .ok t') : t' = t ∨ ∃ above content,
    t.LeadsTo directory above ∧ t.node? (above ++ [fileName key]) = some (.file content) ∧
      t' = t.prune (above ++ [fileName key]) := by
  cases hlocate : t.locate (path directory key) with
  | error f =>
    rw [erase_of_error hlocate] at h
    cases h
    exact .inl rfl
  | ok found =>
    obtain ⟨there, node, ends⟩ := found
    obtain ⟨above, habove, rfl, hnode⟩ := (isName_fileName key).of_locate_join hlocate
    rw [erase_of_locate hlocate] at h
    rcases node with _ | _ | content
    · cases h
      exact .inl rfl
    · cases h
    · cases h
      exact .inr ⟨above, content, habove, hnode.symm, rfl⟩

theorem rooted_set (hrooted : t.Rooted) (h : set directory t key value = .ok t') : t'.Rooted := by
  obtain ⟨above, habove, hfile, rfl⟩ := put_of_set h
  exact hrooted.put (habove.node?_place hrooted) fun hdirectory => absurd hdirectory hfile

theorem rooted_erase (hrooted : t.Rooted) (h : erase directory t key = .ok t') : t'.Rooted := by
  obtain rfl | ⟨above, content, -, hfile, rfl⟩ := prune_of_erase h
  · exact hrooted
  · exact hrooted.prune hfile

/-- A value that was written altered the entry of its key. -/
theorem altered_set (h : set directory t key value = .ok t') :
    ∃ above, t.LeadsTo directory above ∧ AlteredAt (above ++ [fileName key]) t t' := by
  obtain ⟨above, habove, hfile, rfl⟩ := put_of_set h
  exact ⟨above, habove, .put hfile _⟩

/-- A value that was removed altered nothing, or the entry of its key. -/
theorem altered_erase (hrooted : t.Rooted) (h : erase directory t key = .ok t') : t' = t ∨
    ∃ above, t.LeadsTo directory above ∧ AlteredAt (above ++ [fileName key]) t t' := by
  obtain rfl | ⟨above, content, habove, hfile, rfl⟩ := prune_of_erase h
  · exact .inl rfl
  · exact .inr ⟨above, habove, .prune hrooted hfile⟩

/-! ## Keys in different files -/

section Frame

variable {key' : String} (hne : fileName key' ≠ fileName key)

include hne

/-- A value that is written changes nothing under other file names. -/
theorem agreeOn_set (h : set directory t key' value = .ok t') : AgreeOn (fileName key) t t' := by
  obtain ⟨above, -, haltered⟩ := altered_set h
  exact .of_altered haltered hne

/-- A value that is removed changes nothing under other file names. -/
theorem agreeOn_erase (hrooted : t.Rooted) (h : erase directory t key' = .ok t') :
    AgreeOn (fileName key) t t' := by
  obtain rfl | ⟨above, -, haltered⟩ := altered_erase hrooted h
  · exact .refl _ _
  · exact .of_altered haltered hne

end Frame

/-- What is at the file of a key in one of two trees that agree on its name is there in the other. -/
theorem contains_congr (h : AgreeOn (fileName key) t t') (directory : String) :
    t'.exists? (path directory key) = t.exists? (path directory key) := by
  have hname := isName_fileName key
  cases hlocate : t.locate (path directory key) with
  | ok found =>
    obtain ⟨there, node, ends⟩ := found
    obtain ⟨ends', hlocate'⟩ := h.locate_join hname hlocate
    exact (FileTree.exists?_of_locate hlocate').trans (FileTree.exists?_of_locate hlocate).symm
  | error f =>
    cases hlocate' : t'.locate (path directory key) with
    | ok found =>
      obtain ⟨there, node, ends⟩ := found
      obtain ⟨ends', hlocate''⟩ := h.symm.locate_join hname hlocate'
      exact absurd (hlocate''.symm.trans hlocate) nofun
    | error f' =>
      exact (FileTree.exists?_of_error hlocate').trans (FileTree.exists?_of_error hlocate).symm

/-- Two trees that agree on the file name of a key give the same under the key. -/
theorem get?_congr (h : AgreeOn (fileName key) t t') (directory : String) :
    get? directory t' key = get? directory t key := by
  have hcontains := contains_congr h directory
  cases hlocate : t.locate (path directory key) with
  | ok found =>
    obtain ⟨there, node, ends⟩ := found
    obtain ⟨ends', hlocate'⟩ : ∃ ends', t'.locate (path directory key) = .ok (there, node, ends') :=
      h.locate_join (isName_fileName key) hlocate
    have hread : t'.readText (path directory key) = t.readText (path directory key) := by
      unfold FileTree.readText
      rw [FileTree.read_of_locate hlocate', FileTree.read_of_locate hlocate]
    simp only [get?, hcontains, hread]
  | error f =>
    -- nothing is there in either tree, so neither file is read
    have hnone := FileTree.exists?_of_error hlocate
    simp [get?, hcontains, hnone]

/-! ## Values and their files -/

/-- A value that is kept stands in a file. -/
theorem exists_file_of_get? (h : get? directory t key = .ok (some value)) :
    ∃ place content ends,
      t.locate (path directory key) = .ok (place, some (.file content), ends) := by
  unfold get? at h
  cases hlocate : t.locate (path directory key) with
  | error f => simp [FileTree.exists?_of_error hlocate] at h
  | ok found =>
    obtain ⟨place, node, ends⟩ := found
    rcases node with _ | _ | content
    · simp [FileTree.exists?_of_locate hlocate] at h
    · have hread : t.readText (path directory key) = .error .isDirectory := by
        rw [FileTree.readText, FileTree.read_of_locate hlocate]
        rfl
      simp [FileTree.exists?_of_locate hlocate, hread] at h
    · exact ⟨place, content, ends, rfl⟩

/-- A value that was written is the text of the file of its key. -/
theorem readText_of_set (h : set directory t key value = .ok t') :
    t'.readText (path directory key) = .ok (Json.toWideText value) := by
  unfold set at h
  cases hwrite : t.writeText (path directory key) (Json.toWideText value) with
  | error f => simp [hwrite] at h
  | ok t₂ =>
    simp only [hwrite] at h
    cases h
    exact FileTree.readText_of_writeText hwrite

/-- Creating the directory leaves every file as it is. -/
theorem node?_create (directory : String) (t : FileTree) (q : Place) (content : ByteArray) :
    (create directory t).1.node? q = some (.file content) ↔ t.node? q = some (.file content) := by
  have hmake := FileTree.node?_makeDirectories directory t q content
  unfold create
  generalize t.makeDirectories directory = made at hmake
  obtain ⟨t', result⟩ := made
  cases result <;> exact hmake

/-! ## A directory with room -/

/-- A directory that a path leads to and that leaves room for the names of its files. -/
structure Opened (directory : String) (place : Place) (t : FileTree) : Prop where
  rooted : t.Rooted
  located : ∃ ends, t.locate directory = .ok (place, some .directory, ends)
  room : directory.utf8ByteSize + 1 + maxNameBytes < pathBytesBound

namespace Opened

/-- A directory stays open while other nodes come and go. -/
theorem of_directories (h : Opened directory place t) (hrooted : t'.Rooted)
    (hhome : t'.home = t.home)
    (hkeep : ∀ q, t.node? q = some .directory → t'.node? q = some .directory) :
    Opened directory place t' := by
  refine ⟨hrooted, ?_, h.room⟩
  obtain ⟨ends, hlocate⟩ := h.located
  obtain ⟨r, hroute, hfollow⟩ := FileTree.follow_of_locate hlocate
  refine ⟨r.endsInDirectory, FileTree.locate_of_follow ((FileTree.route_congr hhome _).trans hroute) ?_⟩
  exact FileTree.follow_of_directories hkeep hfollow

variable (h : Opened directory place t)

include h

theorem node?_place : t.node? place = some .directory := by
  obtain ⟨ends, hlocate⟩ := h.located
  exact h.rooted.node?_of_locate hlocate

/-- The path of a key that fits leads to its file. -/
theorem locate_path (hkey : Fits key) : t.locate (path directory key) =
    .ok (place ++ [fileName key], t.node? (place ++ [fileName key]), false) := by
  obtain ⟨ends, hlocate⟩ := h.located
  obtain ⟨hnul, -, hfollow⟩ := FileTree.follow_of_locate_directory hlocate
  have hname := isName_fileName key
  have hshort := hkey.utf8ByteSize_fileName
  have hbytes : directory.utf8ByteSize + 1 + (fileName key).utf8ByteSize < pathBytesBound :=
    Nat.lt_of_le_of_lt (Nat.add_le_add_left hshort _) h.room
  obtain ⟨r, hroute⟩ := hname.exists_route_join t hnul hkey.noNul_fileName hbytes
  exact hname.locate_join hroute hfollow hshort

theorem exists?_path (hkey : Fits key) :
    t.exists? (path directory key) = (t.node? (place ++ [fileName key])).isSome :=
  FileTree.exists?_of_locate (h.locate_path hkey)

theorem get?_of_none (hkey : Fits key) (hnode : t.node? (place ++ [fileName key]) = none) :
    get? directory t key = .ok none := by
  unfold get?
  simp [h.exists?_path hkey, hnode]

/-- A value that its text gives back is read from its file. -/
theorem get?_of_file (hkey : Fits key)
    (hnode : t.node? (place ++ [fileName key]) = some (.file (Json.toWideText value).toUTF8))
    (hvalue : Json.ofText? (Json.toWideText value) = some value) :
    get? directory t key = .ok (some value) := by
  have hlocate := h.locate_path hkey
  rw [hnode] at hlocate
  have hexists : t.exists? (path directory key) = true := FileTree.exists?_of_locate hlocate
  have hread : t.readText (path directory key) = .ok (Json.toWideText value) :=
    FileTree.readText_of_locate hlocate
  simp [get?, hexists, hread, hvalue]

theorem set_eq (hkey : Fits key) (hnode : t.node? (place ++ [fileName key]) ≠ some .directory) :
    set directory t key value =
      .ok (t.put (place ++ [fileName key]) (.file (Json.toWideText value).toUTF8)) := by
  rw [set_of_locate (h.locate_path hkey), if_neg hnode]

theorem erase_of_none (hkey : Fits key) (hnode : t.node? (place ++ [fileName key]) = none) :
    erase directory t key = .ok t := by
  rw [erase_of_locate (h.locate_path hkey), hnode]

theorem erase_of_file (hkey : Fits key) {content : ByteArray}
    (hnode : t.node? (place ++ [fileName key]) = some (.file content)) :
    erase directory t key = .ok (t.prune (place ++ [fileName key])) := by
  rw [erase_of_locate (h.locate_path hkey), hnode]

theorem keys_eq : keys directory t = (t.namesBelow place).filterMap keyOfFile? := by
  obtain ⟨ends, hlocate⟩ := h.located
  exact keys_of_locate hlocate

/-- The directory with a value written to it. -/
theorem put (hnode : t.node? (place ++ [fileName key]) ≠ some .directory) (content : ByteArray) :
    Opened directory place (t.put (place ++ [fileName key]) (.file content)) := by
  have hrooted := h.rooted.put (n := .file content) h.node?_place fun hfile => absurd hfile hnode
  refine h.of_directories hrooted rfl fun q hq => ?_
  rw [FileTree.node?_put (by simp), if_neg, hq]
  rintro rfl
  exact hnode hq

/-- The directory with a value removed from it. -/
theorem prune {content : ByteArray}
    (hnode : t.node? (place ++ [fileName key]) = some (.file content)) :
    Opened directory place (t.prune (place ++ [fileName key])) :=
  h.of_directories (h.rooted.prune hnode) rfl fun _ => h.rooted.node?_prune_of_directory hnode

end Opened

end SkillPlan.Storage.Directory

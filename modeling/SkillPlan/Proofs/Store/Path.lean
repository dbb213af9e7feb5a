import SkillPlan.Store
import SkillPlan.Proofs.FileTree.Locate

/-!
# Paths of files in a directory

The path of a name in a directory leads through the directory to that name and nowhere else. So it is
known what is found there as soon as it is known where the directory is, and what is found depends on
little of the tree: on which directories there are and on what has that name.
-/

namespace SkillPlan

open Storage.Directory (join)

namespace FileTree

variable {t t' : FileTree} {directory path name : String} {place : Place}

/-! ## Names in a directory -/

/-- A name that stands for an entry of the directory in which it is looked up. -/
structure IsName (name : String) : Prop where
  notEmpty : name ≠ ""
  notPoint : name ≠ "."
  notUp : name ≠ ".."
  noSlash : '/' ∉ name.toList

/-- The parts of the path of a name are the name and, before it, parts that are followed as those of
    the directory are. -/
theorem IsName.split_join (hname : IsName name) (directory : String) :
    ∃ parts, Text.split '/' (join directory name) = parts ++ [name] ∧
      parts.filter (fun s => s ≠ "" ∧ s ≠ ".") = namesOf directory := by
  have hsingle : Text.splitChars '/' name.toList = [name.toList] :=
    Text.splitChars_of_not_mem hname.noSlash
  have hcut : ∀ cs : List Char, (Text.splitChars '/' (cs ++ '/' :: name.toList)).map String.ofList =
      (Text.splitChars '/' cs).map String.ofList ++ [name] := by
    intro cs
    rw [Text.splitChars_append, hsingle, List.map_append]
    simp
  unfold join namesOf Text.split
  split
  · rename_i hopen
    obtain rfl | hslash := hopen
    · refine ⟨[], ?_, ?_⟩
      · simp [hsingle]
      · simp [Text.splitChars]
    · -- the directory is written with a slash behind it, and an empty part follows that slash
      obtain ⟨cs, hcs⟩ := List.getLast?_eq_some_iff.mp hslash
      refine ⟨(Text.splitChars '/' cs).map String.ofList, ?_, ?_⟩
      · rw [String.toList_append, hcs, List.append_assoc]
        exact hcut cs
      · rw [hcs, Text.splitChars_append]
        simp [Text.splitChars]
  · refine ⟨(Text.splitChars '/' directory.toList).map String.ofList, ?_, rfl⟩
    rw [String.toList_append, String.toList_append, List.append_assoc]
    exact hcut directory.toList

theorem IsName.startOf_join (hname : IsName name) (t : FileTree) (directory : String) :
    t.startOf (join directory name) = t.startOf directory := by
  unfold startOf join
  by_cases hempty : directory = ""
  · -- the path is the name itself, which does not begin with a slash
    subst hempty
    have hhead : name.toList.head? ≠ some '/' := by
      intro h
      exact hname.noSlash (List.mem_of_mem_head? h)
    simp [hhead]
  · have hchars : directory.toList ≠ [] := by simpa using hempty
    obtain ⟨c, cs, hcs⟩ := List.exists_cons_of_ne_nil hchars
    split <;> simp [hcs]

/-- The bytes and characters of a path are those of its directory and its name, and a slash between
    them. -/
theorem mem_join {c : Char} (h : c ∈ (join directory name).toList) :
    c ∈ directory.toList ∨ c = '/' ∨ c ∈ name.toList := by
  unfold join at h
  split at h <;> simp only [String.toList_append, List.mem_append] at h
  · exact h.imp id Or.inr
  · obtain (h | h) | h := h
    · exact .inl h
    · exact .inr (.inl (by simpa using h))
    · exact .inr (.inr h)

theorem utf8ByteSize_join_le (directory name : String) :
    (join directory name).utf8ByteSize ≤ directory.utf8ByteSize + 1 + name.utf8ByteSize := by
  unfold join
  split
  · rw [String.utf8ByteSize_append]
    omega
  · rw [String.utf8ByteSize_append, String.utf8ByteSize_append]
    exact Nat.le_refl _

/-- The path of a name is followed from the start of the directory, through its names. -/
theorem IsName.route_join (hname : IsName name) {r : Route}
    (h : t.route (join directory name) = .ok r) :
    r = ⟨t.startOf directory, namesOf directory ++ [name], false, false⟩ := by
  obtain ⟨parts, hsplit, hparts⟩ := hname.split_join directory
  have hstart := hname.startOf_join t directory
  unfold route at h
  split at h
  · cases h
  split at h
  · cases h
  split at h
  · cases h
  cases h
  unfold startOf at hstart
  have hnotEmpty := hname.notEmpty
  have hnotPoint := hname.notPoint
  have hnotUp := hname.notUp
  simp [hsplit, hstart, ← hparts, startOf, hnotEmpty, hnotPoint, hnotUp]

/-- The path of a name can be taken apart if it is not too long. -/
theorem IsName.exists_route_join (hname : IsName name) (t : FileTree)
    (hdirectory : '\x00' ∉ directory.toList) (hnul : '\x00' ∉ name.toList)
    (hroom : directory.utf8ByteSize + 1 + name.utf8ByteSize < pathBytesBound) :
    ∃ r, t.route (join directory name) = .ok r := by
  have hnulFree : '\x00' ∉ (join directory name).toList := by
    intro h
    obtain h | h | h := mem_join h
    · exact hdirectory h
    · exact absurd h (by decide)
    · exact hnul h
  have hempty : join directory name ≠ "" := by
    have hne := hname.notEmpty
    unfold join
    split <;> simp [String.append_eq_empty_iff, hne]
  have hbytes : ¬pathBytesBound ≤ (join directory name).utf8ByteSize := by
    have hle := utf8ByteSize_join_le directory name
    omega
  unfold route
  simp [hnulFree, hempty, hbytes]

/-- No slash follows the name. -/
theorem IsName.isClosed_join (hname : IsName name) (directory : String) :
    isClosed (join directory name) = false := by
  have hlast : ∀ cs : List Char, (cs ++ name.toList).getLast? ≠ some '/' := by
    intro cs h
    have hchars : name.toList ≠ [] := by simpa using hname.notEmpty
    rw [List.getLast?_append, List.getLast?_eq_some_getLast hchars, Option.some_or] at h
    exact hname.noSlash (Option.some.inj h ▸ List.getLast_mem hchars)
  have hpath : (join directory name).toList.getLast? ≠ some '/' := by
    unfold join
    split <;> simpa only [String.toList_append] using hlast _
  simp [isClosed, hpath]

/-! ## What the path of a name leads to -/

theorem locate_of_route {start : Place} {names : List String}
    (h : t.route path = .ok ⟨start, names, false, false⟩) :
    t.locate path = (t.follow start names).map fun found => (found.1, found.2, false) := by
  unfold locate
  rw [h]
  cases hfollow : t.follow start names with
  | error f => simp [hfollow, bind, Except.bind, Except.map]
  | ok found =>
    obtain ⟨there, found⟩ := found
    rcases found with _ | _ | content <;>
      simp [hfollow, bind, Except.bind, Except.map, pure, Except.pure]

/-- What is found under the path of a name stands in the place of the directory. -/
theorem IsName.of_locate_join (hname : IsName name) {node : Option FileNode} {ends : Bool}
    (h : t.locate (join directory name) = .ok (place, node, ends)) :
    ∃ above, t.follow (t.startOf directory) (namesOf directory) = .ok (above, some .directory) ∧
      place = above ++ [name] ∧ node = t.node? (above ++ [name]) := by
  obtain ⟨r, hroute, hfollow⟩ := follow_of_locate h
  rw [hname.route_join hroute] at hfollow
  exact follow_concat hname.notUp hfollow

/-- The path of a name leads to what has that name in the directory. -/
theorem IsName.locate_join (hname : IsName name) {r : Route}
    (hroute : t.route (join directory name) = .ok r)
    (hdirectory : t.follow (t.startOf directory) (namesOf directory) = .ok (place, some .directory))
    (hshort : name.utf8ByteSize ≤ maxNameBytes) :
    t.locate (join directory name) = .ok (place ++ [name], t.node? (place ++ [name]), false) := by
  rw [hname.route_join hroute] at hroute
  rw [locate_of_route hroute, follow_append hdirectory, follow_singleton hname.notUp,
    if_neg (Nat.not_lt.mpr hshort)]
  rfl

/-! ## Directories that a path leads to -/

/-- The names of a path lead to a directory. The empty path has none, so it leads to where relative
    paths start. -/
def LeadsTo (t : FileTree) (directory : String) (place : Place) : Prop :=
  t.follow (t.startOf directory) (namesOf directory) = .ok (place, some .directory)

/-- Of a path that can be taken apart, only the start depends on the tree. -/
theorem route_map (t t' : FileTree) (path : String) :
    t'.route path = (t.route path).map fun r => { r with start := t'.startOf path } := by
  unfold route startOf
  split
  · rfl
  · split
    · rfl
    · split <;> rfl

namespace LeadsTo

variable (h : t.LeadsTo directory place)

include h

theorem unique {place' : Place} (h' : t.LeadsTo directory place') : place' = place := by
  have heq := h'.symm.trans h
  cases heq
  rfl

theorem node?_place (hrooted : t.Rooted) : t.node? place = some .directory :=
  hrooted.node?_follow (hrooted.node?_startOf directory) h

/-- Two trees in which the path leads to one place lead every path of a name in the directory to the
    same, if they have the same under that name there. -/
theorem locate_congr (h' : t'.LeadsTo directory place) (hname : IsName name)
    (hnode : t'.node? (place ++ [name]) = t.node? (place ++ [name])) :
    t'.locate (join directory name) = t.locate (join directory name) := by
  have hmap := route_map t t' (join directory name)
  cases hroute : t.route (join directory name) with
  | error f =>
    have hroute' : t'.route (join directory name) = .error f := by rw [hmap, hroute]; rfl
    simp [locate, hroute, hroute', bind, Except.bind]
  | ok r =>
    obtain ⟨r', hroute'⟩ : ∃ r', t'.route (join directory name) = .ok r' :=
      ⟨_, by rw [hmap, hroute]; rfl⟩
    obtain rfl := hname.route_join hroute
    obtain rfl := hname.route_join hroute'
    rw [locate_of_route hroute, locate_of_route hroute', follow_append h, follow_append h',
      follow_singleton hname.notUp, follow_singleton hname.notUp, hnode]

/-- The path itself leads to the directory in both trees, or in neither if it cannot be taken
    apart. -/
theorem locate_directory_congr (h' : t'.LeadsTo directory place) :
    t'.locate directory = t.locate directory := by
  have hmap := route_map t t' directory
  cases hroute : t.route directory with
  | error f =>
    have hroute' : t'.route directory = .error f := by rw [hmap, hroute]; rfl
    simp [locate, hroute, hroute', bind, Except.bind]
  | ok r =>
    have hroute' : t'.route directory = .ok { r with start := t'.startOf directory } := by
      rw [hmap, hroute]; rfl
    obtain ⟨-, -, hstart, hnames⟩ := route_eq_ok hroute
    have hfollow : t.follow r.start r.names = .ok (place, some .directory) := by
      rw [hstart, hnames]
      exact h
    have hfollow' : t'.follow (t'.startOf directory) r.names = .ok (place, some .directory) := by
      rw [hnames]
      exact h'
    rw [locate_of_follow hroute hfollow, locate_of_follow hroute' hfollow']

end LeadsTo

/-! ## Trees that differ at one entry -/

/-- Two trees differ at one entry at most, and have the same directories. -/
structure AlteredAt (entry : Place) (t t' : FileTree) : Prop where
  home : t'.home = t.home
  elsewhere : ∀ q, q ≠ entry → t'.node? q = t.node? q
  directories : ∀ q, t'.node? q = some .directory ↔ t.node? q = some .directory

namespace AlteredAt

variable {entry : Place}

theorem refl (entry : Place) (t : FileTree) : AlteredAt entry t t :=
  ⟨rfl, fun _ _ => rfl, fun _ => Iff.rfl⟩

/-- A file that comes into a directory, or into the place of another file, changes nothing else. -/
theorem put (hentry : t.node? entry ≠ some .directory) (content : ByteArray) :
    AlteredAt entry t (t.put entry (.file content)) := by
  have hroot : entry ≠ [] := by
    rintro rfl
    exact hentry rfl
  constructor
  case home => rfl
  case elsewhere =>
    intro q hq
    rw [node?_put hroot, if_neg hq]
  case directories =>
    intro q
    rw [node?_put hroot]
    split
    · rename_i hq
      simp [hq, hentry]
    · rfl

/-- A file that goes from a directory changes nothing else. -/
theorem prune (hrooted : t.Rooted) {content : ByteArray}
    (hentry : t.node? entry = some (.file content)) : AlteredAt entry t (t.prune entry) := by
  constructor
  case home => rfl
  case elsewhere => exact fun q hq => hrooted.node?_prune_of_ne hentry hq
  case directories =>
    intro q
    refine ⟨fun hq => ?_, hrooted.node?_prune_of_directory hentry⟩
    rwa [hrooted.node?_prune_of_ne hentry] at hq
    rintro rfl
    rw [node?_prune (by rintro rfl; cases hentry), if_pos (List.prefix_refl _)] at hq
    cases hq

theorem leadsTo (h : AlteredAt entry t t') (hleads : t.LeadsTo directory place) :
    t'.LeadsTo directory place := by
  have hstart : t'.startOf directory = t.startOf directory := by
    unfold startOf
    rw [h.home]
  unfold LeadsTo
  rw [hstart]
  exact follow_of_directories (fun q => (h.directories q).mpr) hleads

end AlteredAt

/-! ## Trees that agree on a name -/

/-- Places under different names are different. -/
theorem concat_ne {p q : Place} {other : String} (h : other ≠ name) :
    p ++ [other] ≠ q ++ [name] := by
  intro heq
  have hlast := (List.append_inj' heq rfl).2
  exact h (List.singleton_inj.mp hlast)

/-- Two trees have the same directories, and the same under a name wherever it is looked up. -/
structure AgreeOn (name : String) (t t' : FileTree) : Prop where
  home : t'.home = t.home
  directories : ∀ q, t'.node? q = some .directory ↔ t.node? q = some .directory
  named : ∀ q, t'.node? (q ++ [name]) = t.node? (q ++ [name])

namespace AgreeOn

theorem refl (name : String) (t : FileTree) : AgreeOn name t t :=
  ⟨rfl, fun _ => Iff.rfl, fun _ => rfl⟩

theorem symm (h : AgreeOn name t t') : AgreeOn name t' t where
  home := h.home.symm
  directories q := (h.directories q).symm
  named q := (h.named q).symm

/-- What happens at an entry is not seen under other names. -/
theorem of_altered {other : String} (h : AlteredAt (place ++ [other]) t t') (hother : other ≠ name) :
    AgreeOn name t t' where
  home := h.home
  directories := h.directories
  named _ := h.elsewhere _ (concat_ne (Ne.symm hother))

/-- What the path of a name leads to in one of the trees it leads to in the other. -/
theorem locate_join (h : AgreeOn name t t') (hname : IsName name) {node : Option FileNode}
    {ends : Bool} (hlocate : t.locate (join directory name) = .ok (place, node, ends)) :
    ∃ ends', t'.locate (join directory name) = .ok (place, node, ends') := by
  obtain ⟨r, hroute, hfollow⟩ := follow_of_locate hlocate
  rw [hname.route_join hroute] at hfollow
  obtain ⟨above, habove, hplace, hnode⟩ := follow_concat hname.notUp hfollow
  -- a name that is too long leads nowhere in either tree
  have hshort : name.utf8ByteSize ≤ maxNameBytes := by
    simp only [follow_append habove, follow_singleton hname.notUp] at hfollow
    split at hfollow
    · cases hfollow
    · rename_i hshort
      exact Nat.not_lt.mp hshort
  have habove' : t'.follow (t'.startOf directory) (namesOf directory) =
      .ok (above, some .directory) := by
    have hstart : t'.startOf directory = t.startOf directory := by
      unfold startOf
      rw [h.home]
    rw [hstart]
    exact follow_of_directories (fun q => (h.directories q).mpr) habove
  refine ⟨false, ?_⟩
  rw [hname.locate_join ((route_congr h.home _).trans hroute) habove' hshort, h.named above,
    hplace, hnode]

end AgreeOn

end FileTree

end SkillPlan

import SkillPlan.Proofs.Store.Path
import SkillPlan.Proofs.Text

/-!
# What is written and what is left alone

A text that was written to a path is read from this path (`readText_of_writeText`), and creating
directories leaves every file as it is (`node?_makeDirectories`).
-/

namespace SkillPlan.FileTree

variable {t t' : FileTree} {here place p q : Place} {path : String} {names : List String}
  {node : Option FileNode} {content : ByteArray}

/-! ## Where paths end -/

/-- Two points lead to a directory. -/
theorem follow_up (h : t.follow here (names ++ [".."]) = .ok (place, node)) :
    node = some .directory := by
  obtain ⟨above, -, hlast⟩ := exists_follow_of_append (List.cons_ne_nil _ _) h
  cases hlast
  rfl

/-- Names that lead to no directory end in a name that stands in one. -/
theorem exists_concat_of_follow (hnode : node ≠ some .directory)
    (h : t.follow here names = .ok (place, node)) :
    ∃ above name there, names = above ++ [name] ∧ name ≠ ".." ∧
      t.follow here above = .ok (there, some .directory) ∧ place = there ++ [name] ∧
      node = t.node? (there ++ [name]) := by
  cases hnames : names.reverse with
  | nil =>
    rw [List.reverse_eq_nil_iff] at hnames
    subst hnames
    cases h
    exact absurd rfl hnode
  | cons name above =>
    obtain rfl : names = above.reverse ++ [name] := by
      rw [← List.reverse_reverse names, hnames, List.reverse_cons]
    have hname : name ≠ ".." := by
      rintro rfl
      exact hnode (follow_up h)
    obtain ⟨there, hthere, hplace, hstands⟩ := follow_concat hname h
    exact ⟨above.reverse, name, there, rfl, hname, hthere, hplace, hstands⟩

/-- A file that a path leads to stands in the place. -/
theorem node?_of_locate_file {ends : Bool}
    (h : t.locate path = .ok (place, some (.file content), ends)) :
    t.node? place = some (.file content) := by
  obtain ⟨r, -, hfollow⟩ := follow_of_locate h
  have hfile : some (FileNode.file content) ≠ some .directory := nofun
  obtain ⟨above, name, there, -, -, -, rfl, hstands⟩ := exists_concat_of_follow hfile hfollow
  exact hstands.symm

/-- A path whose last part is empty ends in a slash. -/
theorem getLast?_of_split {parts : List String} (hne : path ≠ "")
    (hparts : Text.split '/' path = parts ++ [""]) : path.toList.getLast? = some '/' := by
  have hchars : path.toList ≠ [] := by simpa using hne
  rw [List.getLast?_eq_some_getLast hchars, Option.some_inj]
  generalize hlast : path.toList.getLast hchars = c
  have hcs : path.toList.dropLast ++ [c] = path.toList := hlast ▸ List.dropLast_concat_getLast hchars
  by_cases hc : c = '/'
  · exact hc
  · obtain ⟨front, part, hsplit⟩ := Text.exists_splitChars_concat hc path.toList.dropLast
    rw [Text.split, ← hcs, hsplit, List.map_append, List.map_singleton] at hparts
    have hpart := (List.append_inj' hparts rfl).2
    simp at hpart

/-- A path that ends as only a directory can, but not in a slash after a name, ends in `.` or
    `..`. -/
theorem endsInPoint_or_up {r : Route} (hroute : t.route path = .ok r)
    (hopen : isClosed path = false) (hends : r.endsInDirectory = true) :
    r.endsInPoint = true ∨ ∃ above, r.names = above ++ [".."] := by
  unfold route at hroute
  split at hroute
  · cases hroute
  split at hroute
  · cases hroute
  rename_i hne
  split at hroute
  · cases hroute
  cases hroute
  -- the last of the parts that are not empty
  have hlast : ((Text.split '/' path).filter (· ≠ "")).getLast? = some "." ∨
      ((Text.split '/' path).filter (· ≠ "")).getLast? = some ".." := by
    have hparts : Text.split '/' path ≠ [] := by
      simpa [Text.split] using Text.splitChars_ne_nil '/' path.toList
    obtain ⟨front, last, hsplit⟩ : ∃ front last, Text.split '/' path = front ++ [last] :=
      ⟨_, _, (List.dropLast_concat_getLast hparts).symm⟩
    simp only [hsplit, List.getLast?_concat, Option.getD_some, decide_eq_true_eq] at hends
    obtain rfl | rfl | rfl := hends
    · have hslash := getLast?_of_split hne hsplit
      simpa [isClosed, hslash, Classical.or_iff_not_imp_left] using hopen
    · exact .inl (by simp [hsplit])
    · exact .inr (by simp [hsplit])
  obtain hpoint | hup := hlast
  · exact .inl (decide_eq_true hpoint)
  · obtain ⟨front, hfront⟩ := List.getLast?_eq_some_iff.mp hup
    refine .inr ⟨front.filter (· ≠ "."), ?_⟩
    have hnames := congrArg (List.filter (· ≠ ".")) hfront
    rw [List.filter_filter, List.filter_append] at hnames
    simpa [Bool.and_comm] using hnames

/-! ## Files that are written -/

/-- A file that is put where names lead is found there by the same names. -/
theorem follow_put (hnode : node ≠ some .directory)
    (h : t.follow here names = .ok (place, node)) (content : ByteArray) :
    (t.put place (.file content)).follow here names = .ok (place, some (.file content)) := by
  obtain ⟨above, name, there, rfl, hname, hthere, rfl, rfl⟩ := exists_concat_of_follow hnode h
  have hkeep : ∀ q, t.node? q = some .directory →
      (t.put (there ++ [name]) (.file content)).node? q = some .directory := by
    intro q hq
    rw [node?_put (by simp), if_neg, hq]
    rintro rfl
    exact hnode hq
  rw [follow_append hthere, follow_singleton hname] at h
  rw [follow_append (follow_of_directories hkeep hthere), follow_singleton hname,
    node?_put (by simp), if_pos rfl]
  split at h
  · cases h
  · rename_i hshort
    rw [if_neg hshort]

/-- A path that leads to no directory and can be opened for writing ends in a name. -/
theorem endsInDirectory_of_locate {r : Route} {ends : Bool} (hroute : t.route path = .ok r)
    (hopen : isClosed path = false) (hnode : node ≠ some .directory)
    (h : t.locate path = .ok (place, node, ends)) : r.endsInDirectory = false := by
  obtain ⟨_, hsame, hfollow⟩ := follow_of_locate h
  cases hroute.symm.trans hsame
  rw [Bool.eq_false_iff]
  intro hends
  obtain hpoint | ⟨above, hup⟩ := endsInPoint_or_up hroute hopen hends
  · unfold locate at h
    rcases node with _ | _ | content
    · simp [hroute, hfollow, hpoint, bind, Except.bind] at h
    · exact hnode rfl
    · simp [hroute, hfollow, hends, bind, Except.bind] at h
  · rw [hup] at hfollow
    exact hnode (follow_up hfollow)

/-- A write that succeeds leaves the content where the path leads. -/
theorem locate_of_write (h : t.write path content = .ok t') :
    ∃ place, t'.locate path = .ok (place, some (.file content), false) := by
  cases hopen : isClosed path with
  | true => exact absurd h (write_of_closed hopen content)
  | false =>
    cases hlocate : t.locate path with
    | error f =>
      rw [write_of_error hopen hlocate] at h
      cases h
    | ok found =>
      obtain ⟨place, node, ends⟩ := found
      rw [write_of_locate hopen hlocate] at h
      split at h
      · cases h
      rename_i hnode
      cases h
      obtain ⟨r, hroute, hfollow⟩ := follow_of_locate hlocate
      have hroute' : (t.put place (.file content)).route path = .ok r :=
        (route_congr rfl path).trans hroute
      exact ⟨place, locate_of_follow_file hroute' (follow_put hnode hfollow content)
        (endsInDirectory_of_locate hroute hopen hnode hlocate)⟩

/-- A text that was written to a path is read from it. -/
theorem readText_of_writeText {text : String} (h : t.writeText path text = .ok t') :
    t'.readText path = .ok text := by
  obtain ⟨place, hlocate⟩ := locate_of_write h
  exact readText_of_locate hlocate

/-! ## Directories that are created -/

/-- Where directories are created along some names, no file comes, goes or changes. -/
theorem node?_makeAlong (q : Place) (content : ByteArray) (created : Bool) (names : List String) :
    (t.makeAlong created here names).1.node? q = some (.file content) ↔
      t.node? q = some (.file content) := by
  induction names generalizing t created here with
  | nil => exact Iff.rfl
  | cons first names ih =>
    unfold makeAlong
    split
    · exact ih created
    · split
      · exact Iff.rfl
      · cases hnode : t.node? (here ++ [first]) with
        | none =>
          -- nothing stood where the new directory stands
          refine (ih true).trans ?_
          rw [node?_put (by simp)]
          split
          · rename_i hq
            simp [hq, hnode]
          · exact Iff.rfl
        | some n =>
          cases n with
          | directory => exact ih created
          | file _ => exact Iff.rfl

theorem node?_makeDirectories (path : String) (t : FileTree) (q : Place) (content : ByteArray) :
    (t.makeDirectories path).1.node? q = some (.file content) ↔
      t.node? q = some (.file content) := by
  unfold makeDirectories
  split
  · exact Iff.rfl
  · cases hroute : t.route path with
    | error f => exact Iff.rfl
    | ok r =>
      simp only
      split
      · have hmake : (t.makeAlong false r.start r.names.dropLast).1.node? q = _ ↔ _ :=
          node?_makeAlong q content false r.names.dropLast
        generalize t.makeAlong false r.start r.names.dropLast = made at hmake
        obtain ⟨t', result⟩ := made
        cases result <;> exact hmake
      · exact node?_makeAlong q content false r.names

end SkillPlan.FileTree

import SkillPlan.Proofs.FileTree

/-!
# What a path leads to

A path is taken apart and its names are followed. What is found there decides what every operation on
the path does.
-/

namespace SkillPlan.FileTree

variable {t t' : FileTree} {directory path : String} {place : Place} {node : Option FileNode}
  {ends : Bool} {f : FileFault}

/-! ## Locating -/

/-- What a path leads to is found by following its names. -/
theorem follow_of_locate (h : t.locate path = .ok (place, node, ends)) :
    ∃ r, t.route path = .ok r ∧ t.follow r.start r.names = .ok (place, node) := by
  unfold locate at h
  cases hroute : t.route path with
  | error f => simp [hroute, bind, Except.bind] at h
  | ok r =>
    refine ⟨r, rfl, ?_⟩
    cases hfollow : t.follow r.start r.names with
    | error f => simp [hroute, hfollow, bind, Except.bind] at h
    | ok found =>
      obtain ⟨there, found⟩ := found
      simp only [hroute, hfollow, bind, Except.bind, pure, Except.pure] at h
      rcases found with _ | _ | content <;> grind

/-- A path is taken apart in the same way in every tree with the same home. -/
theorem route_congr (hhome : t'.home = t.home) (path : String) : t'.route path = t.route path := by
  unfold route
  rw [hhome]

/-- A path that is followed to a directory leads there, however it ends. -/
theorem locate_of_follow {r : Route} (hroute : t.route path = .ok r)
    (hfollow : t.follow r.start r.names = .ok (place, some .directory)) :
    t.locate path = .ok (place, some .directory, r.endsInDirectory) := by
  simp [locate, hroute, hfollow, bind, Except.bind, pure, Except.pure]

/-- A path that is followed to a file and does not end as only a directory can leads there. -/
theorem locate_of_follow_file {r : Route} {content : ByteArray} (hroute : t.route path = .ok r)
    (hfollow : t.follow r.start r.names = .ok (place, some (.file content)))
    (hends : r.endsInDirectory = false) :
    t.locate path = .ok (place, some (.file content), false) := by
  simp [locate, hroute, hfollow, hends, bind, Except.bind, pure, Except.pure]

/-- A path that leads to a directory is followed there. -/
theorem follow_of_locate_directory
    (h : t.locate directory = .ok (place, some .directory, ends)) :
    '\x00' ∉ directory.toList ∧ directory ≠ "" ∧
      t.follow (t.startOf directory) (namesOf directory) = .ok (place, some .directory) := by
  obtain ⟨r, hroute, hfollow⟩ := follow_of_locate h
  obtain ⟨hnul, hempty, hstart, hnames⟩ := route_eq_ok hroute
  exact ⟨hnul, hempty, hstart ▸ hnames ▸ hfollow⟩

/-! ## Operations, by what their path leads to -/

theorem exists?_of_locate (h : t.locate path = .ok (place, node, ends)) :
    t.exists? path = node.isSome := by
  unfold exists?
  rw [h]
  cases node <;> rfl

theorem exists?_of_error (h : t.locate path = .error f) : t.exists? path = false := by
  unfold exists?
  rw [h]

theorem exists_of_isFile (h : t.isFile path = true) :
    ∃ place content ends, t.locate path = .ok (place, some (.file content), ends) := by
  unfold isFile at h
  split at h
  · rename_i place content ends hlocate
    exact ⟨place, content, ends, hlocate⟩
  · cases h

theorem read_of_locate : t.locate path = .ok (place, node, ends) → t.read path =
    match node with
    | some (.file content) => .ok content
    | some .directory => .error .isDirectory
    | none => .error .notFound := by
  intro h
  unfold read
  rw [h]
  rcases node with _ | _ | content <;> rfl

theorem isFile_of_readText {text : String} (h : t.readText path = .ok text) :
    t.isFile path = true := by
  unfold isFile
  cases hlocate : t.locate path with
  | error f => simp [readText, read, hlocate, bind, Except.bind] at h
  | ok found =>
    obtain ⟨place, node, ends⟩ := found
    rcases node with _ | _ | content
    · simp [readText, read_of_locate hlocate, bind, Except.bind] at h
    · simp [readText, read_of_locate hlocate, bind, Except.bind] at h
    · rfl

/-- A file with the bytes of a text is read as the text. -/
theorem readText_of_locate {text : String}
    (h : t.locate path = .ok (place, some (.file text.toUTF8), ends)) : t.readText path = .ok text := by
  have hdecode : String.fromUTF8? text.toUTF8 = some text := by
    simp only [String.fromUTF8?, String.toUTF8_eq_toByteArray, dif_pos text.isValidUTF8]
    rfl
  simp only [readText, read_of_locate h, bind, Except.bind, hdecode]
  rfl

theorem write_of_locate (hopen : isClosed path = false)
    (h : t.locate path = .ok (place, node, ends)) (content : ByteArray) :
    t.write path content =
      if node = some .directory then .error .isDirectory else .ok (t.put place (.file content)) := by
  unfold write
  rw [hopen, h]
  rcases node with _ | _ | content <;> rfl

/-- Nothing is written to a path that ends in a slash after a name. -/
theorem write_of_closed (hclosed : isClosed path = true) (content : ByteArray) :
    t.write path content ≠ .ok t' := by
  unfold write
  rw [if_pos hclosed]
  cases hroute : t.route path with
  | error f => simp [bind, Except.bind]
  | ok r =>
    cases hfollow : t.follow r.start r.names.dropLast with
    | error f => simp [hfollow, bind, Except.bind]
    | ok found =>
      obtain ⟨there, found⟩ := found
      rcases found with _ | _ | _ <;> simp [hfollow, bind, Except.bind]

theorem write_of_error (hopen : isClosed path = false) (h : t.locate path = .error f)
    (content : ByteArray) : t.write path content = .error f := by
  unfold write
  rw [hopen, h]
  rfl

theorem remove_of_locate : t.locate path = .ok (place, node, ends) → t.remove path =
    match node with
    | some (.file _) => .ok (t.prune place)
    | some .directory => .error .isDirectory
    | none => .error .notFound := by
  intro h
  unfold remove
  rw [h]
  rcases node with _ | _ | content <;> rfl

theorem list_of_locate (h : t.locate path = .ok (place, some .directory, ends)) :
    t.list path = .ok (t.namesBelow place) := by
  unfold list
  rw [h]
  rfl

/-- What a path to a directory leads to is a directory of the tree. -/
theorem Rooted.node?_of_locate (h : t.Rooted)
    (hlocate : t.locate path = .ok (place, some .directory, ends)) :
    t.node? place = some .directory := by
  obtain ⟨-, -, hfollow⟩ := follow_of_locate_directory hlocate
  exact h.node?_follow (h.node?_startOf path) hfollow

end SkillPlan.FileTree

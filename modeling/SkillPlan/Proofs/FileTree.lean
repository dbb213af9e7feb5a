import SkillPlan.FileTree

/-!
# What stands where in a file tree

Which node stands at a place after one was put or pruned, where a path leads, and what a change at
one place leaves alone: following names only asks which directories there are, so a file can come or
go without any path to a directory leading elsewhere (`follow_of_directories`).
-/

namespace SkillPlan.FileTree

variable {t : FileTree} {p q place here : Place} {name path : String} {n : FileNode}

/-! ## Nodes -/

theorem lookup_filter (keep : Place → Bool) (es : List (Place × FileNode)) (p : Place) :
    (es.filter fun e => keep e.1).lookup p = if keep p then es.lookup p else none := by
  induction es with
  | nil => simp
  | cons e rest ih =>
    obtain ⟨k, v⟩ := e
    by_cases hkp : p = k
    · subst hkp
      cases hk : keep p with
      | true => simp [hk]
      | false => rw [List.filter_cons_of_neg (by simp [hk]), ih, hk]; rfl
    · have hne : (p == k) = false := by simpa using hkp
      cases hk : keep k <;> simp [hk, List.lookup_cons, hne, ih]

theorem node?_put (hp : p ≠ []) : (t.put p n).node? q = if q = p then some n else t.node? q := by
  unfold node? put
  have hfilter : (t.nodes.filter fun e => e.1 ≠ p).lookup q =
      if decide (q ≠ p) then t.nodes.lookup q else none := lookup_filter (· ≠ p) t.nodes q
  by_cases hq : q = []
  · subst hq
    simp [Ne.symm hp]
  · by_cases hqp : q = p
    · simp [hqp, hp]
    · have hne : (q == p) = false := by simpa using hqp
      simp only [List.lookup_cons, hne, if_neg hq, hfilter]
      simp [hqp]

theorem node?_prune (hp : p ≠ []) :
    (t.prune p).node? q = if p <+: q then none else t.node? q := by
  unfold node? prune
  have hfilter : (t.nodes.filter fun e => !p.isPrefixOf e.1).lookup q =
      if !p.isPrefixOf q then t.nodes.lookup q else none :=
    lookup_filter (!p.isPrefixOf ·) t.nodes q
  by_cases hq : q = []
  · subst hq
    simp [hp]
  · rw [if_neg hq, if_neg hq, hfilter]
    by_cases hpq : p <+: q
    · have hb : p.isPrefixOf q = true := List.isPrefixOf_iff_prefix.mpr hpq
      simp [hb, hpq]
    · have hb : p.isPrefixOf q = false := by
        rwa [Bool.eq_false_iff, ne_eq, List.isPrefixOf_iff_prefix]
      simp [hb, hpq]

/-! ## Names below a place -/

/-- The name of an entry that stands directly below a place. -/
def nameBelow? (p : Place) (e : Place × FileNode) : Option String :=
  match e.1.reverse with
  | [] => none
  | name :: above => if above.reverse = p then some name else none

theorem nameBelow?_eq_some {e : Place × FileNode} :
    nameBelow? p e = some name ↔ e.1 = p ++ [name] := by
  unfold nameBelow?
  rw [← List.reverse_inj]
  cases h : e.1.reverse with
  | nil => simp
  | cons last above =>
    simp only [List.reverse_append, List.reverse_cons, List.reverse_nil, List.nil_append,
      List.singleton_append, List.cons.injEq]
    constructor
    · intro hsome
      split at hsome
      · rename_i habove
        subst habove
        simp_all
      · cases hsome
    · rintro ⟨rfl, rfl⟩
      simp

theorem mem_namesBelow : name ∈ t.namesBelow p ↔ t.node? (p ++ [name]) ≠ none := by
  have hne : p ++ [name] ≠ [] := by simp
  have hlookup : t.nodes.lookup (p ++ [name]) ≠ none ↔ ∃ n, (p ++ [name], n) ∈ t.nodes := by
    induction t.nodes with
    | nil => simp
    | cons e rest ih =>
      obtain ⟨k, v⟩ := e
      by_cases hk : p ++ [name] = k
      · subst hk
        simp
      · have hb : (p ++ [name] == k) = false := by simpa using hk
        simp [List.lookup_cons, hb, hk, ih]
  rw [node?, if_neg hne, hlookup]
  change name ∈ t.nodes.filterMap (nameBelow? p) ↔ _
  rw [List.mem_filterMap]
  constructor
  · rintro ⟨e, he, hname⟩
    exact ⟨e.2, nameBelow?_eq_some.mp hname ▸ he⟩
  · rintro ⟨n, hn⟩
    exact ⟨_, hn, nameBelow?_eq_some.mpr rfl⟩

/-- The entries that are kept are those of the other names. -/
theorem filterMap_nameBelow?_filter (keep : Place × FileNode → Bool) (es : List (Place × FileNode))
    (hkeep : ∀ e ∈ es, ∀ other, e.1 = p ++ [other] → keep e = decide (other ≠ name)) :
    (es.filter keep).filterMap (nameBelow? p) =
      (es.filterMap (nameBelow? p)).filter fun other => other ≠ name := by
  induction es with
  | nil => rfl
  | cons e rest ih =>
    have hrest := ih fun e he => hkeep e (List.mem_cons_of_mem _ he)
    cases hname : nameBelow? p e with
    | none => cases hk : keep e <;> simp [hk, hname, hrest]
    | some other =>
      have hk := hkeep e List.mem_cons_self other (nameBelow?_eq_some.mp hname)
      by_cases hother : other = name <;> simp [hk, hother, hname, hrest]

theorem namesBelow_put (t : FileTree) (p : Place) (name : String) (n : FileNode) :
    (t.put (p ++ [name]) n).namesBelow p =
      name :: (t.namesBelow p).filter fun other => other ≠ name := by
  have hhead : nameBelow? p (p ++ [name], n) = some name := nameBelow?_eq_some.mpr rfl
  change ((p ++ [name], n) :: t.nodes.filter _).filterMap (nameBelow? p) = _
  rw [List.filterMap_cons_some hhead]
  congr 1
  apply filterMap_nameBelow?_filter
  intro e _ other he
  simp [he]

theorem namesBelow_prune (t : FileTree) (p : Place) (name : String) :
    (t.prune (p ++ [name])).namesBelow p =
      (t.namesBelow p).filter fun other => other ≠ name := by
  apply filterMap_nameBelow?_filter
  intro e _ other he
  have hbelow : (p ++ [name]).isPrefixOf e.1 = decide (other = name) := by
    rw [Bool.eq_iff_iff, List.isPrefixOf_iff_prefix, he, List.prefix_append_right_inj]
    simp [eq_comm]
  simp [hbelow]

/-! ## Following names -/

theorem follow_singleton (hname : name ≠ "..") :
    t.follow here [name] =
      if maxNameBytes < name.utf8ByteSize then .error .nameTooLong
      else .ok (here ++ [name], t.node? (here ++ [name])) := by
  unfold follow
  rw [if_neg hname]
  split
  · rfl
  · cases h : t.node? (here ++ [name]) with
    | none => rfl
    | some n => cases n <;> rfl

/-- Names are followed from the directory that those before them lead to. -/
theorem follow_append {names rest : List String}
    (h : t.follow here names = .ok (place, some .directory)) :
    t.follow here (names ++ rest) = t.follow place rest := by
  induction names generalizing here with
  | nil =>
    cases h
    rfl
  | cons first names ih =>
    unfold follow at h
    rw [List.cons_append]
    conv => lhs; unfold follow
    split
    · rename_i hup
      rw [if_pos hup] at h
      exact ih h
    · rename_i hup
      rw [if_neg hup] at h
      split
      · rename_i hlong
        rw [if_pos hlong] at h
        cases h
      · rename_i hshort
        rw [if_neg hshort] at h
        cases hnode : t.node? (here ++ [first]) with
        | none =>
          simp only [hnode] at h
          split at h <;> cases h
        | some n =>
          cases n with
          | directory =>
            simp only [hnode] at h
            exact ih h
          | file content =>
            simp only [hnode] at h
            split at h <;> cases h

/-- Names that others come before are followed from a directory to which those lead. -/
theorem exists_follow_of_append {names rest : List String} {node : Option FileNode}
    (hrest : rest ≠ []) (h : t.follow here (names ++ rest) = .ok (place, node)) :
    ∃ above, t.follow here names = .ok (above, some .directory) ∧
      t.follow above rest = .ok (place, node) := by
  induction names generalizing here with
  | nil => exact ⟨here, rfl, h⟩
  | cons first names ih =>
    rw [List.cons_append, follow] at h
    rw [follow]
    split at h
    · rename_i hup
      rw [if_pos hup]
      exact ih h
    · rename_i hup
      rw [if_neg hup]
      split at h
      · cases h
      · rename_i hshort
        rw [if_neg hshort]
        cases hnode : t.node? (here ++ [first]) with
        | none => simp [hnode, hrest] at h
        | some n =>
          cases n with
          | directory =>
            simp only [hnode] at h ⊢
            exact ih h
          | file content => simp [hnode, hrest] at h

/-- What stands under the last of some names stands in the directory that the others lead to. -/
theorem follow_concat {names : List String} {node : Option FileNode} (hname : name ≠ "..")
    (h : t.follow here (names ++ [name]) = .ok (place, node)) :
    ∃ above, t.follow here names = .ok (above, some .directory) ∧ place = above ++ [name] ∧
      node = t.node? (above ++ [name]) := by
  obtain ⟨above, habove, hlast⟩ := exists_follow_of_append (List.cons_ne_nil name []) h
  rw [follow_singleton hname] at hlast
  split at hlast
  · cases hlast
  · cases hlast
    exact ⟨above, habove, rfl, rfl⟩

/-- A path to a directory leads there in every tree that has the same directories and more. -/
theorem follow_of_directories {t' : FileTree} {names : List String}
    (hkeep : ∀ q, t.node? q = some .directory → t'.node? q = some .directory)
    (h : t.follow here names = .ok (place, some .directory)) :
    t'.follow here names = .ok (place, some .directory) := by
  induction names generalizing here with
  | nil => exact h
  | cons first names ih =>
    unfold follow at h ⊢
    split at h
    · rename_i hup
      rw [if_pos hup]
      exact ih h
    · rename_i hup
      rw [if_neg hup]
      split at h
      · cases h
      · rename_i hshort
        rw [if_neg hshort]
        -- only a directory under the first name leads to a directory
        cases hnode : t.node? (here ++ [first]) with
        | none =>
          simp only [hnode] at h
          split at h <;> cases h
        | some n =>
          cases n with
          | directory =>
            simp only [hnode, hkeep _ hnode] at h ⊢
            exact ih h
          | file content =>
            simp only [hnode] at h
            split at h <;> cases h

/-! ## The parts of a path -/

/-- Where a path starts. -/
def startOf (t : FileTree) (path : String) : Place :=
  if path.toList.head? = some '/' then [] else t.home

/-- The names that a path follows. -/
def namesOf (path : String) : List String :=
  (Text.split '/' path).filter fun s => s ≠ "" ∧ s ≠ "."

/-- A path that can be taken apart is followed from its start along its names. -/
theorem route_eq_ok {r : Route} (h : t.route path = .ok r) :
    '\x00' ∉ path.toList ∧ path ≠ "" ∧ r.start = t.startOf path ∧ r.names = namesOf path := by
  unfold route at h
  split at h
  · cases h
  · rename_i hnul
    split at h
    · cases h
    · rename_i hempty
      split at h
      · cases h
      · cases h
        exact ⟨by simpa using hnul, hempty, rfl, rfl⟩

/-! ## Rooted trees -/

/-- Everything stands in directories, and paths start from one. -/
structure Rooted (t : FileTree) : Prop where
  home : t.node? t.home = some .directory
  above : ∀ p q, t.node? p ≠ none → q <+: p → q ≠ p → t.node? q = some .directory

theorem rooted_empty : (∅ : FileTree).Rooted where
  home := rfl
  above p q hp hqp hne := by
    unfold node? at hp
    split at hp
    · rename_i hnil
      subst hnil
      exact absurd (List.prefix_nil.mp hqp) hne
    · exact absurd rfl hp

namespace Rooted

/-- A prefix of a directory is a directory. -/
theorem of_prefix (h : t.Rooted) (hp : t.node? p = some .directory) (hqp : q <+: p) :
    t.node? q = some .directory := by
  by_cases hne : q = p
  · rw [hne, hp]
  · exact h.above p q (by simp [hp]) hqp hne

/-- Names lead from a directory to a directory that stands in the tree. -/
theorem node?_follow (h : t.Rooted) {names : List String} (hhere : t.node? here = some .directory)
    (hfollow : t.follow here names = .ok (place, some .directory)) :
    t.node? place = some .directory := by
  induction names generalizing here with
  | nil =>
    cases hfollow
    exact hhere
  | cons first names ih =>
    unfold follow at hfollow
    split at hfollow
    · exact ih (h.of_prefix hhere (List.dropLast_prefix here)) hfollow
    · split at hfollow
      · cases hfollow
      · cases hnode : t.node? (here ++ [first]) with
        | none =>
          simp only [hnode] at hfollow
          split at hfollow <;> cases hfollow
        | some n =>
          cases n with
          | directory =>
            simp only [hnode] at hfollow
            exact ih hnode hfollow
          | file content =>
            simp only [hnode] at hfollow
            split at hfollow <;> cases hfollow

/-- A node may be put into a directory, but a file not in the place of a directory. -/
theorem put (h : t.Rooted) (hp : t.node? p = some .directory)
    (hn : t.node? (p ++ [name]) = some .directory → n = .directory) :
    (t.put (p ++ [name]) n).Rooted := by
  have hnode : ∀ q, (t.put (p ++ [name]) n).node? q =
      if q = p ++ [name] then some n else t.node? q := fun q => node?_put (by simp)
  have hkeep : ∀ q, t.node? q = some .directory →
      (t.put (p ++ [name]) n).node? q = some .directory := by
    intro q hq
    rw [hnode]
    split
    · rename_i hqp
      subst hqp
      rw [hn hq]
    · exact hq
  refine ⟨hkeep _ h.home, fun r q hr hqr hne => hkeep q ?_⟩
  rw [hnode] at hr
  split at hr
  · -- above the new node stands its directory
    rename_i hnew
    subst hnew
    obtain hqp | hqp := List.prefix_concat_iff.mp hqr
    · exact absurd hqp hne
    · exact h.of_prefix hp hqp
  · exact h.above r q hr hqr hne

/-- Where a file is pruned, nothing else goes with it, since nothing stands below a file. -/
theorem node?_prune_of_ne (h : t.Rooted) {content : ByteArray}
    (hp : t.node? p = some (.file content)) (hne : q ≠ p) : (t.prune p).node? q = t.node? q := by
  have hroot : p ≠ [] := by
    rintro rfl
    cases hp
  rw [node?_prune hroot]
  split
  · rename_i hbelow
    apply Classical.byContradiction
    intro hstood
    have hdirectory := h.above q p (Ne.symm hstood) hbelow (Ne.symm hne)
    rw [hp] at hdirectory
    cases hdirectory
  · rfl

/-- Where a file is pruned, no directory goes with it. -/
theorem node?_prune_of_directory (h : t.Rooted) {content : ByteArray}
    (hp : t.node? p = some (.file content)) (hq : t.node? q = some .directory) :
    (t.prune p).node? q = some .directory := by
  rw [h.node?_prune_of_ne hp, hq]
  rintro rfl
  rw [hp] at hq
  cases hq

theorem prune (h : t.Rooted) {content : ByteArray} (hp : t.node? p = some (.file content)) :
    (t.prune p).Rooted := by
  have hne : p ≠ [] := by
    rintro rfl
    cases hp
  refine ⟨h.node?_prune_of_directory hp h.home, fun r q hr hqr hqne => ?_⟩
  rw [node?_prune hne] at hr
  split at hr
  · exact absurd rfl hr
  · exact h.node?_prune_of_directory hp (h.above r q hr hqr hqne)

theorem makeAlong (h : t.Rooted) (created : Bool) (names : List String)
    (hhere : t.node? here = some .directory) : (t.makeAlong created here names).1.Rooted := by
  induction names generalizing t created here with
  | nil => exact h
  | cons first names ih =>
    unfold FileTree.makeAlong
    split
    · exact ih h created (h.of_prefix hhere (List.dropLast_prefix here))
    · split
      · exact h
      · cases hnode : t.node? (here ++ [first]) with
        | none =>
          -- the new directory stands in the one that was reached
          have hput : (t.put (here ++ [first]) .directory).Rooted := h.put hhere fun _ => rfl
          refine ih hput true ?_
          rw [node?_put (by simp), if_pos rfl]
        | some n =>
          cases n with
          | directory => exact ih h created hnode
          | file content => exact h

/-- The directory where a path starts. -/
theorem node?_startOf (h : t.Rooted) (path : String) :
    t.node? (t.startOf path) = some .directory := by
  unfold startOf
  split
  · rfl
  · exact h.home

theorem makeDirectories (h : t.Rooted) (path : String) : (t.makeDirectories path).1.Rooted := by
  unfold FileTree.makeDirectories
  split
  · exact h
  · cases hroute : t.route path with
    | error f => exact h
    | ok r =>
      obtain ⟨-, -, hstart, -⟩ := route_eq_ok hroute
      have hstart : t.node? r.start = some .directory := hstart ▸ h.node?_startOf path
      simp only
      split
      · have hmake := h.makeAlong false r.names.dropLast hstart
        generalize t.makeAlong false r.start r.names.dropLast = made at hmake
        obtain ⟨t', result⟩ := made
        cases result <;> exact hmake
      · exact h.makeAlong false r.names hstart

end Rooted

end SkillPlan.FileTree

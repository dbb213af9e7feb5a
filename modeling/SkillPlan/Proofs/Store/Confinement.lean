import SkillPlan.Proofs.Store.Refinement

/-!
# What a store touches

A store in a directory has one entry of the directory for each name, the file of its key. Saving and
erasing alter that entry at most and the other operations alter nothing (`perform_altered`). What an
operation answers and what it does to its entry depends on that entry alone, or for the listing on the
names in the directory: two trees with the same there are not told apart, whatever else is in them
(`perform_congr`), and neither are they by a sequence of operations (`answers_congr`).
-/

namespace SkillPlan

open FileTree (AlteredAt IsName Rooted)
open Storage.Directory (fileName isName_fileName plain_fileName reserved)

variable {W : Type}

/-! ## What a storage reads -/

namespace Storage.Directory

/-- Two trees go through the same change at an entry. -/
inductive SameChange (entry : Place) (t t' : FileTree) :
    Except Error FileTree → Except Error FileTree → Prop
  | failed (e : Error) : SameChange entry t t' (.error e) (.error e)
  | kept : SameChange entry t t' (.ok t) (.ok t')
  | put (content : ByteArray) :
      SameChange entry t t' (.ok (t.put entry (.file content))) (.ok (t'.put entry (.file content)))
  | pruned : SameChange entry t t' (.ok (t.prune entry)) (.ok (t'.prune entry))

section

variable {t t' : FileTree} {directory key : String} {place : Place}
  (h : t.LeadsTo directory place) (h' : t'.LeadsTo directory place)

include h h'

section

variable (hsame : t'.node? (place ++ [fileName key]) = t.node? (place ++ [fileName key]))

include hsame

theorem locate_same : t'.locate (path directory key) = t.locate (path directory key) :=
  h.locate_congr h' (isName_fileName key) hsame

theorem set_same (value : Json) : SameChange (place ++ [fileName key]) t t'
    (set directory t key value) (set directory t' key value) := by
  have hlocate' := locate_same h h' hsame
  cases hlocate : t.locate (path directory key) with
  | error f =>
    rw [set_of_error hlocate, set_of_error (hlocate'.trans hlocate)]
    exact .failed _
  | ok found =>
    obtain ⟨there, node, ends⟩ := found
    obtain ⟨above, habove, rfl, rfl⟩ := (isName_fileName key).of_locate_join hlocate
    obtain rfl := h.unique habove
    rw [set_of_locate hlocate, set_of_locate (hlocate'.trans hlocate)]
    split
    · exact .failed _
    · exact .put _

theorem erase_same : SameChange (place ++ [fileName key]) t t'
    (erase directory t key) (erase directory t' key) := by
  have hlocate' := locate_same h h' hsame
  cases hlocate : t.locate (path directory key) with
  | error f =>
    rw [erase_of_error hlocate, erase_of_error (hlocate'.trans hlocate)]
    exact .kept
  | ok found =>
    obtain ⟨there, node, ends⟩ := found
    obtain ⟨above, habove, rfl, -⟩ := (isName_fileName key).of_locate_join hlocate
    obtain rfl := h.unique habove
    rw [erase_of_locate hlocate, erase_of_locate (hlocate'.trans hlocate)]
    rcases node with _ | _ | content
    · exact .kept
    · exact .failed _
    · exact .pruned

theorem exists?_same : t'.exists? (path directory key) = t.exists? (path directory key) := by
  unfold FileTree.exists?
  rw [locate_same h h' hsame]

theorem get?_same : get? directory t' key = get? directory t key := by
  have hread : t'.readText (path directory key) = t.readText (path directory key) := by
    unfold FileTree.readText FileTree.read
    rw [locate_same h h' hsame]
  simp only [get?, exists?_same h h' hsame, hread]

end

/-- The keys are those of the names in the directory. -/
theorem keys_same (hnames : (t'.namesBelow place).Perm (t.namesBelow place)) :
    (keys directory t').Perm (keys directory t) := by
  unfold keys FileTree.list
  rw [h.locate_directory_congr h']
  cases hlocate : t.locate directory with
  | error f => exact .refl _
  | ok found =>
    obtain ⟨there, node, ends⟩ := found
    rcases node with _ | _ | content
    · exact .refl _
    · obtain rfl := h.unique (FileTree.follow_of_locate_directory hlocate).2.2
      exact hnames.filterMap _
    · exact .refl _

end

end Storage.Directory

open Storage.Directory (SameChange)

/-! ## Operations -/

/-- The name whose plan an operation is there to change. -/
def Operation.changed? : Operation W → Option String
  | .save name _ | .erase name => some name
  | .load _ _ | .contains _ | .list => none

namespace PlanStore

variable {t t' : FileTree} {directory : String} {place : Place} {scope : Option String}
  {op : Operation W}

/-- The name of the file of a plan. -/
def fileOf (p : PlanStore FileTree) (name : String) : String := fileName (p.fullKey name)

/-- A file tree that has a base directory: a path leads to one. -/
structure HasBase (directory : String) (place : Place) (t : FileTree) : Prop where
  rooted : t.Rooted
  leads : t.LeadsTo directory place

/-! ## What an operation alters -/

theorem save_altered (h : HasBase directory place t) {name : String} {plan : Plan W}
    (hsave : (inDirectory directory scope).save t name plan = .ok t') :
    t'.Rooted ∧ AlteredAt (place ++ [(inDirectory directory scope).fileOf name]) t t' := by
  obtain ⟨above, habove, haltered⟩ := Storage.Directory.altered_set hsave
  obtain rfl := h.leads.unique habove
  exact ⟨Storage.Directory.rooted_set h.rooted hsave, haltered⟩

theorem erase_altered (h : HasBase directory place t) {name : String}
    (herase : (inDirectory directory scope).erase t name = .ok t') :
    t'.Rooted ∧ AlteredAt (place ++ [(inDirectory directory scope).fileOf name]) t t' := by
  refine ⟨Storage.Directory.rooted_erase h.rooted herase, ?_⟩
  obtain rfl | ⟨above, habove, haltered⟩ := Storage.Directory.altered_erase h.rooted herase
  · exact .refl _ _
  · obtain rfl := h.leads.unique habove
    exact haltered

/-- An operation alters nothing, or the entry of the name that it is there to change. -/
theorem perform_altered (h : HasBase directory place t) (scope : Option String)
    (op : Operation W) :
    ((inDirectory directory scope).perform t op).1 = t ∨ ∃ name, op.changed? = some name ∧
      ((inDirectory directory scope).perform t op).1.Rooted ∧
        AlteredAt (place ++ [(inDirectory directory scope).fileOf name]) t
          ((inDirectory directory scope).perform t op).1 := by
  obtain hsame | ⟨name, plan, hop, hsave⟩ | ⟨name, hop, herase⟩ :=
    (inDirectory directory scope).perform_cases t op
  · exact .inl hsame
  · exact .inr ⟨name, congrArg Operation.changed? hop, save_altered h hsave⟩
  · exact .inr ⟨name, congrArg Operation.changed? hop, erase_altered h herase⟩

theorem HasBase.perform (h : HasBase directory place t) (scope : Option String)
    (op : Operation W) : HasBase directory place ((inDirectory directory scope).perform t op).1 := by
  obtain hsame | ⟨name, -, hrooted, haltered⟩ := perform_altered h scope op
  · rwa [hsame]
  · exact ⟨hrooted, haltered.leadsTo h.leads⟩

theorem HasBase.after (h : HasBase directory place t) (scope : Option String)
    (ops : List (Operation W)) :
    HasBase directory place ((inDirectory directory scope).after t ops) := by
  induction ops generalizing t with
  | nil => exact h
  | cons op ops ih => exact ih (h.perform scope op)

/-- A sequence of operations alters only the entries of the names that it is there to change. -/
theorem node?_after (h : HasBase directory place t) (scope : Option String)
    (ops : List (Operation W)) {q : Place}
    (hq : ∀ op ∈ ops, ∀ name, op.changed? = some name →
      q ≠ place ++ [(inDirectory directory scope).fileOf name]) :
    ((inDirectory directory scope).after t ops).node? q = t.node? q := by
  induction ops generalizing t with
  | nil => rfl
  | cons op ops ih =>
    obtain ⟨hop, hops⟩ := List.forall_mem_cons.mp hq
    apply (ih (h.perform scope op) hops).trans
    obtain hsame | ⟨name, hname, -, haltered⟩ := perform_altered h scope op
    · rw [hsame]
    · exact haltered.elsewhere q (hop name hname)

/-! ## What an operation reads -/

/-- Two trees look the same to an operation: in the file of its name, or in the names that it lists. -/
def LooksSame (p : PlanStore FileTree) (place : Place) (t t' : FileTree) : Operation W → Prop
  | .save name _ | .load name _ | .erase name | .contains name =>
    t'.node? (place ++ [p.fileOf name]) = t.node? (place ++ [p.fileOf name])
  | .list => (t'.namesBelow place).Perm (t.namesBelow place)

/-- Two trees go through the same changes of the directory: at the entry of the name that an operation
    is there to change, or nowhere. -/
def StepSame (p : PlanStore FileTree) (place : Place) (t t' : FileTree) (op : Operation W) : Prop :=
  ((p.perform t op).1 = t ∧ (p.perform t' op).1 = t') ∨ ∃ name, op.changed? = some name ∧
    SameChange (place ++ [p.fileOf name]) t t' (.ok (p.perform t op).1) (.ok (p.perform t' op).1)

theorem changed_same {entry : Place} {result result' : Except Error FileTree}
    (h : SameChange entry t t' result result') :
    (changed t' result' : FileTree × Answer W).2 = (changed t result).2 ∧
      SameChange entry t t' (.ok (changed t result : FileTree × Answer W).1)
        (.ok (changed t' result' : FileTree × Answer W).1) := by
  cases h with
  | failed e => exact ⟨rfl, .kept⟩
  | kept => exact ⟨rfl, .kept⟩
  | put content => exact ⟨rfl, .put content⟩
  | pruned => exact ⟨rfl, .pruned⟩

/-- An operation answers the same in two trees that look the same to it, and does the same to both. -/
theorem perform_congr (h : t.LeadsTo directory place) (h' : t'.LeadsTo directory place)
    (hsame : (inDirectory directory scope).LooksSame place t t' op) :
    ((inDirectory directory scope).perform t' op).2 = ((inDirectory directory scope).perform t op).2 ∧
      (inDirectory directory scope).StepSame place t t' op := by
  cases op with
  | save name plan =>
    obtain ⟨hanswer, hchange⟩ := changed_same (Storage.Directory.set_same h h' hsame plan.toJson)
    exact ⟨hanswer, .inr ⟨name, rfl, hchange⟩⟩
  | load name registry =>
    have hload : ((inDirectory directory scope).load t' name : Except Error (Plan W)) =
        (inDirectory directory scope).load t name :=
      load_congr (Storage.Directory.get?_same h h' hsame)
    cases registry with
    | none => exact ⟨congrArg Answer.plan hload, .inl ⟨rfl, rfl⟩⟩
    | some r =>
      simp only [perform, loadBound, hload]
      exact ⟨trivial, .inl ⟨rfl, rfl⟩⟩
  | erase name =>
    obtain ⟨hanswer, hchange⟩ := changed_same (Storage.Directory.erase_same h h' hsame)
    exact ⟨hanswer, .inr ⟨name, rfl, hchange⟩⟩
  | contains name =>
    exact ⟨congrArg Answer.held (Storage.Directory.exists?_same h h' hsame), .inl ⟨rfl, rfl⟩⟩
  | list =>
    have hlist : (inDirectory directory scope).list t' = (inDirectory directory scope).list t :=
      sorted_congr ((Storage.Directory.keys_same h h' hsame).filterMap _)
    exact ⟨congrArg Answer.names hlist, .inl ⟨rfl, rfl⟩⟩

/-- Two trees have the same directly in a directory. -/
structure SameInside (place : Place) (t t' : FileTree) : Prop where
  node : ∀ name, t'.node? (place ++ [name]) = t.node? (place ++ [name])
  names : (t'.namesBelow place).Perm (t.namesBelow place)

namespace SameInside

variable (h : SameInside place t t')

include h

theorem looksSame (p : PlanStore FileTree) (op : Operation W) : p.LooksSame place t t' op := by
  cases op with
  | list => exact h.names
  | _ => exact h.node _

theorem change {file : String} {u u' : FileTree}
    (hchange : SameChange (place ++ [file]) t t' (.ok u) (.ok u')) : SameInside place u u' := by
  cases hchange with
  | kept => exact h
  | put content =>
    refine ⟨fun name => ?_, ?_⟩
    · rw [FileTree.node?_put (by simp), FileTree.node?_put (by simp), h.node name]
    · rw [FileTree.namesBelow_put, FileTree.namesBelow_put]
      exact (h.names.filter _).cons file
  | pruned =>
    refine ⟨fun name => ?_, ?_⟩
    · rw [FileTree.node?_prune (by simp), FileTree.node?_prune (by simp), h.node name]
    · rw [FileTree.namesBelow_prune, FileTree.namesBelow_prune]
      exact h.names.filter _

theorem step {p : PlanStore FileTree} (hstep : p.StepSame place t t' op) :
    SameInside place (p.perform t op).1 (p.perform t' op).1 := by
  obtain ⟨hkept, hkept'⟩ | ⟨name, -, hchange⟩ := hstep
  · rwa [hkept, hkept']
  · exact h.change hchange

end SameInside

/-- A sequence of operations is answered the same in two trees with the same in the directory. -/
theorem answers_congr (h : HasBase directory place t) (h' : HasBase directory place t')
    (hsame : SameInside place t t') (scope : Option String) (ops : List (Operation W)) :
    (inDirectory directory scope).answers t' ops = (inDirectory directory scope).answers t ops ∧
      SameInside place ((inDirectory directory scope).after t ops)
        ((inDirectory directory scope).after t' ops) := by
  induction ops generalizing t t' with
  | nil => exact ⟨rfl, hsame⟩
  | cons op ops ih =>
    obtain ⟨hanswer, hstep⟩ :=
      perform_congr h.leads h'.leads (hsame.looksSame (inDirectory directory scope) op)
    obtain ⟨hanswers, hinside⟩ := ih (h.perform scope op) (h'.perform scope op) (hsame.step hstep)
    refine ⟨?_, hinside⟩
    unfold answers
    rw [hanswer, hanswers]

/-! ## Staying inside -/

/-- What an operation leaves at the entry of the name that it is there to change is the same in two
    trees that look the same to it. -/
theorem StepSame.node?_entry {p : PlanStore FileTree} (h : p.StepSame place t t' op) {name : String}
    (hname : op.changed? = some name) (hsame : p.LooksSame place t t' op) :
    (p.perform t' op).1.node? (place ++ [p.fileOf name]) =
      (p.perform t op).1.node? (place ++ [p.fileOf name]) := by
  have hbefore : t'.node? (place ++ [p.fileOf name]) = t.node? (place ++ [p.fileOf name]) := by
    cases op <;> cases hname <;> exact hsame
  obtain ⟨hkept, hkept'⟩ | ⟨name', hname', hchange⟩ := h
  · rw [hkept, hkept', hbefore]
  · cases hname.symm.trans hname'
    generalize (p.perform t op).1 = u at hchange
    generalize (p.perform t' op).1 = u' at hchange
    cases hchange with
    | kept => exact hbefore
    | put content => rw [FileTree.node?_put (by simp), FileTree.node?_put (by simp), hbefore]
    | pruned => rw [FileTree.node?_prune (by simp), FileTree.node?_prune (by simp), hbefore]

/-- An operation stays in its directory. The file of a name is one entry of the directory, with none of
    the characters that separate the parts of a path. Nothing is altered but the file of the name that
    is to be changed, and no directory comes or goes. And whatever else another tree holds, the operation
    answers the same in it and leaves the same at that entry, as long as the file of its name, or the
    names in the directory for the listing, are the same. -/
theorem perform_stays_inside (h : HasBase directory place t) (scope : Option String)
    (op : Operation W) :
    let p := inDirectory directory scope
    let t' := (p.perform t op).1
    (∀ name, IsName (p.fileOf name) ∧ ∀ c ∈ (p.fileOf name).toList, c ∉ reserved) ∧
      (op.changed? = none → t' = t) ∧
      (∀ q, t'.node? q ≠ t.node? q →
        ∃ name, op.changed? = some name ∧ q = place ++ [p.fileOf name]) ∧
      (∀ q, t'.node? q = some .directory ↔ t.node? q = some .directory) ∧
      ∀ other : FileTree, other.LeadsTo directory place → p.LooksSame place t other op →
        (p.perform other op).2 = (p.perform t op).2 ∧
          ∀ name, op.changed? = some name → (p.perform other op).1.node? (place ++ [p.fileOf name]) =
            t'.node? (place ++ [p.fileOf name]) := by
  intro p t'
  refine ⟨fun name => ⟨isName_fileName _, plain_fileName _⟩, ?_, ?_, ?_, ?_⟩
  · intro hnone
    obtain hsame | ⟨name, hname, -⟩ := perform_altered h scope op
    · exact hsame
    · rw [hnone] at hname
      cases hname
  · intro q hq
    obtain hsame | ⟨name, hname, -, haltered⟩ := perform_altered h scope op
    · exact absurd (congrArg (·.node? q) hsame) hq
    · refine ⟨name, hname, ?_⟩
      apply Classical.byContradiction
      intro hne
      exact hq (haltered.elsewhere q hne)
  · intro q
    obtain hsame | ⟨name, -, -, haltered⟩ := perform_altered h scope op
    · exact Iff.of_eq (congrArg (·.node? q = some .directory) hsame)
    · exact haltered.directories q
  · intro other hleads hsame
    obtain ⟨hanswer, hstep⟩ := perform_congr h.leads hleads hsame
    exact ⟨hanswer, fun name hname => hstep.node?_entry hname hsame⟩

/-- A plan is saved under a name that climbs to a file outside, in a namespace that climbs as well. -/
theorem perform_stays_inside_climbing :
    let start : FileTree := (Storage.Directory.create "plans/old" ∅).1
    let t := start.put ["passwd"] (.file "secret".toUTF8)
    let other := start.put ["passwd"] (.file "public".toUTF8)
    let p := inDirectory "plans" (some "..")
    let op : Operation Unit := .save "/../passwd" ⟨PlanNode.ofGoal "g", []⟩
    let t' := (p.perform t op).1
    HasBase "plans" ["plans"] t ∧ other.LeadsTo "plans" ["plans"] ∧
      p.LooksSame ["plans"] t other op ∧ p.fileOf "/../passwd" = "..._.._passwd.json" ∧
      (∀ q, t'.node? q ≠ t.node? q → q = ["plans", "..._.._passwd.json"]) ∧
      (∀ q, t'.node? q = some .directory ↔ t.node? q = some .directory) ∧
      (p.perform other op).2 = (p.perform t op).2 ∧
      (p.perform other op).1.node? ["plans", "..._.._passwd.json"] =
        t'.node? ["plans", "..._.._passwd.json"] := by
  intro start t other p op t'
  have hstart : start.Rooted := FileTree.rooted_empty.makeDirectories "plans/old"
  have hbase : HasBase "plans" ["plans"] t := by
    refine ⟨?_, rfl⟩
    have hput : (start.put ([] ++ ["passwd"]) (.file "secret".toUTF8)).Rooted :=
      hstart.put rfl (by decide)
    exact hput
  have hother : other.LeadsTo "plans" ["plans"] := rfl
  have hsame : p.LooksSame ["plans"] t other op := rfl
  have hfile : p.fileOf "/../passwd" = "..._.._passwd.json" := by decide
  obtain ⟨-, -, haltered, hdirectories, hcongr⟩ := perform_stays_inside hbase (some "..") op
  obtain ⟨hanswer, hentry⟩ := hcongr other hother hsame
  have hleft := hentry "/../passwd" rfl
  rw [hfile] at hleft
  refine ⟨hbase, hother, hsame, hfile, fun q hq => ?_, hdirectories, hanswer, hleft⟩
  obtain ⟨name, hname, hplace⟩ := haltered q hq
  cases hname
  rw [hplace, hfile]
  rfl

end PlanStore

end SkillPlan

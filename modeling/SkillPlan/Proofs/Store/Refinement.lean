import SkillPlan.Proofs.Store.Directory
import SkillPlan.Proofs.Store.Operation
import SkillPlan.Proofs.Plan.Record

/-!
# Two storages, the same answers

A store that is asked one thing after another, over a storage in memory and over one in a directory.
What relates the two is that the directory holds one file with the text of the value for each key that
is kept, and nothing else (`Mirrors`). Every operation keeps that and is answered the same on both
sides (`perform_mirrors`), and so is every sequence of operations.
-/

namespace SkillPlan

variable {W : Type}

/-! ## What is compared -/

namespace PlanStore

/-- A store of a namespace in memory. -/
def inMemory (scope : Option String) : PlanStore StoredValues := ⟨.memory, scope⟩

/-- A store of a namespace in a directory. -/
def inDirectory (directory : String) (scope : Option String) : PlanStore FileTree :=
  ⟨.directory directory, scope⟩

end PlanStore

open Storage.Directory (Fits Opened fileName keyOfFile? nodup_keys)

/-- A plan whose record is read back from its text. -/
structure Plan.Storable (p : Plan W) : Prop where
  levels : p.levels ≤ 63
  cursors : p.CursorsWithin
  words : p.WordCursors

/-- An operation of a namespace on a key that fits, with a plan that can be kept. -/
def Operation.Fitting (scope : Option String) : Operation W → Prop
  | .save name plan => Fits ((PlanStore.inMemory scope).fullKey name) ∧ plan.Storable
  | .load name _ | .erase name | .contains name => Fits ((PlanStore.inMemory scope).fullKey name)
  | .list => True

/-- An answer without any failure but that of a plan that is not kept. -/
def Answer.Regular : Answer W → Prop
  | .done result => result = .ok ()
  | .plan (.error e) => ∃ name, e = (Error.storageNotFound name).during "store::load"
  | .plan (.ok _) | .held _ | .names _ => True

theorem Answer.Regular.map {result : Except Error (Plan W)} (h : (Answer.plan result).Regular)
    (f : Plan W → Plan W) : (Answer.plan (result.map f)).Regular := by
  cases result with
  | error e => exact h
  | ok p => trivial

/-! ## A directory that mirrors a storage in memory -/

/-- A directory holds the values of a storage in memory: a file for each key, and nothing else. -/
structure Mirrors (W : Type) (directory : String) (place : Place) (t : FileTree)
    (st : StoredValues) : Prop where
  opened : Opened directory place t
  file : ∀ key, Fits key → t.node? (place ++ [fileName key]) =
    (st.lookup key).map fun value => .file (Json.toWideText value).toUTF8
  fileOfKey : ∀ name ∈ t.namesBelow place, ∃ key, Fits key ∧ name = fileName key
  filesDistinct : (t.namesBelow place).Nodup
  keysFit : ∀ e ∈ st, Fits e.1
  keysDistinct : (st.map Prod.fst).Nodup
  records : ∀ e ∈ st, ∃ p : Plan W, p.Storable ∧ e.2 = p.toJson

namespace Mirrors

variable {directory key : String} {place : Place} {t : FileTree} {st : StoredValues}

/-- An empty directory mirrors an empty storage. -/
theorem empty (hopened : Opened directory place t) (hempty : t.namesBelow place = []) :
    Mirrors W directory place t [] where
  opened := hopened
  file key _ := by
    apply Classical.byContradiction
    intro hfile
    have hmem : fileName key ∈ t.namesBelow place := FileTree.mem_namesBelow.mpr hfile
    rw [hempty] at hmem
    cases hmem
  fileOfKey name hname := by
    rw [hempty] at hname
    cases hname
  filesDistinct := hempty ▸ List.nodup_nil
  keysFit := nofun
  keysDistinct := List.nodup_nil
  records := nofun

variable (h : Mirrors W directory place t st)

include h

theorem record_of_lookup {value : Json} (hvalue : st.lookup key = some value) :
    ∃ p : Plan W, p.Storable ∧ value = p.toJson := by
  obtain ⟨before, after, rfl, -⟩ := List.lookup_eq_some_iff.mp hvalue
  exact h.records (key, value) (by simp)

theorem file_ne_directory (hkey : Fits key) :
    t.node? (place ++ [fileName key]) ≠ some .directory := by
  rw [h.file key hkey]
  cases st.lookup key <;> simp

theorem contains_eq (hkey : Fits key) :
    (Storage.directory directory).contains t key = (st.lookup key).isSome := by
  have hexists := h.opened.exists?_path hkey
  rw [h.file key hkey, Option.isSome_map] at hexists
  exact hexists

theorem get?_eq (hkey : Fits key) :
    (Storage.directory directory).get? t key = .ok (st.lookup key) := by
  have hfile := h.file key hkey
  cases hlookup : st.lookup key with
  | none =>
    rw [hlookup] at hfile
    exact h.opened.get?_of_none hkey hfile
  | some value =>
    rw [hlookup] at hfile
    obtain ⟨p, hp, rfl⟩ := h.record_of_lookup hlookup
    exact h.opened.get?_of_file hkey hfile (Plan.ofText?_toWideText hp.levels hp.words)

/-- The keys of the files are the keys that are kept. -/
theorem keys_perm : ((Storage.directory directory).keys t).Perm (st.map Prod.fst) := by
  have hkeys : (Storage.directory directory).keys t = (t.namesBelow place).filterMap keyOfFile? :=
    h.opened.keys_eq
  -- neither list has a key twice, so it is enough that they have the same keys
  rw [hkeys, List.perm_ext_iff_of_nodup (nodup_keys h.filesDistinct) h.keysDistinct]
  intro key
  rw [List.mem_filterMap]
  constructor
  · rintro ⟨name, hname, hkey⟩
    obtain ⟨key', hfits, rfl⟩ := h.fileOfKey name hname
    obtain rfl : key' = key := Option.some.inj (hfits.keyOfFile?_fileName.symm.trans hkey)
    have hstands := FileTree.mem_namesBelow.mp hname
    rw [h.file key' hfits] at hstands
    apply Classical.byContradiction
    intro hnone
    rw [Filing.lookup_eq_none.mpr hnone] at hstands
    exact hstands rfl
  · intro hkey
    obtain ⟨e, he, rfl⟩ := List.mem_map.mp hkey
    have hfits := h.keysFit e he
    refine ⟨fileName e.1, FileTree.mem_namesBelow.mpr ?_, hfits.keyOfFile?_fileName⟩
    rw [h.file e.1 hfits]
    intro hnone
    exact Filing.lookup_eq_none.mp (Option.map_eq_none_iff.mp hnone) hkey

/-- A record is kept on both sides. -/
theorem set (hkey : Fits key) {p : Plan W} (hp : p.Storable) :
    ∃ t', (Storage.directory directory).set t key p.toJson = .ok t' ∧
      Mirrors W directory place t' (Filing.put key p.toJson st) := by
  have hnode := h.file_ne_directory hkey
  refine ⟨_, h.opened.set_eq hkey hnode, ?_⟩
  constructor
  case opened => exact h.opened.put hnode _
  case file =>
    intro key' hkey'
    rw [FileTree.node?_put (by simp), Filing.lookup_put]
    by_cases heq : key' = key
    · subst heq
      simp
    · have hname : place ++ [fileName key'] ≠ place ++ [fileName key] :=
        FileTree.concat_ne fun hfile => heq (hkey'.fileName_inj hkey hfile)
      rw [if_neg hname, if_neg heq, h.file key' hkey']
  case fileOfKey =>
    intro name hname
    rw [FileTree.namesBelow_put] at hname
    obtain rfl | hname := List.mem_cons.mp hname
    · exact ⟨key, hkey, rfl⟩
    · exact h.fileOfKey name (List.mem_of_mem_filter hname)
  case filesDistinct =>
    rw [FileTree.namesBelow_put, List.nodup_cons]
    exact ⟨by simp, h.filesDistinct.filter _⟩
  case keysFit =>
    intro e he
    obtain rfl | he := Filing.mem_put he
    · exact hkey
    · exact h.keysFit e he
  case keysDistinct => exact Filing.nodup_keys_put h.keysDistinct key _
  case records =>
    intro e he
    obtain rfl | he := Filing.mem_put he
    · exact ⟨p, hp, rfl⟩
    · exact h.records e he

/-- A key is forgotten on both sides. -/
theorem erase (hkey : Fits key) :
    ∃ t', (Storage.directory directory).erase t key = .ok t' ∧
      Mirrors W directory place t' (Filing.remove key st) := by
  have hfile := h.file key hkey
  cases hlookup : st.lookup key with
  | none =>
    -- there is nothing to forget on either side
    rw [hlookup] at hfile
    refine ⟨t, h.opened.erase_of_none hkey hfile, ?_⟩
    rwa [Filing.remove_of_lookup_eq_none hlookup]
  | some value =>
    rw [hlookup] at hfile
    refine ⟨_, h.opened.erase_of_file hkey hfile, ?_⟩
    constructor
    case opened => exact h.opened.prune hfile
    case file =>
      intro key' hkey'
      rw [FileTree.node?_prune (by simp), Filing.lookup_remove]
      by_cases heq : key' = key
      · subst heq
        simp
      · -- what goes with the file stands below it, and the other file stands beside it
        have hname : ¬place ++ [fileName key] <+: place ++ [fileName key'] := by
          rw [List.prefix_append_right_inj, List.cons_prefix_cons]
          intro hsame
          exact heq (hkey.fileName_inj hkey' hsame.1).symm
        rw [if_neg hname, if_neg heq, h.file key' hkey']
    case fileOfKey =>
      intro name hname
      rw [FileTree.namesBelow_prune] at hname
      exact h.fileOfKey name (List.mem_of_mem_filter hname)
    case filesDistinct =>
      rw [FileTree.namesBelow_prune]
      exact h.filesDistinct.filter _
    case keysFit => exact fun e he => h.keysFit e (List.mem_of_mem_filter he)
    case keysDistinct => exact Filing.nodup_keys_remove h.keysDistinct key
    case records => exact fun e he => h.records e (List.mem_of_mem_filter he)

end Mirrors

/-! ## One operation -/

namespace PlanStore

theorem pairwise_sorted (names : List String) : (sorted names).Pairwise (· ≤ ·) := by
  have hsorted := @List.pairwise_mergeSort String (fun a b => decide (a ≤ b))
    (by simpa using fun _ _ _ => String.le_trans) (by simpa using String.le_total) names
  exact hsorted.imp of_decide_eq_true

theorem sorted_perm (names : List String) : (sorted names).Perm names := List.mergeSort_perm names _

/-- Lists with the same entries are sorted into one. -/
theorem sorted_congr {names names' : List String} (h : names.Perm names') :
    sorted names = sorted names' := by
  have hperm : (sorted names).Perm (sorted names') :=
    (sorted_perm names).trans (h.trans (sorted_perm names').symm)
  exact hperm.eq_of_pairwise (fun _ _ _ _ => String.le_antisymm) (pairwise_sorted _)
    (pairwise_sorted _)

variable {directory : String} {place : Place} {t : FileTree} {st : StoredValues}
  {scope : Option String}

/-- What is loaded from memory is a plan, unless none is kept under the name. -/
theorem regular_load (h : Mirrors W directory place t st) (name : String) :
    (Answer.plan ((inMemory scope).load st name : Except Error (Plan W))).Regular := by
  have hget : (inMemory scope).storage.get? st ((inMemory scope).fullKey name) =
      .ok (st.lookup ((inMemory scope).fullKey name)) := rfl
  cases hlookup : st.lookup ((inMemory scope).fullKey name) with
  | none =>
    simp only [load, hget, hlookup, bind, Except.bind]
    exact ⟨name, rfl⟩
  | some value =>
    obtain ⟨p, hp, rfl⟩ := h.record_of_lookup hlookup
    simp only [load, hget, hlookup, bind, Except.bind, Plan.decodeValue?_toJson hp.words,
      Plan.checkCursors_withoutFunctions hp.cursors]
    trivial

/-- An operation keeps the directory a mirror and is answered the same in both, without any failure
    but that of a plan that is not kept. -/
theorem perform_mirrors (h : Mirrors W directory place t st) {op : Operation W}
    (hop : op.Fitting scope) :
    Mirrors W directory place ((inDirectory directory scope).perform t op).1
        ((inMemory scope).perform st op).1 ∧
      ((inDirectory directory scope).perform t op).2 = ((inMemory scope).perform st op).2 ∧
      ((inMemory scope).perform st op).2.Regular := by
  have hload : ∀ name, Fits ((inMemory scope).fullKey name) →
      ((inDirectory directory scope).load t name : Except Error (Plan W)) =
        (inMemory scope).load st name := fun name hkey => load_congr (h.get?_eq hkey)
  cases op with
  | save name plan =>
    obtain ⟨hkey, hplan⟩ := hop
    obtain ⟨t', hset, h'⟩ := h.set hkey hplan
    have hsave : (inDirectory directory scope).save t name plan = .ok t' := hset
    simp only [perform, hsave]
    exact ⟨h', rfl, rfl⟩
  | load name registry =>
    have hregular : (Answer.plan ((inMemory scope).load st name : Except Error (Plan W))).Regular :=
      regular_load h name
    cases registry with
    | none =>
      simp only [perform, hload name hop]
      exact ⟨h, trivial, hregular⟩
    | some r =>
      simp only [perform, loadBound, hload name hop]
      exact ⟨h, trivial, hregular.map _⟩
  | erase name =>
    obtain ⟨t', herase, h'⟩ := h.erase hop
    have herase : (inDirectory directory scope).erase t name = .ok t' := herase
    simp only [perform, herase]
    exact ⟨h', rfl, rfl⟩
  | contains name =>
    have hcontains : (inDirectory directory scope).contains t name =
        (inMemory scope).contains st name := h.contains_eq hop
    simp only [perform, hcontains]
    exact ⟨h, trivial, trivial⟩
  | list =>
    have hlist : (inDirectory directory scope).list t = (inMemory scope).list st :=
      sorted_congr (h.keys_perm.filterMap _)
    simp only [perform, hlist]
    exact ⟨h, trivial, trivial⟩

/-! ## Every sequence of operations -/

theorem answers_mirrors (h : Mirrors W directory place t st) {ops : List (Operation W)}
    (hops : ∀ op ∈ ops, op.Fitting scope) :
    (inDirectory directory scope).answers t ops = (inMemory scope).answers st ops ∧
      ∀ answer ∈ (inMemory scope).answers st ops, answer.Regular := by
  -- the states after the first operation mirror each other again
  induction ops generalizing t st with
  | nil => exact ⟨rfl, nofun⟩
  | cons op ops ih =>
    obtain ⟨hop, hrest⟩ := List.forall_mem_cons.mp hops
    obtain ⟨h', hanswer, hregular⟩ := perform_mirrors h hop
    obtain ⟨hanswers, hregulars⟩ := ih h' hrest
    refine ⟨?_, List.forall_mem_cons.mpr ⟨hregular, hregulars⟩⟩
    unfold answers
    rw [hanswer, hanswers]

/-- A store that starts with an empty directory answers every sequence of operations as one that
    starts with an empty memory, and neither fails but for plans that are not kept. -/
theorem directory_answers_as_memory {ends : Bool} (hrooted : t.Rooted)
    (hlocated : t.locate directory = .ok (place, some .directory, ends))
    (hroom : directory.utf8ByteSize + 1 + FileTree.maxNameBytes < FileTree.pathBytesBound)
    (hempty : t.namesBelow place = []) (scope : Option String) (ops : List (Operation W))
    (hops : ∀ op ∈ ops, op.Fitting scope) :
    (inDirectory directory scope).answers t ops = (inMemory scope).answers [] ops ∧
      ∀ answer ∈ (inMemory scope).answers [] ops, answer.Regular :=
  answers_mirrors (.empty ⟨hrooted, ⟨ends, hlocated⟩, hroom⟩ hempty) hops

/-- Names with points, with the extension of the files and in another case, one of them removed and
    one saved twice. -/
theorem directory_answers_as_memory_points :
    let t : FileTree := (Storage.Directory.create "plans" ∅).1
    let leaf : Plan Unit := ⟨PlanNode.ofGoal "say \"hi\"", []⟩
    let plan : Plan Unit := ⟨{ PlanNode.ofGoal "greet" with cursor := 1 }, [leaf]⟩
    let ops : List (Operation Unit) :=
      [.save "a.json" leaf, .save ".b" plan, .save "a.json" plan, .contains "A.json", .list,
        .load ".b" none, .erase "a.json", .load "a.json" (some ∅), .list]
    t.Rooted ∧ t.locate "plans" = .ok (["plans"], some .directory, false) ∧
      "plans".utf8ByteSize + 1 + FileTree.maxNameBytes < FileTree.pathBytesBound ∧
      t.namesBelow ["plans"] = [] ∧ (∀ op ∈ ops, op.Fitting (some "team")) ∧
      (inDirectory "plans" (some "team")).answers t ops = (inMemory (some "team")).answers [] ops ∧
      ∀ answer ∈ (inMemory (some "team")).answers [] ops, answer.Regular := by
  intro t leaf plan ops
  have hrooted : t.Rooted := FileTree.rooted_empty.makeDirectories "plans"
  have hlocated : t.locate "plans" = .ok (["plans"], some .directory, false) := by decide +kernel
  have hempty : t.namesBelow ["plans"] = [] := by decide
  have hleaf : leaf.Storable := ⟨by decide, .ofSteps (Nat.le_refl 0) nofun, .ofSteps (by decide) nofun⟩
  have hplan : plan.Storable :=
    ⟨by decide, .ofSteps (Nat.le_refl 1) (List.forall_mem_singleton.mpr hleaf.cursors),
      .ofSteps (by decide) (List.forall_mem_singleton.mpr hleaf.words)⟩
  have hextension : Fits ((inMemory (some "team")).fullKey "a.json") := by decide
  have hcase : Fits ((inMemory (some "team")).fullKey "A.json") := by decide
  have hpoint : Fits ((inMemory (some "team")).fullKey ".b") := by decide
  have hops : ∀ op ∈ ops, op.Fitting (some "team") := by
    simp [ops, Operation.Fitting, hleaf, hplan, hextension, hcase, hpoint]
  exact ⟨hrooted, hlocated, by decide, hempty, hops,
    directory_answers_as_memory hrooted hlocated (by decide) hempty _ ops hops⟩

end PlanStore

end SkillPlan

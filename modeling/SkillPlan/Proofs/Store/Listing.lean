import SkillPlan.Proofs.Store.Addresses
import SkillPlan.Proofs.Store.Confinement

/-!
# The listing of a store

The listing goes back from the files of a directory to names. Where the directory was empty at first,
there is nothing in it after any history but files of plans that the store has (`OnlyPlans`), so every
name that is listed is one of a plan. The way back is not quite the way there: the key of a file has no
reserved characters, and a file with nothing before its extension has no key. So a plan is found in the
listing if its namespace has no reserved characters, or if there is no namespace and its name is not
empty, and in no other case (`found_in_list_iff`).
-/

namespace SkillPlan

open FileTree (AgreeOn AlteredAt mem_namesBelow)
open Storage.Directory (fileName keyOfFile? keyOfFile?_eq_some nodup_keys reserved safeKey
  safeKey_append)

variable {S W : Type}

namespace PlanStore

/-! ## Keys and names -/

theorem nameOfKey?_eq_some {p : PlanStore S} {key name : String} :
    p.nameOfKey? key = some name ↔ key = p.fullKey name := by
  unfold nameOfKey? fullKey
  cases p.scope with
  | none => exact Option.some_inj
  | some scope =>
    have hchars : ∀ name : String, (scope ++ "." ++ name).toList = (scope ++ ".").toList ++ name.toList :=
      fun _ => String.toList_append
    rw [Option.map_eq_some_iff]
    constructor
    · rintro ⟨cs, hafter, rfl⟩
      apply String.toList_inj.mp
      rw [Text.eq_append_of_after? hafter, hchars, String.toList_ofList]
    · rintro rfl
      exact ⟨name.toList, by rw [hchars, Text.after?_append], String.ofList_toList⟩

theorem nodup_names {p : PlanStore S} {keys : List String} (h : keys.Nodup) :
    (keys.filterMap p.nameOfKey?).Nodup := by
  apply List.Nodup.filterMap _ h
  intro key key' name hname hname'
  exact (nameOfKey?_eq_some.mp hname).trans (nameOfKey?_eq_some.mp hname').symm

/-- The names whose plans can be listed: those of a namespace whose characters file names have as they
    are, and without a namespace all but the empty one. -/
def Listable : Option String → String → Prop
  | none, name => name ≠ ""
  | some scope, _ => ∀ c ∈ scope.toList, c ∉ reserved

instance : (scope : Option String) → (name : String) → Decidable (Listable scope name)
  | none, name => inferInstanceAs (Decidable (name ≠ ""))
  | some scope, _ => decidable_of_iff (scope.toList.all (· ∉ reserved)) (by simp [Listable])

variable {t t' : FileTree} {directory : String} {place : Place} {scope : Option String}
  {m n : String}

/-- The safe form of a name that can be listed has the safe form of its key. -/
theorem Listable.fullKey_safeKey (h : Listable scope m) (directory : String) :
    (inDirectory directory scope).fullKey (safeKey m) =
        safeKey ((inDirectory directory scope).fullKey m) ∧
      (inDirectory directory scope).fullKey (safeKey m) ≠ "" := by
  cases scope with
  | none => exact ⟨rfl, fun hempty => h (Storage.Directory.safeKey_eq_empty.mp hempty)⟩
  | some scope =>
    have hkey : ∀ name, (inDirectory directory (some scope)).fullKey name = scope ++ "." ++ name :=
      fun _ => rfl
    have hpoint : safeKey "." = "." := by decide
    rw [hkey, hkey, safeKey_append, safeKey_append, Storage.Directory.safeKey_of_plain h, hpoint]
    exact ⟨rfl, by simp⟩

theorem Listable.fileOf_safeKey (h : Listable scope m) (directory : String) :
    (inDirectory directory scope).fileOf (safeKey m) = (inDirectory directory scope).fileOf m := by
  unfold fileOf fileName
  rw [(h.fullKey_safeKey directory).1, Storage.Directory.safeKey_safeKey]

/-- A name whose file is the one of a key that is in the namespace can be listed. -/
theorem listable_of_file (hkey : (inDirectory directory scope).fullKey n ≠ "")
    (hfile : (inDirectory directory scope).fullKey n ++ ".json" =
      (inDirectory directory scope).fileOf m) : Listable scope m := by
  have hsafe : (inDirectory directory scope).fullKey n =
      safeKey ((inDirectory directory scope).fullKey m) := (String.append_left_inj _).mp hfile
  cases scope with
  | none =>
    rintro rfl
    exact hkey hsafe
  | some scope =>
    -- every character of the namespace is one of the key, which was made safe
    intro c hc
    have hchars : c ∈ ((inDirectory directory (some scope)).fullKey n).toList := by
      simp [inDirectory, fullKey, hc]
    rw [hsafe] at hchars
    exact Storage.Directory.plain_safeKey _ c hchars

/-! ## Names with one file -/

/-- A plan is loaded from what is kept, whatever the name. -/
theorem load_of_get?_eq {p : PlanStore S} {st : S} {plan : Plan W}
    (hget : p.storage.get? st (p.fullKey m) = p.storage.get? st (p.fullKey n))
    (h : p.load st m = .ok plan) : p.load st n = .ok plan := by
  obtain ⟨value, hvalue⟩ := get?_of_load h
  have hvalue' := hget.symm.trans hvalue
  simp only [load, hvalue, hvalue', bind, Except.bind] at h ⊢
  split at h
  · exact h
  · cases h

section

variable (h : (inDirectory directory scope).fileOf m = (inDirectory directory scope).fileOf n)

include h

theorem contains_of_fileOf_eq (t : FileTree) :
    (inDirectory directory scope).contains t m = (inDirectory directory scope).contains t n :=
  ((Backend.directory directory).get?_of_address_eq h t).2

theorem load_of_fileOf_eq (t : FileTree) (plan : Plan W) :
    (inDirectory directory scope).load t m = .ok plan ↔
      (inDirectory directory scope).load t n = .ok plan := by
  have hget := ((Backend.directory directory).get?_of_address_eq h t).1
  exact ⟨load_of_get?_eq hget, load_of_get?_eq hget.symm⟩

end

theorem contains_of_save {plan : Plan W}
    (h : (inDirectory directory scope).save t n plan = .ok t') :
    (inDirectory directory scope).contains t' n = true := by
  have hread := Storage.Directory.readText_of_set h
  obtain ⟨there, content, ends, hlocate⟩ :=
    FileTree.exists_of_isFile (FileTree.isFile_of_readText hread)
  exact FileTree.exists?_of_locate hlocate

/-- The file of a plan that is found is in the directory. -/
theorem fileOf_mem_of_contains (hleads : t.LeadsTo directory place)
    (h : (inDirectory directory scope).contains t m = true) :
    (inDirectory directory scope).fileOf m ∈ t.namesBelow place := by
  change t.exists? (Storage.Directory.path directory _) = true at h
  cases hlocate : t.locate
      (Storage.Directory.path directory ((inDirectory directory scope).fullKey m)) with
  | error f =>
    rw [FileTree.exists?_of_error hlocate] at h
    cases h
  | ok found =>
    obtain ⟨there, node, ends⟩ := found
    obtain ⟨above, habove, -, rfl⟩ := (Storage.Directory.isName_fileName _).of_locate_join hlocate
    obtain rfl := hleads.unique habove
    rw [FileTree.exists?_of_locate hlocate] at h
    exact mem_namesBelow.mpr (Option.isSome_iff_ne_none.mp h)

/-! ## What is in the directory -/

/-- There is nothing in the directory but files of plans that the store has. -/
structure OnlyPlans (directory : String) (scope : Option String) (place : Place) (t : FileTree) :
    Prop where
  base : HasBase directory place t
  located : ∃ ends, t.locate directory = .ok (place, some .directory, ends)
  ofPlan : ∀ file ∈ t.namesBelow place, ∃ name,
    file = (inDirectory directory scope).fileOf name ∧
      (inDirectory directory scope).contains t name = true
  distinct : (t.namesBelow place).Nodup

namespace OnlyPlans

theorem empty {ends : Bool} (hrooted : t.Rooted)
    (hlocated : t.locate directory = .ok (place, some .directory, ends))
    (hempty : t.namesBelow place = []) : OnlyPlans directory scope place t where
  base := ⟨hrooted, (FileTree.follow_of_locate_directory hlocated).2.2⟩
  located := ⟨ends, hlocated⟩
  ofPlan := by
    rw [hempty]
    nofun
  distinct := by
    rw [hempty]
    exact .nil

variable (h : OnlyPlans directory scope place t)

include h

theorem located_of_base (hbase : HasBase directory place t') :
    ∃ ends, t'.locate directory = .ok (place, some .directory, ends) := by
  obtain ⟨ends, hlocated⟩ := h.located
  exact ⟨ends, (h.base.leads.locate_directory_congr hbase.leads).trans hlocated⟩

/-- A file beside the one that is altered is still one of a plan that the store has. -/
theorem ofPlan_of_altered
    (haltered : AlteredAt (place ++ [(inDirectory directory scope).fileOf n]) t t') {file : String}
    (hfile : file ∈ (t.namesBelow place).filter
      fun other => other ≠ (inDirectory directory scope).fileOf n) :
    ∃ name, file = (inDirectory directory scope).fileOf name ∧
      (inDirectory directory scope).contains t' name = true := by
  rw [List.mem_filter, decide_eq_true_eq] at hfile
  obtain ⟨name, rfl, hcontains⟩ := h.ofPlan file hfile.1
  have hagree := AgreeOn.of_altered haltered (Ne.symm hfile.2)
  exact ⟨name, rfl, (Storage.Directory.contains_congr hagree directory).trans hcontains⟩

theorem save {plan : Plan W} (hsave : (inDirectory directory scope).save t n plan = .ok t') :
    OnlyPlans directory scope place t' := by
  -- the file of the name is one of a plan now, whatever it was before
  have hcontains := contains_of_save hsave
  obtain ⟨hrooted, haltered⟩ := save_altered h.base hsave
  have hbase : HasBase directory place t' := ⟨hrooted, haltered.leadsTo h.base.leads⟩
  obtain ⟨above, habove, -, rfl⟩ := Storage.Directory.put_of_set hsave
  obtain rfl := h.base.leads.unique habove
  refine ⟨hbase, h.located_of_base hbase, ?_, ?_⟩
  · intro file hfile
    rw [FileTree.namesBelow_put] at hfile
    obtain rfl | hfile := List.mem_cons.mp hfile
    · exact ⟨n, rfl, hcontains⟩
    · exact h.ofPlan_of_altered haltered hfile
  · rw [FileTree.namesBelow_put, List.nodup_cons]
    exact ⟨by simp, h.distinct.filter _⟩

theorem erase (herase : (inDirectory directory scope).erase t n = .ok t') :
    OnlyPlans directory scope place t' := by
  obtain ⟨hrooted, haltered⟩ := erase_altered h.base herase
  have hbase : HasBase directory place t' := ⟨hrooted, haltered.leadsTo h.base.leads⟩
  obtain rfl | ⟨above, content, habove, -, rfl⟩ := Storage.Directory.prune_of_erase herase
  · exact h
  · obtain rfl := h.base.leads.unique habove
    refine ⟨hbase, h.located_of_base hbase, ?_, ?_⟩
    · intro file hfile
      rw [FileTree.namesBelow_prune] at hfile
      exact h.ofPlan_of_altered haltered hfile
    · rw [FileTree.namesBelow_prune]
      exact h.distinct.filter _

theorem perform (op : Operation W) :
    OnlyPlans directory scope place ((inDirectory directory scope).perform t op).1 := by
  obtain hsame | ⟨name, plan, -, hsave⟩ | ⟨name, -, herase⟩ :=
    (inDirectory directory scope).perform_cases t op
  · rwa [hsame]
  · exact h.save hsave
  · exact h.erase herase

theorem after (history : List (Operation W)) :
    OnlyPlans directory scope place ((inDirectory directory scope).after t history) := by
  -- what each operation leaves is again a directory of plans only
  induction history generalizing t with
  | nil => exact h
  | cons op rest ih => exact ih (h.perform op)

/-! ## What is listed -/

/-- A name is listed if there is a file of its key, just as it is, in the directory. -/
theorem mem_list_iff : n ∈ (inDirectory directory scope).list t ↔
    (inDirectory directory scope).fullKey n ≠ "" ∧
      (inDirectory directory scope).fullKey n ++ ".json" ∈ t.namesBelow place := by
  obtain ⟨ends, hlocated⟩ := h.located
  have hkeys : (inDirectory directory scope).storage.keys t = (t.namesBelow place).filterMap keyOfFile? :=
    Storage.Directory.keys_of_locate hlocated
  unfold list
  rw [(sorted_perm _).mem_iff, hkeys, List.mem_filterMap]
  constructor
  · rintro ⟨key, hkey, hname⟩
    obtain rfl := nameOfKey?_eq_some.mp hname
    obtain ⟨file, hfile, hof⟩ := List.mem_filterMap.mp hkey
    obtain ⟨hne, rfl⟩ := keyOfFile?_eq_some.mp hof
    exact ⟨hne, hfile⟩
  · rintro ⟨hne, hfile⟩
    exact ⟨_, List.mem_filterMap.mpr ⟨_, hfile, keyOfFile?_eq_some.mpr ⟨hne, rfl⟩⟩,
      nameOfKey?_eq_some.mpr rfl⟩

theorem nodup_list : ((inDirectory directory scope).list t).Nodup := by
  obtain ⟨ends, hlocated⟩ := h.located
  have hkeys : (inDirectory directory scope).storage.keys t = (t.namesBelow place).filterMap keyOfFile? :=
    Storage.Directory.keys_of_locate hlocated
  unfold list
  rw [(sorted_perm _).nodup_iff, hkeys]
  exact nodup_names (nodup_keys h.distinct)

/-- The key of a name that is listed has no characters to be replaced. -/
theorem fileOf_of_mem_list (hn : n ∈ (inDirectory directory scope).list t) :
    (inDirectory directory scope).fileOf n = (inDirectory directory scope).fullKey n ++ ".json" := by
  obtain ⟨-, hfile⟩ := h.mem_list_iff.mp hn
  obtain ⟨m, hm, -⟩ := h.ofPlan _ hfile
  have hsafe : (inDirectory directory scope).fullKey n =
      safeKey ((inDirectory directory scope).fullKey m) := (String.append_left_inj _).mp hm
  unfold fileOf fileName
  rw [hsafe, Storage.Directory.safeKey_safeKey]

/-- A name that is listed is the name of a plan. -/
theorem contains_of_mem_list (hn : n ∈ (inDirectory directory scope).list t) :
    (inDirectory directory scope).contains t n = true := by
  obtain ⟨-, hfile⟩ := h.mem_list_iff.mp hn
  obtain ⟨m, hm, hcontains⟩ := h.ofPlan _ hfile
  have hsame := (h.fileOf_of_mem_list hn).trans hm
  exact (contains_of_fileOf_eq hsame t).trans hcontains

/-- A plan that is found under a name with the same file has a name that can be listed. -/
theorem listable_of_mem_list (hn : n ∈ (inDirectory directory scope).list t)
    (hsame : (inDirectory directory scope).fileOf n = (inDirectory directory scope).fileOf m) :
    Listable scope m := by
  obtain ⟨hne, -⟩ := h.mem_list_iff.mp hn
  exact listable_of_file hne ((h.fileOf_of_mem_list hn).symm.trans hsame)

/-- The plan of a name that can be listed is found under the safe form of the name. -/
theorem safeKey_mem_list (hm : Listable scope m)
    (hcontains : (inDirectory directory scope).contains t m = true) :
    safeKey m ∈ (inDirectory directory scope).list t := by
  obtain ⟨hkey, hne⟩ := hm.fullKey_safeKey directory
  refine h.mem_list_iff.mpr ⟨hne, ?_⟩
  rw [hkey]
  exact fileOf_mem_of_contains h.base.leads hcontains

end OnlyPlans

/-! ## Finding plans -/

/-- The listing after any history, where the directory was empty at first. It is in order, has no name
    twice and only names of plans that the store has. A plan that the store has is found from it, under
    a name with the same file, if and only if its name can be listed. -/
theorem found_in_list_iff {ends : Bool} (hrooted : t.Rooted)
    (hlocated : t.locate directory = .ok (place, some .directory, ends))
    (hempty : t.namesBelow place = []) (scope : Option String) (history : List (Operation W)) :
    let p := inDirectory directory scope
    let t' := p.after t history
    (p.list t').Pairwise (· ≤ ·) ∧ (p.list t').Nodup ∧ (∀ l ∈ p.list t', p.contains t' l = true) ∧
      ∀ m, p.contains t' m = true →
        ((∃ l ∈ p.list t', p.fileOf l = p.fileOf m ∧
          ∀ plan : Plan W, p.load t' l = .ok plan ↔ p.load t' m = .ok plan) ↔ Listable scope m) := by
  intro p t'
  have hplans : OnlyPlans directory scope place t' := .after (.empty hrooted hlocated hempty) history
  refine ⟨pairwise_sorted _, hplans.nodup_list, fun l hl => hplans.contains_of_mem_list hl, ?_⟩
  intro m hcontains
  constructor
  · rintro ⟨l, hl, hfile, -⟩
    exact hplans.listable_of_mem_list hl hfile
  · intro hm
    -- the name that is listed is the one that the file was named by
    have hfile := hm.fileOf_safeKey directory
    exact ⟨safeKey m, hplans.safeKey_mem_list hm hcontains, hfile, load_of_fileOf_eq hfile t'⟩

/-- Names with a slash and with the extension of the files, and the empty name, in a namespace. -/
theorem found_in_list_iff_team :
    let plan : Plan Unit := ⟨PlanNode.ofGoal "g", []⟩
    let start : FileTree := (Storage.Directory.create "plans" ∅).1
    let p := inDirectory "plans" (some "team")
    let t' := p.after start [.save "job/1" plan, .save "a.json" plan, .save "" plan, .erase "a.json"]
    start.Rooted ∧ start.locate "plans" = .ok (["plans"], some .directory, false) ∧
      start.namesBelow ["plans"] = [] ∧ (p.list t').Pairwise (· ≤ ·) ∧ (p.list t').Nodup ∧
      (∀ l ∈ p.list t', p.contains t' l = true) ∧ ∀ m ∈ ["job/1", ""], p.contains t' m = true ∧
        ∃ l ∈ p.list t', p.fileOf l = p.fileOf m ∧
          ∀ plan : Plan Unit, p.load t' l = .ok plan ↔ p.load t' m = .ok plan := by
  intro plan start p t'
  have hrooted : start.Rooted := FileTree.rooted_empty.makeDirectories "plans"
  have hlocated : start.locate "plans" = .ok (["plans"], some .directory, false) := rfl
  have hempty : start.namesBelow ["plans"] = [] := rfl
  have hteam : Listable (some "team") "" := by decide
  have hcontains : ∀ m ∈ ["job/1", ""], p.contains t' m = true := by decide +kernel
  obtain ⟨hsorted, hnodup, hplans, hfound⟩ := found_in_list_iff hrooted hlocated hempty (some "team")
    [.save "job/1" plan, .save "a.json" plan, .save "" plan, .erase "a.json"]
  exact ⟨hrooted, hlocated, hempty, hsorted, hnodup, hplans,
    fun m hm => ⟨hcontains m hm, (hfound m (hcontains m hm)).mpr hteam⟩⟩

/-- A plan in a namespace with a slash, and a plan under the empty name without a namespace: the store
    has them and lists nothing. -/
theorem kept_and_not_listed :
    let plan : Plan Unit := ⟨PlanNode.ofGoal "g", []⟩
    let start : FileTree := (Storage.Directory.create "plans" ∅).1
    let team := inDirectory "plans" (some "team/a")
    let plans := inDirectory "plans" none
    let t := team.after start [.save "x" plan]
    let t' := plans.after start [.save "" plan]
    start.namesBelow ["plans"] = [] ∧ (team.contains t "x" = true ∧ team.list t = []) ∧
      plans.contains t' "" = true ∧ plans.list t' = [] := by
  refine ⟨rfl, ⟨by decide +kernel, by decide +kernel⟩, by decide +kernel, by decide +kernel⟩

end PlanStore

end SkillPlan

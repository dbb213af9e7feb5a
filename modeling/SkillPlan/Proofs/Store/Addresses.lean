import SkillPlan.Proofs.Store.Directory
import SkillPlan.Proofs.Store.Operation

/-!
# Addresses of plans

Stores over one medium share its state, each with a namespace of its own. A plan has the address that
its namespace and name come to: in memory the key, in a directory the name of the file of the key. What
is done to a plan is not seen under another address (`other_addresses_unchanged`). But other names can
come to the same address, where one plan then takes the place of the other
(`names_share_addresses`).
-/

namespace SkillPlan

open Storage.Directory (fileName)

variable {W : Type}

/-! ## Stores over one medium -/

/-- What plans are kept in. -/
inductive Medium where
  | memory
  | files

namespace Medium

/-- The states of a medium. -/
abbrev State : Medium → Type
  | memory => StoredValues
  | files => FileTree

/-- The states that a medium can be in. -/
def Sound : (medium : Medium) → medium.State → Prop
  | memory, _ => True
  | files, t => t.Rooted

end Medium

/-- A storage that a medium offers. -/
inductive Backend : Medium → Type where
  | memory : Backend .memory
  | directory (path : String) : Backend .files

namespace Backend

variable {medium : Medium}

/-- The operations of a storage. -/
def storage : Backend medium → Storage medium.State
  | memory => .memory
  | directory path => .directory path

/-- The store of a namespace. -/
def store (b : Backend medium) (scope : Option String) : PlanStore medium.State :=
  ⟨b.storage, scope⟩

/-- What a key is kept under. -/
def address : Backend medium → String → String
  | memory, key => key
  | directory _, key => fileName key

/-- The address of the plan of a name in a namespace. -/
def addressOf (b : Backend medium) (scope : Option String) (name : String) : String :=
  b.address ((b.store scope).fullKey name)

/-! ## One change -/

section Change

variable {b b' : Backend medium} {st st' : medium.State} {key key' : String} {value : Json}

theorem sound_set (hsound : medium.Sound st) (h : b.storage.set st key value = .ok st') :
    medium.Sound st' := by
  cases b with
  | memory => trivial
  | directory path => exact Storage.Directory.rooted_set hsound h

theorem sound_erase (hsound : medium.Sound st) (h : b.storage.erase st key = .ok st') :
    medium.Sound st' := by
  cases b with
  | memory => trivial
  | directory path => exact Storage.Directory.rooted_erase hsound h

/-- A value that is kept is not seen under other addresses. -/
theorem set_frame (hne : b'.address key' ≠ b.address key)
    (h : b'.storage.set st key' value = .ok st') :
    b.storage.get? st' key = b.storage.get? st key ∧
      b.storage.contains st' key = b.storage.contains st key := by
  cases b with
  | memory =>
    cases b'
    cases h
    have hkey : key ≠ key' := Ne.symm hne
    have hlookup : (Filing.put key' value st).lookup key = st.lookup key := by
      rw [Filing.lookup_put, if_neg hkey]
    exact ⟨congrArg Except.ok hlookup, congrArg Option.isSome hlookup⟩
  | directory path =>
    cases b' with
    | directory path' =>
      have hagree := Storage.Directory.agreeOn_set hne h
      exact ⟨Storage.Directory.get?_congr hagree path,
        Storage.Directory.contains_congr hagree path⟩

/-- A value that is removed is not missed under other addresses. -/
theorem erase_frame (hsound : medium.Sound st) (hne : b'.address key' ≠ b.address key)
    (h : b'.storage.erase st key' = .ok st') :
    b.storage.get? st' key = b.storage.get? st key ∧
      b.storage.contains st' key = b.storage.contains st key := by
  cases b with
  | memory =>
    cases b'
    cases h
    have hkey : key ≠ key' := Ne.symm hne
    have hlookup : (Filing.remove key' st).lookup key = st.lookup key := by
      rw [Filing.lookup_remove, if_neg hkey]
    exact ⟨congrArg Except.ok hlookup, congrArg Option.isSome hlookup⟩
  | directory path =>
    cases b' with
    | directory path' =>
      have hagree := Storage.Directory.agreeOn_erase hne hsound h
      exact ⟨Storage.Directory.get?_congr hagree path,
        Storage.Directory.contains_congr hagree path⟩

end Change

/-- Two keys with one address are kept in one place. -/
theorem get?_of_address_eq (b : Backend medium) {key key' : String}
    (h : b.address key = b.address key') (st : medium.State) :
    b.storage.get? st key = b.storage.get? st key' ∧
      b.storage.contains st key = b.storage.contains st key' := by
  cases b with
  | memory =>
    obtain rfl : key = key' := h
    exact ⟨rfl, rfl⟩
  | directory path =>
    -- everything that is done with a key is done with the path of its file
    have hpath : Storage.Directory.path path key = Storage.Directory.path path key' :=
      congrArg (Storage.Directory.join path) h
    refine ⟨?_, congrArg st.exists? hpath⟩
    simp only [storage, Storage.directory, Storage.Directory.get?, hpath]

end Backend

/-! ## Histories of a medium -/

/-- An operation of a store over a medium. -/
structure Asked (medium : Medium) (W : Type) where
  backend : Backend medium
  scope : Option String
  operation : Operation W

namespace Medium

variable {medium : Medium} {st : medium.State}

/-- The state after some operations, each of any store. -/
def after (st : medium.State) : List (Asked medium W) → medium.State
  | [] => st
  | asked :: rest => after ((asked.backend.store asked.scope).perform st asked.operation).1 rest

theorem sound_perform (hsound : medium.Sound st) (b : Backend medium) (scope : Option String)
    (op : Operation W) : medium.Sound ((b.store scope).perform st op).1 := by
  obtain hsame | ⟨name, plan, -, hsave⟩ | ⟨name, -, herase⟩ := (b.store scope).perform_cases st op
  · rwa [hsame]
  · exact Backend.sound_set hsound hsave
  · exact Backend.sound_erase hsound herase

/-- Every history leaves the medium in a state that it can be in. -/
theorem sound_after (hsound : medium.Sound st) (history : List (Asked medium W)) :
    medium.Sound (after st history) := by
  induction history generalizing st with
  | nil => exact hsound
  | cons asked rest ih => exact ih (sound_perform hsound asked.backend asked.scope asked.operation)

/-- After every history, a plan that is saved or erased leaves what is loaded and found under other
    addresses as it was. -/
theorem other_addresses_unchanged {start : medium.State} (hsound : medium.Sound start)
    (history : List (Asked medium W)) (a b : Backend medium) {scope scope' : Option String}
    {m n : String} (haddress : b.addressOf scope' n ≠ a.addressOf scope m) {st' : medium.State}
    (hchange : (∃ plan : Plan W, (b.store scope').save (after start history) n plan = .ok st') ∨
      (b.store scope').erase (after start history) n = .ok st') :
    ((a.store scope).load st' m : Except Error (Plan W)) =
        (a.store scope).load (after start history) m ∧
      (a.store scope).contains st' m = (a.store scope).contains (after start history) m := by
  have hframe : (a.store scope).storage.get? st' ((a.store scope).fullKey m) =
        (a.store scope).storage.get? (after start history) ((a.store scope).fullKey m) ∧
      (a.store scope).contains st' m = (a.store scope).contains (after start history) m := by
    obtain ⟨plan, hsave⟩ | herase := hchange
    · exact Backend.set_frame haddress hsave
    · exact Backend.erase_frame (sound_after hsound history) haddress herase
  exact ⟨PlanStore.load_congr hframe.1, hframe.2⟩

/-- A plan saved through another path to the directory, in a namespace, beside one that was saved
    under a name with a slash. -/
theorem other_addresses_unchanged_slash :
    let plan : Plan Unit := ⟨PlanNode.ofGoal "g", []⟩
    let start : FileTree := (Storage.Directory.create "plans" ∅).1
    let a := Backend.directory "plans"
    let b := Backend.directory "./plans/"
    let history : List (Asked .files Unit) := [⟨a, none, .save "job/1" plan⟩, ⟨b, none, .list⟩]
    Medium.files.Sound start ∧
      b.addressOf (some "team") "job_1" ≠ a.addressOf none "job/1" ∧
      ∃ st', (b.store (some "team")).save (after start history) "job_1" plan = .ok st' ∧
        ((a.store none).load st' "job/1" : Except Error (Plan Unit)) =
            (a.store none).load (after start history) "job/1" ∧
          (a.store none).contains st' "job/1" = (a.store none).contains (after start history) "job/1" := by
  intro plan start a b history
  have hsound : Medium.files.Sound start := FileTree.rooted_empty.makeDirectories "plans"
  have haddress : b.addressOf (some "team") "job_1" ≠ a.addressOf none "job/1" := by decide
  have hok : ((b.store (some "team")).save (after start history) "job_1" plan).isOk = true := by
    decide +kernel
  obtain ⟨st', hsave⟩ : ∃ st',
      (b.store (some "team")).save (after start history) "job_1" plan = .ok st' := by
    cases hsave : (b.store (some "team")).save (after start history) "job_1" plan with
    | error e => simp [hsave, Except.isOk, Except.toBool] at hok
    | ok st' => exact ⟨st', rfl⟩
  exact ⟨hsound, haddress, st', hsave,
    other_addresses_unchanged hsound history a b haddress (.inl ⟨plan, hsave⟩)⟩

/-- Two names in one directory, of which one is the file name of the other, and two names in one
    memory, of which one continues the namespace of the other: each time saving one plan brings the
    other about. -/
theorem names_share_addresses :
    let plan : Plan Unit := ⟨PlanNode.ofGoal "g", []⟩
    let t : FileTree := (Storage.Directory.create "plans" ∅).1
    let plans := (Backend.directory "plans").store none
    let outer := Backend.memory.store (some "a")
    let inner := Backend.memory.store (some "a.b")
    (plans.contains t "job/1" = false ∧
        ∃ t', plans.save t "job_1" plan = .ok t' ∧ plans.contains t' "job/1" = true) ∧
      outer.contains [] "b.c" = false ∧
        ∃ st', inner.save [] "c" plan = .ok st' ∧ outer.contains st' "b.c" = true := by
  refine ⟨⟨by decide +kernel, _, rfl, by decide +kernel⟩, by decide +kernel, _, rfl, by decide +kernel⟩

end Medium

end SkillPlan

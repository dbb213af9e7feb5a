import SkillPlan.FileTree
import SkillPlan.Filing
import SkillPlan.Plan.Binding

/-!
# Plan stores

Plans kept by name, as their records. A storage keeps values under keys, either in memory or as
files of a directory; a store puts a namespace in front of the names and turns records into plans
and back.
-/

namespace SkillPlan

/-! ## Storages -/

/-- The operations of a storage with states of type `S`. An operation that fails changes nothing. -/
structure Storage (S : Type) where
  get? : S → String → Except Error (Option Json)
  set : S → String → Json → Except Error S
  erase : S → String → Except Error S
  contains : S → String → Bool
  keys : S → List String

/-- The state of a storage in memory. -/
abbrev StoredValues := List (String × Json)

/-- A storage in memory. -/
def Storage.memory : Storage StoredValues where
  get? st key := .ok (st.lookup key)
  set st key value := .ok (Filing.put key value st)
  erase st key := .ok (Filing.remove key st)
  contains st key := (st.lookup key).isSome
  keys st := st.map Prod.fst

namespace Storage.Directory

/-- The characters of keys that file names do not have. -/
def reserved : List Char := ['/', '\\', ':', '*', '?', '"', '<', '>', '|']

/-- The key with each reserved character replaced. -/
def safeKey (key : String) : String :=
  String.ofList (key.toList.map fun c => if c ∈ reserved then '_' else c)

/-- The name of the file of a key. -/
def fileName (key : String) : String := safeKey key ++ ".json"

/-- The path of a name in a directory. -/
def join (directory name : String) : String :=
  if directory = "" ∨ directory.toList.getLast? = some '/' then directory ++ name
  else directory ++ "/" ++ name

/-- The path of the file of a key. -/
def path (directory key : String) : String := join directory (fileName key)

/-- The key of a file, if the name of the file has the right extension. A name that begins with its
    only point has none. -/
def keyOfFile? (name : String) : Option String :=
  match Text.after? ".json".toList.reverse name.toList.reverse with
  | some (c :: cs) => some (String.ofList (c :: cs).reverse)
  | _ => none

/-- The error of an access to the directory or to a file in it. -/
def fault (operation message detail : String) : Error :=
  ((Error.new .ioFailed message).during operation).because (.text detail)

/-- The value under a key. -/
def get? (directory : String) (t : FileTree) (key : String) : Except Error (Option Json) :=
  let file := path directory key
  if t.exists? file then
    match t.readText file with
    | .error f => .error (fault "store::get" ("Failed to read " ++ file) f.message)
    | .ok text =>
      match Json.ofText? text with
      | some value => .ok (some value)
      | none =>
        .error <| ((Error.new .serializationFailed (file ++ " is not valid JSON")).during
          "store::get").because (.text "the text is not valid JSON")
  else .ok none

/-- Writes the value of a key. -/
def set (directory : String) (t : FileTree) (key : String) (value : Json) :
    Except Error FileTree :=
  let file := path directory key
  match t.writeText file (Json.toWideText value) with
  | .ok t => .ok t
  | .error f => .error (fault "store::set" ("Failed to write " ++ file) f.message)

/-- Removes the file of a key, if there is one. -/
def erase (directory : String) (t : FileTree) (key : String) : Except Error FileTree :=
  let file := path directory key
  if t.exists? file then
    match t.remove file with
    | .ok t => .ok t
    | .error f => .error (fault "store::delete" ("Failed to delete " ++ file) f.message)
  else .ok t

/-- The keys of the files in the directory. -/
def keys (directory : String) (t : FileTree) : List String :=
  match t.list directory with
  | .ok names => names.filterMap keyOfFile?
  | .error _ => []

/-- Creates the directory, if it is missing. -/
def create (directory : String) (t : FileTree) : FileTree × Except Error Unit :=
  match t.makeDirectories directory with
  | (t, .ok ()) => (t, .ok ())
  | (t, .error f) =>
    (t, .error (fault "store::new" ("Failed to create plan dir " ++ directory) f.message))

end Storage.Directory

/-- A storage in a directory, one file of wide JSON text for each key. -/
def Storage.directory (path : String) : Storage FileTree where
  get? := Directory.get? path
  set := Directory.set path
  erase := Directory.erase path
  contains t key := t.exists? (Directory.path path key)
  keys := Directory.keys path

/-! ## Stores -/

/-- A store of plans. -/
structure PlanStore (S : Type) where
  storage : Storage S
  scope : Option String := none

namespace PlanStore

variable {S W : Type}

/-- The key of a name. -/
def fullKey (p : PlanStore S) (name : String) : String :=
  match p.scope with
  | some scope => scope ++ "." ++ name
  | none => name

/-- Keeps a plan under a name, in the place of an earlier one. -/
def save (p : PlanStore S) (st : S) (name : String) (plan : Plan W) : Except Error S :=
  p.storage.set st (p.fullKey name) plan.toJson

/-- The plan that is kept under a name, without its functions. -/
def load (p : PlanStore S) (st : S) (name : String) : Except Error (Plan W) := do
  match ← p.storage.get? st (p.fullKey name) with
  | none => .error ((Error.storageNotFound name).during "store::load")
  | some value =>
    match Json.decodeValue? Plan.ofRaw? value with
    | some plan => plan.checkCursors
    | none =>
      .error <| ((Error.new .serializationFailed
        ("stored plan '" ++ name ++ "' is malformed")).during "store::load").because
          (.text "the value is not the record of a plan")

/-- The plan that is kept under a name, bound to a registry. -/
def loadBound (p : PlanStore S) (r : Registry W) (st : S) (name : String) :
    Except Error (Plan W) :=
  (p.load st name).map (·.bind r)

/-- Forgets the plan under a name. -/
def erase (p : PlanStore S) (st : S) (name : String) : Except Error S :=
  p.storage.erase st (p.fullKey name)

/-- Whether a plan is kept under a name. -/
def contains (p : PlanStore S) (st : S) (name : String) : Bool :=
  p.storage.contains st (p.fullKey name)

/-- The name of a key, if the key is in the namespace. -/
def nameOfKey? (p : PlanStore S) (key : String) : Option String :=
  match p.scope with
  | some scope => (Text.after? (scope ++ ".").toList key.toList).map String.ofList
  | none => some key

/-- Texts in ascending order. -/
def sorted (names : List String) : List String := names.mergeSort fun a b => decide (a ≤ b)

/-- The names of the plans that are kept, in ascending order. -/
def list (p : PlanStore S) (st : S) : List String :=
  sorted ((p.storage.keys st).filterMap p.nameOfKey?)

end PlanStore

end SkillPlan

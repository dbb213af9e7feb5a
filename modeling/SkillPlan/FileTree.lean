import SkillPlan.Error
import SkillPlan.Text.Split

/-!
# File trees

A tree of directories and files as a value, with the operations that plans and stores use and the
faults that they can meet. A relative path starts from the home directory of the tree. A path is
followed name by name, so each directory on the way has to exist, also before `..`; the root is its
own parent.
-/

namespace SkillPlan

/-! ## Faults -/

/-- Why an operation on files failed. -/
inductive FileFault where
  | notFound
  | isDirectory
  | notDirectory
  | alreadyExists
  | nameTooLong
  | nulInPath
  | notUtf8
  deriving DecidableEq, Repr

namespace FileFault

/-- The text of a fault. -/
def message : FileFault → String
  | notFound => "No such file or directory (os error 2)"
  | isDirectory => "Is a directory (os error 21)"
  | notDirectory => "Not a directory (os error 20)"
  | alreadyExists => "File exists (os error 17)"
  | nameTooLong => "File name too long (os error 36)"
  | nulInPath => "file name contained an unexpected NUL byte"
  | notUtf8 => "stream did not contain valid UTF-8"

end FileFault

/-- What went wrong with an access to something outside, as far as errors tell it apart. -/
inductive AccessFault where
  | notFound
  | permissionDenied
  | other
  deriving DecidableEq, Repr

/-- The kind of the error of a failed access. -/
def AccessFault.kind : AccessFault → ErrorKind
  | notFound => .fileNotFound
  | permissionDenied => .permissionDenied
  | other => .ioFailed

/-- What went wrong with the access to a file. A tree denies nobody anything. -/
def FileFault.access : FileFault → AccessFault
  | notFound => .notFound
  | _ => .other

namespace Error

/-- The error of a failed access to something outside. -/
def ofAccess (kind : ErrorKind) (detail : String) : Error :=
  ((new kind detail).during "io").because (.text detail)

/-- The error of a fault that a function met itself. -/
def ofFile (f : FileFault) : Error := ofAccess f.access.kind f.message

end Error

/-! ## Trees -/

/-- What stands at a place in a tree. -/
inductive FileNode where
  | directory
  | file (content : ByteArray)

instance : DecidableEq FileNode
  | .directory, .directory => isTrue rfl
  | .directory, .file _ => isFalse nofun
  | .file _, .directory => isFalse nofun
  | .file a, .file b =>
    match ByteArray.decEq a b with
    | isTrue h => isTrue (congrArg FileNode.file h)
    | isFalse h => isFalse fun hf => h (FileNode.file.inj hf)

/-- The names on the way from the root to a place. -/
abbrev Place := List String

/-- A tree: what stands at each place other than the root, and where relative paths start. -/
structure FileTree where
  nodes : List (Place × FileNode) := []
  home : Place := []

namespace FileTree

instance : Inhabited FileTree := ⟨{}⟩
instance : EmptyCollection FileTree := ⟨{}⟩

/-- What stands at a place. -/
def node? (t : FileTree) (p : Place) : Option FileNode :=
  if p = [] then some .directory else t.nodes.lookup p

/-- Puts a node at a place. -/
def put (t : FileTree) (p : Place) (n : FileNode) : FileTree :=
  { t with nodes := (p, n) :: t.nodes.filter fun e => e.1 ≠ p }

/-- Removes what stands at a place and everything below it. -/
def prune (t : FileTree) (p : Place) : FileTree :=
  { t with nodes := t.nodes.filter fun e => !p.isPrefixOf e.1 }

/-- The names directly below a place. -/
def namesBelow (t : FileTree) (p : Place) : List String :=
  t.nodes.filterMap fun e =>
    match e.1.reverse with
    | [] => none
    | name :: above => if above.reverse = p then some name else none

/-! ## Paths -/

/-- The bytes that one name may have. -/
def maxNameBytes : Nat := 255

/-- The bytes that a path must stay below. -/
def pathBytesBound : Nat := 4096

/-- A path, taken apart: where it starts and the names to follow. -/
structure Route where
  start : Place
  names : List String
  /-- Whether the path ends in a way that only a directory can have. -/
  endsInDirectory : Bool
  /-- Whether the path ends in `.`, which stands for a directory that is already there. -/
  endsInPoint : Bool

/-- Takes a path apart. -/
def route (t : FileTree) (path : String) : Except FileFault Route :=
  if path.toList.contains '\x00' then .error .nulInPath
  else if path = "" then .error .notFound
  else if pathBytesBound ≤ path.utf8ByteSize then .error .nameTooLong
  else
    let parts := Text.split '/' path
    let last := parts.getLast?.getD ""
    .ok {
      start := if path.toList.head? = some '/' then [] else t.home
      names := parts.filter fun s => s ≠ "" ∧ s ≠ "."
      endsInDirectory := last = "" ∨ last = "." ∨ last = ".."
      endsInPoint := (parts.filter (· ≠ "")).getLast? = some "." }

/-- Follows names from a directory. Only the last name may be missing. -/
def follow (t : FileTree) (here : Place) : List String → Except FileFault (Place × Option FileNode)
  | [] => .ok (here, some .directory)
  | name :: rest =>
    if name = ".." then follow t here.dropLast rest
    else if maxNameBytes < name.utf8ByteSize then .error .nameTooLong
    else
      match t.node? (here ++ [name]) with
      | some .directory => follow t (here ++ [name]) rest
      | some (.file content) =>
        if rest = [] then .ok (here ++ [name], some (.file content)) else .error .notDirectory
      | none => if rest = [] then .ok (here ++ [name], none) else .error .notFound

/-- The place that a path leads to, what stands there, and whether it has to be a directory. -/
def locate (t : FileTree) (path : String) :
    Except FileFault (Place × Option FileNode × Bool) := do
  let r ← t.route path
  let (place, node) ← t.follow r.start r.names
  match node with
  | some (.file _) => if r.endsInDirectory then .error .notDirectory else pure ()
  | some .directory => pure ()
  | none => if r.endsInPoint then .error .notFound else pure ()
  return (place, node, r.endsInDirectory)

/-! ## Operations -/

/-- Whether anything stands where the path leads. -/
def exists? (t : FileTree) (path : String) : Bool :=
  match t.locate path with
  | .ok (_, some _, _) => true
  | _ => false

/-- Whether the path leads to a file. -/
def isFile (t : FileTree) (path : String) : Bool :=
  match t.locate path with
  | .ok (_, some (.file _), _) => true
  | _ => false

/-- The bytes of a file. -/
def read (t : FileTree) (path : String) : Except FileFault ByteArray := do
  match ← t.locate path with
  | (_, some (.file content), _) => return content
  | (_, some .directory, _) => .error .isDirectory
  | (_, none, _) => .error .notFound

/-- The text of a file. -/
def readText (t : FileTree) (path : String) : Except FileFault String := do
  let content ← t.read path
  match String.fromUTF8? content with
  | some text => return text
  | none => .error .notUtf8

/-- Whether a slash follows the last name of a path, so that no file can be created there. -/
def isClosed (path : String) : Bool :=
  let last := ((Text.split '/' path).filter (· ≠ "")).getLast?
  path.toList.getLast? = some '/' && last ≠ some "." && last ≠ some ".."

/-- Creates a file or replaces its content. Behind a name with a slash only the directories before
    it are followed; the name itself is not looked at. -/
def write (t : FileTree) (path : String) (content : ByteArray) : Except FileFault FileTree := do
  if isClosed path then
    let r ← t.route path
    match ← t.follow r.start r.names.dropLast with
    | (_, some .directory) => .error .isDirectory
    | (_, some (.file _)) => .error .notDirectory
    | (_, none) => .error .notFound
  else
    match ← t.locate path with
    | (_, some .directory, _) => .error .isDirectory
    | (place, _, _) => return t.put place (.file content)

/-- Creates a file with a text or replaces its content. -/
def writeText (t : FileTree) (path text : String) : Except FileFault FileTree :=
  t.write path text.toUTF8

/-- Removes a file. -/
def remove (t : FileTree) (path : String) : Except FileFault FileTree := do
  match ← t.locate path with
  | (place, some (.file _), _) => return t.prune place
  | (_, some .directory, _) => .error .isDirectory
  | (_, none, _) => .error .notFound

/-- Removes a directory and everything in it. -/
def removeDirectory (t : FileTree) (path : String) : Except FileFault FileTree := do
  match ← t.locate path with
  | (place, some .directory, _) => return t.prune place
  | (_, some (.file _), _) => .error .notDirectory
  | (_, none, _) => .error .notFound

/-- The names in a directory. -/
def list (t : FileTree) (path : String) : Except FileFault (List String) := do
  match ← t.locate path with
  | (place, some .directory, _) => return t.namesBelow place
  | (_, some (.file _), _) => .error .notDirectory
  | (_, none, _) => .error .notFound

/-- Follows names from a directory, creating the directories that are missing. A fault leaves those
    that were created before it. Once one was `created`, every name is one to create, so a file in
    the way is a name that exists; before that it is a directory that is none. -/
def makeAlong (t : FileTree) (created : Bool) (here : Place) :
    List String → FileTree × Except FileFault Unit
  | [] => (t, .ok ())
  | name :: rest =>
    if name = ".." then makeAlong t created here.dropLast rest
    else if maxNameBytes < name.utf8ByteSize then (t, .error .nameTooLong)
    else
      match t.node? (here ++ [name]) with
      | some .directory => makeAlong t created (here ++ [name]) rest
      | some (.file _) =>
        (t, .error (if created ∨ rest = [] then .alreadyExists else .notDirectory))
      | none => makeAlong (t.put (here ++ [name]) .directory) true (here ++ [name]) rest

/-- Creates a directory and those above it. The empty path names no directory and needs none. Of a
    path that ends in `.` only the directories above are created. -/
def makeDirectories (t : FileTree) (path : String) : FileTree × Except FileFault Unit :=
  if path = "" then (t, .ok ())
  else
    match t.route path with
    | .error f => (t, .error f)
    | .ok r =>
      if r.endsInPoint then
        match t.makeAlong false r.start r.names.dropLast with
        | (t, .ok ()) => (t, (t.locate path).map fun _ => ())
        | (t, .error f) => (t, .error f)
      else t.makeAlong false r.start r.names

end FileTree

end SkillPlan

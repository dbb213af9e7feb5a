import SkillPlan.FileTree
import SkillPlan.Function

/-!
# File skills

Functions that read and write the files of the world.
-/

namespace SkillPlan.Skills

variable {W : Type} [Holds FileTree W]

/-- The collection of the file functions. -/
def fileCollection : String := "FileIOSkill"

/-- The view of the function that reads a file. -/
def readView : FunctionView where
  collection := fileCollection
  name := "ReadAsync"
  description := "Read a file"
  parameters := [⟨"path", "Source file", none⟩]

/-- The view of the function that writes a file. -/
def writeView : FunctionView where
  collection := fileCollection
  name := "WriteAsync"
  description := "Write a file"
  parameters := [⟨"path", "Destination file", none⟩, ⟨"content", "File content", none⟩]

/-- The error of a path that could not be read or written. -/
def pathFault (path : String) (f : FileFault) : Error := (Error.ofFile f).note "path" path

/-- Reads the file that `path` names, or else the main value. -/
def readFile : SkillFunction W where
  view := readView
  invoke _ b w :=
    match (b.nonEmpty? "path").or (b.nonEmpty? Bag.inputKey) with
    | none => (.error (.missingVariable readView.qualifiedName "path"), w)
    | some path =>
      match (Holds.get w : FileTree).readText path with
      | .ok text => (.ok text, w)
      | .error f => (.error (pathFault path f), w)

/-- Writes `content` to the file that `path` names. -/
def writeFile : SkillFunction W where
  view := writeView
  invoke _ b w :=
    match b.nonEmpty? "path" with
    | none => (.error (.missingVariable writeView.qualifiedName "path"), w)
    | some path =>
      match (Holds.get w : FileTree).writeText path ((b.get? "content").getD "") with
      | .ok t => (.ok "", Holds.set t w)
      | .error f => (.error (pathFault path f), w)

/-- The file functions. -/
def fileFunctions : List (SkillFunction W) := [readFile, writeFile]

end SkillPlan.Skills

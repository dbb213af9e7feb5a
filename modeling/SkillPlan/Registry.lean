import SkillPlan.Filing
import SkillPlan.Function

/-!
# Registries

Functions filed under a collection and a name, both without regard to the case of the letters A to
Z. A function without a collection is filed in the global one. Shelves keep the order in which they
were opened, and a shelf the order in which its names were first filed.
-/

namespace SkillPlan

open Text (fold)

/-- The functions that plans and planners find: shelves by folded collection, and on each shelf the
    functions by folded name. -/
structure Registry (W : Type) where
  shelves : List (String × List (String × SkillFunction W)) := []

namespace Registry

variable {W : Type}

instance : EmptyCollection (Registry W) := ⟨⟨[]⟩⟩
instance : Inhabited (Registry W) := ⟨⟨[]⟩⟩

/-- The shelf of a collection. -/
def shelfKey (collection : String) : String :=
  fold (if collection = "" then globalCollection else collection)

/-- Files a function, in the place of an earlier one of the same collection and name. -/
def add (r : Registry W) (f : SkillFunction W) : Registry W :=
  let shelf := (r.shelves.lookup (shelfKey f.view.collection)).getD []
  ⟨Filing.put (shelfKey f.view.collection) (Filing.put (fold f.view.name) f shelf) r.shelves⟩

/-- Files several functions in turn. -/
def addAll (r : Registry W) (fs : List (SkillFunction W)) : Registry W := fs.foldl add r

/-- The registry of some functions, filed in turn. -/
def ofList (fs : List (SkillFunction W)) : Registry W := addAll ∅ fs

/-- The function of a collection and a name. -/
def get? (r : Registry W) (collection name : String) : Option (SkillFunction W) :=
  (r.shelves.lookup (shelfKey collection)).bind (·.lookup (fold name))

/-- The function of a collection, the global one if there is none given, and a name. -/
def resolve? (r : Registry W) (collection : Option String) (name : String) :
    Option (SkillFunction W) :=
  r.get? (collection.getD "") name

/-- The function of a collection and a name, or the error that there is none. -/
def resolve (r : Registry W) (collection : Option String) (name : String) :
    Except Error (SkillFunction W) :=
  match r.resolve? collection name with
  | some f => .ok f
  | none => .error (.functionNotFound collection name)

/-- Whether a collection has a function of this name. -/
def contains (r : Registry W) (collection : Option String) (name : String) : Bool :=
  (r.resolve? collection name).isSome

/-- Every function, shelf by shelf. -/
def toList (r : Registry W) : List (SkillFunction W) :=
  r.shelves.flatMap fun shelf => shelf.2.map Prod.snd

/-- The number of functions. -/
def size (r : Registry W) : Nat := r.toList.length

/-- The views of every function. -/
def listing (r : Registry W) : FunctionListing := .ofViews (r.toList.map (·.view))

/-- How a description of a value shows the registry. -/
def describe (r : Registry W) : String :=
  "SkillCollection \x7b functions: " ++ toString r.size ++ " \x7d"

theorem get?_add (r : Registry W) (f : SkillFunction W) (collection name : String) :
    (r.add f).get? collection name =
      if shelfKey collection = shelfKey f.view.collection ∧ fold name = fold f.view.name
      then some f else r.get? collection name := by
  unfold get? add
  rw [Filing.lookup_put]
  by_cases hc : shelfKey collection = shelfKey f.view.collection
  · simp only [hc, if_true, true_and, Option.bind_some, Filing.lookup_put]
    cases r.shelves.lookup (shelfKey f.view.collection) <;> simp
  · simp [hc]

end Registry

end SkillPlan

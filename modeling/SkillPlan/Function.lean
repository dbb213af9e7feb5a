import SkillPlan.Bag
import SkillPlan.Completion.Request
import SkillPlan.Error
import SkillPlan.World

/-!
# Skill functions

A function describes itself with a view, which planners list and which names the parameters that the
executor hands over, and turns the variables of a call into a text.
-/

namespace SkillPlan

/-! ## Views -/

/-- The collection of functions that were given none. -/
def globalCollection : String := "_GLOBAL_FUNCTIONS_"

/-- A declared parameter. -/
structure ParameterView where
  name : String
  description : String := ""
  default : Option String := none
  deriving DecidableEq, Repr

/-- What a function says about itself. -/
structure FunctionView where
  collection : String
  name : String
  description : String := ""
  parameters : List ParameterView := []
  isSemantic : Bool := false
  deriving DecidableEq, Repr

namespace FunctionView

/-- The collection and the name, with a point between them. -/
def qualifiedName (v : FunctionView) : String := v.collection ++ "." ++ v.name

/-- Whether the function is declared in the global collection. -/
def isGlobal (v : FunctionView) : Bool := Text.sameName v.collection globalCollection

/-- The variables with the defaults of those parameters that are missing or empty. -/
def applyDefaults (v : FunctionView) (b : Bag) : Bag :=
  v.parameters.foldl (fun b p =>
    match p.default with
    | some d => if (b.nonEmpty? p.name).isNone then b.set p.name d else b
    | none => b) b

end FunctionView

/-- A parameter as a record; a default that is not set is left out. -/
def ParameterView.toJson (p : ParameterView) : Json :=
  .obj <| [("name", .str p.name), ("description", .str p.description)] ++
    (p.default.map fun d => ("default_value", .str d)).toList

/-- Reads a parameter. -/
def ParameterView.ofRaw? (levels : Nat) (x : Json.Raw) : Option ParameterView := do
  let f ← Json.Fields.of? levels ["name", "description", "default_value"] x
  let name ← f.required? "name" Json.asString?
  let description ← f.withDefault? "description" "" Json.asString?
  let default ← f.withDefault? "default_value" none (Json.asOption? Json.asString?)
  return ⟨name, description, default⟩

/-- A view as a record. -/
def FunctionView.toJson (v : FunctionView) : Json :=
  .obj [("collection", .str v.collection), ("name", .str v.name),
    ("description", .str v.description), ("parameters", .arr (v.parameters.map (·.toJson))),
    ("is_semantic", .bool v.isSemantic)]

/-- Reads a view. -/
def FunctionView.ofRaw? (levels : Nat) (x : Json.Raw) : Option FunctionView := do
  let f ← Json.Fields.of? levels
    ["collection", "name", "description", "parameters", "is_semantic"] x
  let collection ← f.required? "collection" Json.asString?
  let name ← f.required? "name" Json.asString?
  let description ← f.withDefault? "description" "" Json.asString?
  let parameters ← f.withDefault? "parameters" []
    (Json.asList? (levels - 1) ParameterView.ofRaw?)
  let isSemantic ← f.withDefault? "is_semantic" false Json.asBool?
  return ⟨collection, name, description, parameters, isSemantic⟩

/-! ## Listings -/

/-- Views grouped by the text of their collection, in the order of first appearance. -/
abbrev FunctionGroups := List (String × List FunctionView)

/-- Adds a view at the end of its group. -/
def FunctionGroups.add (v : FunctionView) : FunctionGroups → FunctionGroups
  | [] => [(v.collection, [v])]
  | (c, vs) :: rest =>
    if c = v.collection then (c, vs ++ [v]) :: rest else (c, vs) :: add v rest

/-- The views of every group. -/
def FunctionGroups.views (gs : FunctionGroups) : List FunctionView := gs.flatMap Prod.snd

/-- The views of every registered function, native ones apart from semantic ones. -/
structure FunctionListing where
  native : FunctionGroups := []
  semantic : FunctionGroups := []

namespace FunctionListing

/-- Adds a view to the groups of its sort. -/
def add (l : FunctionListing) (v : FunctionView) : FunctionListing :=
  if v.isSemantic then { l with semantic := l.semantic.add v }
  else { l with native := l.native.add v }

/-- The listing of some views. -/
def ofViews (vs : List FunctionView) : FunctionListing := vs.foldl add {}

/-- Every view, semantic functions first. -/
def toList (l : FunctionListing) : List FunctionView := l.semantic.views ++ l.native.views

/-- The number of functions. -/
def size (l : FunctionListing) : Nat := l.toList.length

/-- Groups as an object. -/
def groupsToJson (gs : FunctionGroups) : Json :=
  .obj (gs.map fun g => (g.1, .arr (g.2.map (·.toJson))))

/-- A listing as a record. -/
def toJson (l : FunctionListing) : Json :=
  .obj [("native_functions", groupsToJson l.native),
    ("semantic_functions", groupsToJson l.semantic)]

end FunctionListing

/-! ## Functions -/

/-- What every function of a run can ask for: which functions are registered, and a completion. -/
structure Services (W : Type) where
  functions : FunctionListing := {}
  completion : Option (Completion.Backend W) := none

/-- A function that acts on a world. -/
structure SkillFunction (W : Type) where
  view : FunctionView
  invoke : Services W → Bag → W → Except Error String × W

namespace SkillFunction

variable {W : Type}

/-- A function that is given its variables with the defaults filled in. -/
def native (view : FunctionView) (handler : Bag → W → Except Error String × W) :
    SkillFunction W where
  view := view
  invoke _ b w := handler (view.applyDefaults b) w

/-- A native function that leaves the world alone and cannot fail. -/
def ofText (view : FunctionView) (handler : Bag → String) : SkillFunction W :=
  native view fun b w => (.ok (handler b), w)

/-- How a description of a value shows the function. -/
def describe (f : SkillFunction W) : String := "SkillFunction(" ++ f.view.qualifiedName ++ ")"

end SkillFunction

end SkillPlan

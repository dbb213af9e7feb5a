import SkillPlan.Function

/-!
# Plans

A plan is a tree. A node without a function is run by running its steps in order, and its cursor
counts the steps that are done. A node with a function is run by calling it. The state of a node
holds what its steps have produced so far.
-/

namespace SkillPlan

/-- A node of a plan, apart from its steps. -/
structure PlanNode (W : Type) where
  name : String
  collection : String
  description : String
  /-- What the steps have produced so far. -/
  state : Bag := ∅
  /-- What the node is given beyond the declared parameters; values may hold placeholders. -/
  parameters : Bag := ∅
  /-- The names under which the result is put into the state of the plan above. -/
  outputs : Bag := ∅
  /-- How many steps are done. -/
  cursor : Nat := 0
  function : Option (SkillFunction W) := none
  /-- Why a planner chose this. -/
  rationale : Option String := none

/-- A node and its steps. -/
structure Plan (W : Type) where
  node : PlanNode W
  steps : List (Plan W) := []

/-- The collection of nodes that call no function. -/
def planCollection : String := "skillcraft.Plan"

namespace PlanNode

variable {W : Type}

/-- The node of a goal, which is both its name and its description. -/
def ofGoal (goal : String) : PlanNode W where
  name := goal
  collection := planCollection
  description := goal

/-- The collection and the name, with a point between them. -/
def qualifiedName (n : PlanNode W) : String := n.collection ++ "." ++ n.name

/-- The node that calls a function, named after it. -/
def bind (n : PlanNode W) (f : SkillFunction W) : PlanNode W :=
  { n with
    name := f.view.name
    collection := f.view.collection
    description := f.view.description
    function := some f }

/-- What the node says about itself: the view of its function, or one without parameters. -/
def view (n : PlanNode W) : FunctionView :=
  match n.function with
  | some f => f.view
  | none => { collection := n.collection, name := n.name, description := n.description }

/-- The node with a parameter. -/
def withParameter (n : PlanNode W) (key value : String) : PlanNode W :=
  { n with parameters := n.parameters.set key value }

/-- The node with an output name. -/
def withOutput (n : PlanNode W) (key : String) : PlanNode W :=
  { n with outputs := n.outputs.set key "" }

/-- The node with a variable in its state. -/
def withState (n : PlanNode W) (key value : String) : PlanNode W :=
  { n with state := n.state.set key value }

end PlanNode

namespace Plan

variable {W : Type}

/-- A plan without steps for a goal. -/
def ofGoal (goal : String) : Plan W := ⟨.ofGoal goal, []⟩

/-- A plan that calls a function. -/
def ofFunction (f : SkillFunction W) : Plan W := ⟨(PlanNode.ofGoal "").bind f, []⟩

instance : Inhabited (Plan W) := ⟨ofGoal ""⟩

/-- The plan with one more step at the end. -/
def addStep (p : Plan W) (step : Plan W) : Plan W := { p with steps := p.steps ++ [step] }

/-- Whether a step is left to run. -/
def hasNextStep (p : Plan W) : Bool := p.node.cursor < p.steps.length

/-- Whether the plan calls a function and has no steps. -/
def isLeaf (p : Plan W) : Bool := p.steps.isEmpty && p.node.function.isSome

/-- Whether the plan has neither a function nor steps, so that there is nothing to run. -/
def isUnbound (p : Plan W) : Bool := p.steps.isEmpty && p.node.function.isNone

end Plan

end SkillPlan

import SkillPlan.Plan.Basic
import SkillPlan.Planner.Answer
import SkillPlan.Registry

/-!
# Choosing a function for a goal

A planner shows the functions that it offers to a model and makes a plan of the one that the model
chooses: one step, or none where no function serves the goal, with the parameters in the state.
-/

namespace SkillPlan.Planner

variable {W : Type}

/-- The step that an answer asks for, if it asks for any. -/
def stepOf (r : Registry W) (a : Answer) : Except Error (Option (Plan W)) :=
  match Answer.functionParts? a.function with
  | none => .ok none
  | some (collection, name) =>
    match r.resolve collection name with
    | .ok f => .ok (some (Plan.ofFunction f))
    | .error e => .error (e.during "planner::create_plan")

/-- The plan that an answer stands for. -/
def planOf (r : Registry W) (goal : String) (a : Answer) : Except Error (Plan W) := do
  let step ← stepOf r a
  return {
    node := { PlanNode.ofGoal goal with
      state := a.parameters
      rationale := if a.rationale = "" then none else some a.rationale }
    steps := step.toList }

/-- The prompt that asks for a plan. -/
def promptFor (o : Options) (r : Registry W) (goal : String) : String :=
  prompt o goal (catalog o r.listing)

/-- Reads the plan out of what a model answered. -/
def planOfCompletion (o : Options) (r : Registry W) (goal completion : String) :
    Except Error (Plan W) :=
  match Answer.ofCompletion completion o.stop with
  | .ok a => planOf r goal a
  | .error e => .error (e.note "completion" completion)

/-- Asks a model for a plan. A blank goal is refused without asking. -/
def createPlan (o : Options) (r : Registry W) (backend : Completion.Backend W) (goal : String)
    (w : W) : Except Error (Plan W) × W :=
  if Text.isAllBlank goal then
    (.error ((Error.new .invalidGoal "the goal specified is empty").during
      "planner::create_plan"), w)
  else
    match backend.completeText (promptFor o r goal) o.settings w with
    | (.error f, w) =>
      (.error (((Error.ofCompletion f).during "planner::create_plan").note "goal" goal), w)
    | (.ok completion, w) => (planOfCompletion o r goal completion, w)

end SkillPlan.Planner

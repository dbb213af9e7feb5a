import SkillPlan.Plan.Basic
import SkillPlan.Template

/-!
# Variables of steps

What a step is handed: a main value, the declared parameters that have a value, and its own
parameters, which win. Values come from the caller, and from the state of the plan where the caller
has none.
-/

namespace SkillPlan

variable {W : Type}

namespace PlanNode

/-- The value under a key, from the caller, else from the state; empty values do not count. -/
def value? (n : PlanNode W) (b : Bag) (key : String) : Option String :=
  (b.nonEmpty? key).or (n.state.nonEmpty? key)

/-- The main value that a step is handed. A step without steps of its own is handed the description
    of the plan where there is nothing else. -/
def stepInput (n : PlanNode W) (b : Bag) (step : Plan W) : String :=
  if b.input ≠ "" then b.input
  else if n.state.input ≠ "" then n.state.input
  else if step.steps.isEmpty then n.description
  else ""

/-- Hands over a declared parameter that has a value. -/
def handDeclared (n : PlanNode W) (b : Bag) (handed : Bag) (p : ParameterView) : Bag :=
  match n.value? b p.name with
  | some value => handed.set p.name value
  | none => handed

/-- Hands over a parameter of the step: the expanded template, or for an empty one the value of the
    same name. -/
def handNamed (n : PlanNode W) (b : Bag) (handed : Bag) (e : String × String) : Bag :=
  if e.2 ≠ "" then handed.set e.1 (Template.expand e.2 b n.state)
  else
    match n.value? b e.1 with
    | some value => handed.set e.1 value
    | none => handed

/-- The variables that a step is handed when the caller has the variables `b`. -/
def stepVariables (n : PlanNode W) (b : Bag) (step : Plan W) : Bag :=
  let handed := (∅ : Bag).withInput (n.stepInput b step)
  let handed := step.node.view.parameters.foldl (n.handDeclared b) handed
  step.node.parameters.entries.foldl (n.handNamed b) handed

end PlanNode

end SkillPlan

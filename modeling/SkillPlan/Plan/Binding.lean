import SkillPlan.Plan.Record
import SkillPlan.Registry

/-!
# Binding plans

The nodes without steps find their functions in a registry by collection and name. A node that finds
one takes over its name, collection and description; a node that finds none stays as it is.
-/

namespace SkillPlan.Plan

variable {W : Type}

/-- Binds a node without steps. -/
def bindNode (r : Registry W) (n : PlanNode W) : PlanNode W :=
  match r.get? n.collection n.name with
  | some f => n.bind f
  | none => n

mutual
/-- Binds every node without steps that the registry has a function for. -/
def bind (r : Registry W) : Plan W → Plan W
  | ⟨node, []⟩ => ⟨bindNode r node, []⟩
  | ⟨node, step :: rest⟩ => ⟨node, bindSteps r (step :: rest)⟩

/-- Binds some steps. -/
def bindSteps (r : Registry W) : List (Plan W) → List (Plan W)
  | [] => []
  | step :: rest => step.bind r :: bindSteps r rest
end

mutual
/-- How many nodes without steps the registry has a function for. -/
def bindCount (r : Registry W) : Plan W → Nat
  | ⟨node, []⟩ => if (r.get? node.collection node.name).isSome then 1 else 0
  | ⟨_, step :: rest⟩ => stepsBindCount r (step :: rest)

/-- The same for some steps. -/
def stepsBindCount (r : Registry W) : List (Plan W) → Nat
  | [] => 0
  | step :: rest => step.bindCount r + stepsBindCount r rest
end

mutual
/-- The names of the steps, at any depth, that have nothing to run. -/
def unboundSteps : Plan W → List String
  | ⟨_, steps⟩ => unboundAmong steps

/-- The same for some steps. -/
def unboundAmong : List (Plan W) → List String
  | [] => []
  | step :: rest =>
    (if step.steps.isEmpty then
      (if step.node.function.isNone then [step.node.qualifiedName] else [])
    else step.unboundSteps) ++ unboundAmong rest
end

/-- Reads a plan from the text of its record and binds it. -/
def ofTextBound (r : Registry W) (s : String) : Except Error (Plan W) :=
  (ofText s).map (·.bind r)

end SkillPlan.Plan

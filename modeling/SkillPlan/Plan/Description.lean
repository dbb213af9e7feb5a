import SkillPlan.Plan.Basic
import SkillPlan.Text.Quoted
import SkillPlan.World

/-!
# Descriptions of values

How plans, bags and the surroundings of a run are shown to someone who looks into the program: the
name of the type and its fields, texts in quotes.
-/

namespace SkillPlan

open Text (quoted)

variable {W : Type}

/-- A type name with fields. -/
def describeFields (name : String) (fields : List (String × String)) : String :=
  name ++ " \x7b " ++ ", ".intercalate (fields.map fun f => f.1 ++ ": " ++ f.2) ++ " \x7d"

/-- A bag: each folded key with the key as it was written and the value. -/
def Bag.describe (b : Bag) : String :=
  describeFields "ContextVariables"
    [("entries", "\x7b" ++ ", ".intercalate (b.entries.map fun e =>
      quoted (Text.fold e.1) ++ ": (" ++ quoted e.1 ++ ", " ++ quoted e.2 ++ ")") ++ "\x7d")]

/-- What surrounds a function of a run with the given variables. -/
def Services.describe [Cancellable W] (s : Services W) (b : Bag) (w : W) : String :=
  describeFields "ExecutionContext"
    [("variables", b.describe),
      ("completion",
        match s.completion with
        | some backend => "Some(" ++ quoted backend.name ++ ")"
        | none => "None"),
      ("cancelled", toString (Cancellable.isCancelled w))]

/-- A node whose steps have the given descriptions. -/
def PlanNode.describe (n : PlanNode W) (steps : List String) : String :=
  describeFields "Plan"
    [("name", quoted n.name), ("collection", quoted n.collection),
      ("description", quoted n.description), ("next_step_index", toString n.cursor),
      ("state", n.state.describe), ("named_parameters", n.parameters.describe),
      ("named_outputs", n.outputs.describe), ("bound", toString n.function.isSome),
      ("steps", "[" ++ ", ".intercalate steps ++ "]")]

mutual
/-- A plan. -/
def Plan.describe : Plan W → String
  | ⟨node, steps⟩ => node.describe (describeSteps steps)

/-- Some steps. -/
def Plan.describeSteps : List (Plan W) → List String
  | [] => []
  | step :: rest => step.describe :: describeSteps rest
end

end SkillPlan

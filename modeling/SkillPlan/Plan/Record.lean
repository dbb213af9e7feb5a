import SkillPlan.Json.Decode
import SkillPlan.Plan.Basic

/-!
# Records of plans

How a plan is written as JSON and read back. Functions are not written, so a plan that was read
calls none until it is bound to a registry. A cursor beyond the steps of its node is refused.
-/

namespace SkillPlan

variable {W : Type}

/-! ## Writing -/

/-- The record of a node whose steps have the given records. -/
def PlanNode.toJson (n : PlanNode W) (steps : List Json) : Json :=
  .obj <| [("name", .str n.name), ("skill_name", .str n.collection),
    ("description", .str n.description), ("next_step_index", .ofNat n.cursor),
    ("state", .ofBag n.state), ("named_parameters", .ofBag n.parameters),
    ("named_outputs", .ofBag n.outputs), ("steps", .arr steps)] ++
    (n.rationale.map fun text => ("rationale", .str text)).toList

namespace Plan

mutual
/-- The record of a plan. -/
def toJson : Plan W → Json
  | ⟨node, steps⟩ => node.toJson (stepsToJson steps)

/-- The records of some steps. -/
def stepsToJson : List (Plan W) → List Json
  | [] => []
  | step :: rest => step.toJson :: stepsToJson rest
end

mutual
/-- The plan without its functions, which is what a record keeps of it. -/
def withoutFunctions : Plan W → Plan W
  | ⟨node, steps⟩ => ⟨{ node with function := none }, stepsWithoutFunctions steps⟩

/-- Some steps without their functions. -/
def stepsWithoutFunctions : List (Plan W) → List (Plan W)
  | [] => []
  | step :: rest => step.withoutFunctions :: stepsWithoutFunctions rest
end

/-! ## Reading -/

/-- The names of the fields of a record. -/
def fieldNames : List String :=
  ["name", "skill_name", "description", "next_step_index", "state", "named_parameters",
    "named_outputs", "steps", "rationale"]

/-- Reads a record, its steps with the given reader. Every field has a default. -/
def readNode? (levels : Nat) (readSteps : Json.Raw → Option (List (Plan W))) (x : Json.Raw) :
    Option (Plan W) := do
  let f ← Json.Fields.of? levels fieldNames x
  let name ← f.withDefault? "name" "" Json.asString?
  let collection ← f.withDefault? "skill_name" "" Json.asString?
  let description ← f.withDefault? "description" "" Json.asString?
  let cursor ← f.withDefault? "next_step_index" 0 Json.asWord?
  let state ← f.withDefault? "state" ∅ (Json.asBag? (levels - 1))
  let parameters ← f.withDefault? "named_parameters" ∅ (Json.asBag? (levels - 1))
  let outputs ← f.withDefault? "named_outputs" ∅ (Json.asBag? (levels - 1))
  let steps ← f.withDefault? "steps" [] readSteps
  let rationale ← f.withDefault? "rationale" none (Json.asOption? Json.asString?)
  return ⟨⟨name, collection, description, state, parameters, outputs, cursor, none, rationale⟩,
    steps⟩

/-- Reads a record, whatever its cursors are. A record takes one level and its list of steps
    another. -/
def ofRaw? : Nat → Json.Raw → Option (Plan W)
  | levels + 2, x => readNode? (levels + 2) (Json.asList? (levels + 1) fun _ => ofRaw? levels) x
  | levels, x => readNode? levels (fun _ => none) x

/-- The error of a cursor beyond the steps. -/
def cursorError (p : Plan W) : Error :=
  ((Error.new .invalidPlan ("next_step_index " ++ toString p.node.cursor ++ " exceeds " ++
    toString p.steps.length ++ " steps")).during "plan::from_record").note "plan" p.node.name

mutual
/-- The error of the first node whose cursor is beyond its steps; a node goes before its steps. -/
def cursorFault? : Plan W → Option Error
  | ⟨node, steps⟩ =>
    if steps.length < node.cursor then some (cursorError ⟨node, steps⟩) else stepsFault? steps

/-- The error of the first node among some steps and below them. -/
def stepsFault? : List (Plan W) → Option Error
  | [] => none
  | step :: rest => step.cursorFault?.or (stepsFault? rest)
end

/-- The plan, if every cursor is within its steps. -/
def checkCursors (p : Plan W) : Except Error (Plan W) :=
  match p.cursorFault? with
  | some e => .error e
  | none => .ok p

/-- The compact text of the record. -/
def toText (p : Plan W) : String := Json.toText p.toJson

/-- The wide text of the record. -/
def toWideText (p : Plan W) : String := Json.toWideText p.toJson

/-- What is wrong with a text that is not the record of a plan. -/
def notARecord : String := "the text is not the record of a plan"

/-- Reads a plan from the text of its record. -/
def ofText (s : String) : Except Error (Plan W) :=
  match Json.decodeText? ofRaw? s with
  | some p => p.checkCursors
  | none =>
    .error <| ((Error.new .serializationFailed ("failed to parse plan JSON: " ++ notARecord)).during
      "plan::from_json").because (.text notARecord)

end Plan

end SkillPlan

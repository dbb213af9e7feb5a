import SkillPlan.Completion.Request

/-!
# The chat format

How a request is written for services that speak the chat format, and how their answers are read.
An answer lists choices, of which the first one counts.
-/

namespace SkillPlan.Completion.Chat

/-! ## Requests -/

/-- A message; one without content has no field for it. -/
def messageToJson (m : Message) : Json :=
  .obj <| ("role", .str m.role.name) :: (m.content.map fun text => ("content", .str text)).toList

/-- A request, with the model that serves it. -/
def requestToJson (model : String) (r : Request) : Json :=
  .obj <| [("model", .str model), ("messages", .arr (r.messages.map messageToJson))] ++
    (r.temperature.map fun t => ("temperature", singleToJson t)).toList ++
    (r.maxTokens.map fun n => ("max_tokens", .ofNat n)).toList ++
    [("stream", .bool false)] ++
    (r.stop.map fun texts => ("stop", .ofStrings texts)).toList

/-! ## Answers -/

/-- A choice of an answer. -/
structure Choice where
  content : Option String
  finishReason : Option String
  deriving DecidableEq, Repr

/-- An answer. -/
structure Answer where
  id : String
  model : String
  choices : List Choice
  usage : Option Usage
  deriving DecidableEq, Repr

/-- Reads the content of a message; the role has to be a text, whichever it is. -/
def contentOfRaw? (levels : Nat) (x : Json.Raw) : Option (Option String) := do
  let f ← Json.Fields.of? levels ["role", "content"] x
  let _ ← f.required? "role" Json.asString?
  f.optional? "content" Json.asString?

/-- Reads a choice. -/
def Choice.ofRaw? (levels : Nat) (x : Json.Raw) : Option Choice := do
  let f ← Json.Fields.of? levels ["message", "finish_reason"] x
  let content ← f.required? "message" (contentOfRaw? (levels - 1))
  let finishReason ← f.optional? "finish_reason" Json.asString?
  return ⟨content, finishReason⟩

/-- Reads the numbers of tokens. -/
def usageOfRaw? (levels : Nat) (x : Json.Raw) : Option Usage := do
  let f ← Json.Fields.of? levels ["prompt_tokens", "completion_tokens", "total_tokens"] x
  let prompt ← f.required? "prompt_tokens" Json.asWord?
  let completion ← f.required? "completion_tokens" Json.asWord?
  let total ← f.required? "total_tokens" Json.asWord?
  return ⟨.ofNat prompt, .ofNat completion, .ofNat total⟩

/-- Reads an answer. -/
def Answer.ofRaw? (levels : Nat) (x : Json.Raw) : Option Answer := do
  let f ← Json.Fields.of? levels ["id", "model", "choices", "usage"] x
  let id ← f.withDefault? "id" "" Json.asString?
  let model ← f.withDefault? "model" "" Json.asString?
  let choices ← f.required? "choices" (Json.asList? (levels - 1) Choice.ofRaw?)
  let usage ← f.optional? "usage" (usageOfRaw? (levels - 1))
  return ⟨id, model, choices, usage⟩

/-- Why the completion ended. -/
def finishReason : Option String → FinishReason
  | some "stop" => .stop
  | some "length" => .length
  | some "content_filter" => .contentFilter
  | _ => .unknown

/-- The response that an answer stands for. -/
def Answer.toResponse (a : Answer) : Except Failure Response :=
  match a.choices with
  | [] => .error (.other "No choices in response")
  | choice :: _ =>
    .ok {
      id := a.id
      model := a.model
      content := choice.content
      finishReason := finishReason choice.finishReason
      usage := a.usage.getD {} }

end SkillPlan.Completion.Chat

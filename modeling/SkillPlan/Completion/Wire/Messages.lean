import SkillPlan.Completion.Request

/-!
# The messages format

How a request is written for services that speak the messages format, and how their answers are
read. What the system says stands apart from the conversation, and only the last of it counts. An
answer lists blocks, of which the texts count.
-/

namespace SkillPlan.Completion.Messages

/-! ## Requests -/

/-- The content of the last message of the system. -/
def systemText (ms : List Message) : Option String :=
  ((ms.filter (·.role = .system)).getLast?).bind (·.content)

/-- The messages of the conversation. -/
def conversation (ms : List Message) : List Message := ms.filter (·.role ≠ .system)

/-- The name of a role in a conversation. -/
def roleName : Role → String
  | .assistant => "assistant"
  | _ => "user"

/-- A message of the conversation. -/
def messageToJson (m : Message) : Json :=
  .obj [("role", .str (roleName m.role)), ("content", .str (m.content.getD ""))]

/-- How many tokens a completion may have when the request does not say. -/
def defaultMaxTokens : Nat := 4096

/-- A request, with the model that serves it. -/
def requestToJson (model : String) (r : Request) : Json :=
  .obj <| [("model", .str model),
      ("messages", .arr ((conversation r.messages).map messageToJson))] ++
    ((systemText r.messages).map fun text => ("system", .str text)).toList ++
    [("max_tokens", .ofNat (r.maxTokens.getD defaultMaxTokens))] ++
    (r.temperature.map fun t => ("temperature", singleToJson t)).toList ++
    (r.stop.map fun texts => ("stop_sequences", .ofStrings texts)).toList

/-! ## Answers -/

/-- A block of an answer. -/
inductive Block where
  | text (s : String)
  | other
  deriving DecidableEq, Repr

/-- An answer. -/
structure Answer where
  id : String
  model : String
  blocks : List Block
  stopReason : Option String
  inputTokens : UInt64
  outputTokens : UInt64
  deriving DecidableEq, Repr

/-- Takes the type out of the fields of a block; the other fields are read as values. -/
def splitType? (levels : Nat) : List (List Char × Json.Raw) →
    Option (Option String × List (String × Json))
  | [] => some (none, [])
  | (key, x) :: rest => do
    let k ← Json.text? key
    if k = "type" then
      let type ← Json.asString? x
      let (other, fields) ← splitType? levels rest
      if other.isSome then none else return (some type, fields)
    else
      let v ← Json.ofRaw? levels x
      let (type, fields) ← splitType? levels rest
      return (type, (k, v) :: fields)

/-- The text among the other fields of a block, which must not come twice. -/
def textAmong? (fields : List (String × Json)) : Option String :=
  match fields.filter (·.1 = "text") with
  | [(_, .str s)] => some s
  | _ => none

/-- Reads a block: an object with a type, or an array that begins with one. Only the fields of a
    text matter, and nothing follows the type of another block in an array. -/
def Block.ofRaw? (levels : Nat) (x : Json.Raw) : Option Block := do
  match x with
  | .obj fields =>
    if levels = 0 then none
    else
      let (type, fields) ← splitType? (levels - 1) fields
      if (← type) = "text" then return .text (← textAmong? fields) else return .other
  | .arr (type :: items) =>
    if levels = 0 then none
    else
      let type ← Json.asString? type
      let items ← Json.itemsOfRaw? (levels - 1) items
      if type = "text" then
        match items with
        | [.str s] => return .text s
        | _ => none
      else if items.isEmpty then return .other
      else none
  | _ => none

/-- Reads the numbers of tokens. -/
def tokensOfRaw? (levels : Nat) (x : Json.Raw) : Option (UInt64 × UInt64) := do
  let f ← Json.Fields.of? levels ["input_tokens", "output_tokens"] x
  let input ← f.required? "input_tokens" Json.asWord?
  let output ← f.required? "output_tokens" Json.asWord?
  return (.ofNat input, .ofNat output)

/-- Reads an answer. -/
def Answer.ofRaw? (levels : Nat) (x : Json.Raw) : Option Answer := do
  let f ← Json.Fields.of? levels ["id", "model", "content", "stop_reason", "usage"] x
  let id ← f.required? "id" Json.asString?
  let model ← f.required? "model" Json.asString?
  let blocks ← f.required? "content" (Json.asList? (levels - 1) Block.ofRaw?)
  let stopReason ← f.optional? "stop_reason" Json.asString?
  let (input, output) ← f.required? "usage" (tokensOfRaw? (levels - 1))
  return ⟨id, model, blocks, stopReason, input, output⟩

/-- The texts of the blocks, one after the other. -/
def textOfBlocks (bs : List Block) : String :=
  String.join <| bs.filterMap fun
    | .text s => some s
    | .other => none

/-- Why the completion ended. -/
def finishReason : Option String → FinishReason
  | some "end_turn" | some "stop_sequence" => .stop
  | some "max_tokens" => .length
  | _ => .unknown

/-- What a sum that does not fit into a word breaks the program off with. -/
def overflowMessage : String := "attempt to add with overflow"

/-- All tokens together. A sum that does not fit into a word breaks the program off. -/
def Answer.totalTokens (a : Answer) : Except Failure UInt64 :=
  let total := a.inputTokens.toNat + a.outputTokens.toNat
  if total < Json.wordBound then .ok (.ofNat total) else .error (.panicked overflowMessage)

/-- The response that an answer stands for. -/
def Answer.toResponse (a : Answer) : Except Failure Response := do
  let text := textOfBlocks a.blocks
  let total ← a.totalTokens
  return {
    id := a.id
    model := a.model
    content := if text = "" then none else some text
    finishReason := finishReason a.stopReason
    usage := ⟨a.inputTokens, a.outputTokens, total⟩ }

end SkillPlan.Completion.Messages

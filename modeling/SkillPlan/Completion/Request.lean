import SkillPlan.Completion.Failure
import SkillPlan.Json.Decode

/-!
# Requests for completions

What is asked of a completion backend and what it answers. A prompt with settings is the common
case: a request with one message from the user.
-/

namespace SkillPlan.Completion

open Number (Single)

/-! ## Messages -/

/-- Who speaks. -/
inductive Role where
  | system
  | user
  | assistant
  deriving DecidableEq, Repr

/-- The name of a role. -/
def Role.name : Role → String
  | system => "system"
  | user => "user"
  | assistant => "assistant"

/-- The role with a name. -/
def Role.ofName? (s : String) : Option Role :=
  if s = "system" then some .system
  else if s = "user" then some .user
  else if s = "assistant" then some .assistant
  else none

/-- A message of a conversation. -/
structure Message where
  role : Role
  content : Option String
  deriving DecidableEq, Repr

/-- A request for a completion. -/
structure Request where
  messages : List Message
  model : Option String := none
  temperature : Option Single := none
  maxTokens : Option Nat := none
  stop : Option (List String) := none
  deriving DecidableEq, Repr

/-- The request with these stop sequences; none at all is the same as not asking for any. -/
def Request.withStop (r : Request) (stop : List String) : Request :=
  { r with stop := if stop.isEmpty then none else some stop }

/-! ## Settings -/

/-- How a prompt is to be completed. -/
structure Settings where
  maxTokens : Nat := 256
  temperature : Single := .zero
  stopSequences : List String := []
  deriving DecidableEq, Repr

/-- The request for the completion of a prompt. -/
def Settings.request (s : Settings) (prompt : String) : Request :=
  Request.withStop
    { messages := [⟨.user, some prompt⟩]
      temperature := some s.temperature
      maxTokens := some s.maxTokens }
    s.stopSequences

/-! ## Answers -/

/-- Why a completion ended. -/
inductive FinishReason where
  | stop
  | length
  | contentFilter
  | unknown
  deriving DecidableEq, Repr

/-- How many tokens a completion took, each number a word of 64 bits. -/
structure Usage where
  prompt : UInt64 := 0
  completion : UInt64 := 0
  total : UInt64 := 0
  deriving DecidableEq, Repr

/-- The answer of a backend. -/
structure Response where
  id : String
  model : String
  content : Option String
  finishReason : FinishReason
  usage : Usage
  deriving DecidableEq, Repr

/-- A completion backend that acts on a world. -/
structure Backend (W : Type) where
  name : String
  defaultModel : String
  complete : Request → W → Except Failure Response × W

/-- The text that completes a prompt. -/
def Backend.completeText {W : Type} (b : Backend W) (prompt : String) (s : Settings) (w : W) :
    Except Failure String × W :=
  match b.complete (s.request prompt) w with
  | (.error f, w) => (.error f, w)
  | (.ok r, w) =>
    match r.content with
    | some text => (.ok text, w)
    | none => (.error (.other "No content in response"), w)

/-! ## JSON -/

/-- A number of single precision in JSON; there is no text for one that is out of range. -/
def singleToJson : Single → Json
  | .finite d => .num (.single d)
  | .infinite _ => .null

/-- Settings as a record. -/
def Settings.toJson (s : Settings) : Json :=
  .obj [("max_tokens", .ofNat s.maxTokens), ("temperature", singleToJson s.temperature),
    ("stop_sequences", .ofStrings s.stopSequences)]

/-- Reads settings; only the stop sequences may be left out. -/
def Settings.ofRaw? (levels : Nat) (x : Json.Raw) : Option Settings := do
  let f ← Json.Fields.of? levels ["max_tokens", "temperature", "stop_sequences"] x
  let maxTokens ← f.required? "max_tokens" Json.asWord?
  let temperature ← f.required? "temperature" Json.asSingle?
  let stop ← f.withDefault? "stop_sequences" []
    (Json.asList? (levels - 1) fun _ => Json.asString?)
  return ⟨maxTokens, temperature, stop⟩

/-- A message as a record. -/
def Message.toJson (m : Message) : Json :=
  .obj [("role", .str m.role.name), ("content", (m.content.map Json.str).getD .null)]

/-- Reads a role: its name, or an object with the name as its only key and `null` under it. -/
def Role.ofRaw? (levels : Nat) : Json.Raw → Option Role
  | .str body => (Json.text? body).bind Role.ofName?
  | .obj [(key, .null)] =>
    if levels = 0 then none else (Json.text? key).bind Role.ofName?
  | _ => none

/-- Reads a message. -/
def Message.ofRaw? (levels : Nat) (x : Json.Raw) : Option Message := do
  let f ← Json.Fields.of? levels ["role", "content"] x
  let role ← f.required? "role" (Role.ofRaw? (levels - 1))
  let content ← f.optional? "content" Json.asString?
  return ⟨role, content⟩

end SkillPlan.Completion

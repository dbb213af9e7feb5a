import SkillPlan.Completion.Exchange
import SkillPlan.Completion.Wire.Chat
import SkillPlan.Completion.Wire.Messages
import SkillPlan.Error
import SkillPlan.Filing
import SkillPlan.Text.Fold

/-!
# Configured backends

Which service completes prompts, and how it is reached. A configuration is built in code or read
from an environment.
-/

namespace SkillPlan.Completion

/-! ## Services -/

/-- A sort of service. -/
inductive Service where
  | openai
  | anthropic
  | bridge
  | custom
  deriving DecidableEq, Repr

namespace Service

/-- The name of a service. -/
def name : Service → String
  | openai => "openai"
  | anthropic => "anthropic"
  | bridge => "bridge"
  | custom => "local"

/-- Every service. -/
def all : List Service := [openai, anthropic, bridge, custom]

/-- The service of a name; white space around it and the case of its letters do not matter. -/
def ofName (s : String) : Except Error Service :=
  let wanted := Text.fold (Text.trim s)
  match all.find? (·.name = wanted) with
  | some service => .ok service
  | none =>
    .error <| (Error.new .configInvalid ("unknown provider '" ++ wanted ++ "'")).note
      "expected" "openai|anthropic|bridge|local"

/-- The address of the service when none is given. -/
def defaultUrl : Service → String
  | anthropic => "https://api.anthropic.com/v1"
  | _ => "https://api.openai.com/v1"

/-- The model of the service when none is given. -/
def defaultModel : Service → String
  | anthropic => "claude-sonnet-4-20250514"
  | _ => "gpt-4o"

end Service

/-! ## Configurations -/

/-- How a service is reached. -/
structure Config where
  service : Service
  apiKey : Option String := none
  baseUrl : Option String := none
  model : Option String := none
  headers : List Http.Field := []
  /-- How long an answer may take, in seconds. -/
  timeout : Option Nat := none
  deriving DecidableEq, Repr

namespace Config

/-- The chat service with a key. -/
def openai (apiKey : String) : Config where
  service := .openai
  apiKey := some apiKey
  baseUrl := some "https://api.openai.com/v1"
  model := some "gpt-4o"
  timeout := some 120

/-- The messages service with a key. -/
def anthropic (apiKey : String) : Config where
  service := .anthropic
  apiKey := some apiKey
  baseUrl := some "https://api.anthropic.com/v1"
  model := some "claude-sonnet-4-20250514"
  headers := [("anthropic-version", "2023-06-01")]
  timeout := some 120

/-- A bridge on this machine that speaks the chat format. -/
def bridge : Config where
  service := .bridge
  baseUrl := some "http://localhost:5168/v1"
  model := some "claude-opus-4"
  timeout := some 300

/-- A service at an address that speaks the chat format. -/
def custom (baseUrl model : String) : Config where
  service := .custom
  baseUrl := some baseUrl
  model := some model
  timeout := some 300

/-- The configuration with a header, in the place of one with exactly the same name. -/
def withHeader (c : Config) (name value : String) : Config :=
  { c with headers := Filing.put name value c.headers }

/-! ## Environments -/

/-- The variable that names the service. -/
def serviceVariable : String := "SKILLCRAFT_PROVIDER"

/-- The variable that names the model. -/
def modelVariable : String := "SKILLCRAFT_MODEL"

/-- The variable that holds the address. -/
def urlVariable : String := "SKILLCRAFT_BASE_URL"

/-- The variable that holds the key of the chat service. -/
def openaiVariable : String := "OPENAI_API_KEY"

/-- The variable that holds the key of the messages service. -/
def anthropicVariable : String := "ANTHROPIC_API_KEY"

/-- The error of a variable that a service needs. -/
def missing (service : Service) (key : String) : Error :=
  (Error.new .configInvalid ("provider '" ++ service.name ++ "' requires " ++ key)).note
    "variable" key

/-- The service that an environment asks for: the one it names, else one that it has a key for, else
    the bridge. -/
def serviceOf (get : String → Option String) : Except Error Service :=
  match get serviceVariable with
  | some name => Service.ofName name
  | none =>
    if (get openaiVariable).isSome then .ok .openai
    else if (get anthropicVariable).isSome then .ok .anthropic
    else .ok .bridge

/-- The configuration that an environment asks for; values of white space alone do not count. -/
def ofEnvironment (lookup : String → Option String) : Except Error Config := do
  let get (key : String) : Option String := (lookup key).filter (!Text.isAllBlank ·)
  let service ← serviceOf get
  let need (key : String) : Except Error String :=
    match get key with
    | some value => .ok value
    | none => .error (missing service key)
  let c ← match service with
    | .openai => pure (openai (← need openaiVariable))
    | .anthropic => pure (anthropic (← need anthropicVariable))
    | .bridge => pure bridge
    | .custom => do
      let url ← need urlVariable
      let model ← need modelVariable
      pure (custom url model)
  return { c with
    model := (get modelVariable).or c.model
    baseUrl := (get urlVariable).or c.baseUrl }

/-! ## Backends -/

variable {W : Type} [Holds Http.Network W]

/-- The model that serves requests that name none. -/
def defaultModel (c : Config) : String := c.model.getD c.service.defaultModel

/-- The address of a path below the base address. -/
def address (c : Config) (path : String) : String :=
  let base := (c.baseUrl.getD c.service.defaultUrl).toList.reverse.dropWhile (· == '/')
  String.ofList base.reverse ++ path

/-- The field that says what the body is. -/
def jsonField : Http.Field := ("content-type", "application/json")

/-- The fields of a request in the chat format. -/
def chatFields (c : Config) : List Http.Field :=
  let key := (c.apiKey.filter (· ≠ "")).map fun key => ("Authorization", "Bearer " ++ key)
  jsonField :: key.toList ++ c.headers

/-- Completes a request at a service that speaks the chat format. -/
def completeChat (c : Config) (r : Request) (w : W) : Except Failure Response × W :=
  let body := Chat.requestToJson (r.model.getD c.defaultModel) r
  match exchange (c.address "/chat/completions") c.chatFields body Chat.Answer.ofRaw? w with
  | (.ok answer, w) => (answer.toResponse, w)
  | (.error f, w) => (.error f, w)

/-- Completes a request at a service that speaks the messages format, which needs a key. -/
def completeMessages (c : Config) (r : Request) (w : W) : Except Failure Response × W :=
  match c.apiKey with
  | none => (.error .authenticationFailed, w)
  | some key =>
    let body := Messages.requestToJson (r.model.getD c.defaultModel) r
    let fields := ("x-api-key", key) :: jsonField :: c.headers
    match exchange (c.address "/messages") fields body Messages.Answer.ofRaw? w with
    | (.ok answer, w) => (answer.toResponse, w)
    | (.error f, w) => (.error f, w)

/-- The backend of a configuration. -/
def backend (c : Config) : Backend W where
  name := c.service.name
  defaultModel := c.defaultModel
  complete := if c.service = .anthropic then c.completeMessages else c.completeChat

end Config

end SkillPlan.Completion

import SkillPlan.Completion.Failure

/-!
# Errors

An error has a kind, a message, advice on whether a retry may help, the operation that met it, notes
in the order in which they were added, and possibly the cause behind it.
-/

namespace SkillPlan

/-! ## Kinds and advice -/

/-- What went wrong. -/
inductive ErrorKind where
  | unexpected
  | unsupported
  | configInvalid
  | invalidArgument
  | invalidGoal
  | invalidPlan
  | functionNotFound
  | functionInvokeFailed
  | functionNotBound
  | cancelled
  | storageNotFound
  | storageFailed
  | serializationFailed
  | inferenceFailed
  | providerUnavailable
  | rateLimited
  | fileNotFound
  | permissionDenied
  | ioFailed
  | networkFailed
  deriving DecidableEq, Repr

namespace ErrorKind

/-- Every kind. -/
def all : List ErrorKind :=
  [unexpected, unsupported, configInvalid, invalidArgument, invalidGoal, invalidPlan,
    functionNotFound, functionInvokeFailed, functionNotBound, cancelled, storageNotFound,
    storageFailed, serializationFailed, inferenceFailed, providerUnavailable, rateLimited,
    fileNotFound, permissionDenied, ioFailed, networkFailed]

/-- The name of a kind. -/
def name : ErrorKind → String
  | unexpected => "Unexpected"
  | unsupported => "Unsupported"
  | configInvalid => "ConfigInvalid"
  | invalidArgument => "InvalidArgument"
  | invalidGoal => "InvalidGoal"
  | invalidPlan => "InvalidPlan"
  | functionNotFound => "FunctionNotFound"
  | functionInvokeFailed => "FunctionInvokeFailed"
  | functionNotBound => "FunctionNotBound"
  | cancelled => "Cancelled"
  | storageNotFound => "StorageNotFound"
  | storageFailed => "StorageFailed"
  | serializationFailed => "SerializationFailed"
  | inferenceFailed => "InferenceFailed"
  | providerUnavailable => "ProviderUnavailable"
  | rateLimited => "RateLimited"
  | fileNotFound => "FileNotFound"
  | permissionDenied => "PermissionDenied"
  | ioFailed => "IoFailed"
  | networkFailed => "NetworkFailed"

/-- Whether trying again may help, unless an error says otherwise. -/
def isRetryable : ErrorKind → Bool
  | inferenceFailed | networkFailed | rateLimited | providerUnavailable => true
  | _ => false

end ErrorKind

/-- Whether trying again may help: no, perhaps, or not any more. -/
inductive ErrorStatus where
  | permanent
  | temporary
  | persistent
  deriving DecidableEq, Repr

namespace ErrorStatus

/-- Every status. -/
def all : List ErrorStatus := [permanent, temporary, persistent]

/-- The name of a status. -/
def name : ErrorStatus → String
  | permanent => "permanent"
  | temporary => "temporary"
  | persistent => "persistent"

/-- Whether trying again may help. -/
def isRetryable : ErrorStatus → Bool
  | temporary => true
  | _ => false

/-- The status after retries have failed. -/
def persist : ErrorStatus → ErrorStatus
  | temporary => persistent
  | other => other

end ErrorStatus

/-! ## Errors -/

/-- What stands behind an error: another error, a failed backend, or a text from outside. -/
inductive Cause (E : Type) where
  | error (e : E)
  | completion (f : Completion.Failure)
  | text (s : String)

/-- An error. -/
structure Error where
  kind : ErrorKind
  message : String
  status : ErrorStatus
  operation : String
  context : List (String × String)
  source : Option (Cause Error)

namespace Error

/-- An error with the advice that its kind suggests, and nothing else known about it. -/
def new (kind : ErrorKind) (message : String) : Error where
  kind := kind
  message := message
  status := if kind.isRetryable then .temporary else .permanent
  operation := ""
  context := []
  source := none

instance : Inhabited Error := ⟨new .unexpected ""⟩

/-- Adds a note. -/
def note (e : Error) (key value : String) : Error :=
  { e with context := e.context ++ [(key, value)] }

/-- Names the operation. One that was named before becomes a note, so the chain of calls stays. -/
def during (e : Error) (operation : String) : Error :=
  { (if e.operation = "" then e else e.note "called" e.operation) with operation := operation }

/-- Sets the advice. -/
def withStatus (e : Error) (status : ErrorStatus) : Error := { e with status := status }

/-- The error after retries have failed. -/
def persist (e : Error) : Error := { e with status := e.status.persist }

/-- Attaches the cause. -/
def because (e : Error) (cause : Cause Error) : Error := { e with source := some cause }

/-- The first note under a key. -/
def noteValue? (e : Error) (key : String) : Option String := e.context.lookup key

/-- Whether trying again may help. -/
def isRetryable (e : Error) : Bool := e.status.isRetryable

/-- The notes on one line. -/
def contextLine (notes : List (String × String)) : String :=
  ", ".intercalate (notes.map fun n => n.1 ++ ": " ++ n.2)

/-- The error on one line. -/
def summary (e : Error) : String :=
  e.kind.name ++ " (" ++ e.status.name ++ ") at " ++ e.operation ++
    (if e.context.isEmpty then "" else ", context \x7b " ++ contextLine e.context ++ " \x7d") ++
    (if e.message = "" then "" else " => " ++ e.message)

/-- The one-line texts of an error and of the causes behind it. -/
def chain : Error → List String
  | ⟨kind, message, status, operation, context, source⟩ =>
    summary ⟨kind, message, status, operation, context, none⟩ ::
      match source with
      | none => []
      | some (.error e) => e.chain
      | some (.completion f) => [f.message]
      | some (.text s) => [s]

/-- What the program broke off with, if that is what stands behind the error. -/
def panic? : Error → Option String
  | ⟨_, _, _, _, _, source⟩ =>
    match source with
    | some (.error e) => e.panic?
    | some (.completion (.panicked message)) => some message
    | _ => none

/-- The one-line texts of a cause and of the causes behind it. -/
def causeChain : Cause Error → List String
  | .error e => e.chain
  | .completion f => [f.message]
  | .text s => [s]

/-- The one-line text of a cause. -/
def causeSummary : Cause Error → String
  | .error e => e.summary
  | .completion f => f.message
  | .text s => s

/-- A text set in by the given first and further margins. -/
def setIn (first further text : String) : String :=
  first ++ ("\n" ++ further).intercalate (text.splitOn "\n")

/-- The causes behind a cause, set in, and numbered when there are several. -/
def causeLines : List String → String
  | [] => ""
  | [one] => "\n\nCaused by:\n" ++ setIn "    " "    " one
  | several =>
    "\n\nCaused by:" ++ String.join (several.zipIdx.map fun (text, i) =>
      let number := toString i
      let pad := String.ofList (List.replicate (5 - number.length) ' ')
      "\n" ++ setIn (pad ++ number ++ ": ") "       " text)

/-- The error on several lines, with the cause behind it. -/
def describe (e : Error) : String :=
  e.kind.name ++ " (" ++ e.status.name ++ ") at " ++ e.operation ++ "\n" ++
    (if e.message = "" then "" else "\n    Message: " ++ e.message ++ "\n") ++
    (if e.context.isEmpty then ""
      else "\n    Context:\n" ++
        String.join (e.context.map fun n => "        " ++ n.1 ++ ": " ++ n.2 ++ "\n")) ++
    match e.source with
    | none => ""
    | some cause =>
      "\n    Source: " ++ causeSummary cause ++ causeLines ((causeChain cause).drop 1) ++ "\n"

/-! ## Errors of plans and functions -/

/-- No function has this collection and name. -/
def functionNotFound (collection : Option String) (name : String) : Error :=
  match collection with
  | some c =>
    ((new .functionNotFound ("function '" ++ c ++ "." ++ name ++ "' not found")).note
      "function" name).note "collection" c
  | none => (new .functionNotFound ("function '" ++ name ++ "' not found")).note "function" name

/-- A step has nothing to run. -/
def functionNotBound (step : String) : Error :=
  (new .functionNotBound ("step '" ++ step ++ "' has no function and no sub-steps")).note
    "step" step

/-- The step at `index` failed; the failure itself is kept as the cause. -/
def stepFailed (step : String) (index : Nat) (cause : Error) : Error :=
  ((((new .functionInvokeFailed
    ("error occurred while running plan step '" ++ step ++ "': " ++ cause.message)).note
      "step" step).note "step_index" (toString index)).note
        "cause_kind" cause.kind.name).because (.error cause)

/-- The run was cancelled before the step at `index`. -/
def cancelledBefore (index : Nat) : Error :=
  (new .cancelled ("execution cancelled before step " ++ toString index)).note
    "step_index" (toString index)

/-- No plan is stored under this name. -/
def storageNotFound (key : String) : Error :=
  (new .storageNotFound ("stored plan '" ++ key ++ "' not found")).note "key" key

/-- A function was called without a variable that it needs. -/
def missingVariable (function variableName : String) : Error :=
  ((new .invalidArgument
    ("'" ++ function ++ "' requires variable '" ++ variableName ++ "'")).note
      "function" function).note "variable" variableName

/-- A backend failed. Only the failure itself says how long to wait before a retry. A panic is not
    of any kind that is expected. -/
def ofCompletion (f : Completion.Failure) : Error :=
  let kind : ErrorKind :=
    match f with
    | .network _ => .networkFailed
    | .rateLimited _ => .rateLimited
    | .authenticationFailed => .configInvalid
    | .api status _ => if 500 ≤ status then .providerUnavailable else .inferenceFailed
    | .panicked _ => .unexpected
    | _ => .inferenceFailed
  let e := (new kind f.message).during "provider::complete"
  let e :=
    match f with
    | .rateLimited (some seconds) => e.note "retry_after" (toString seconds)
    | _ => e
  e.because (.completion f)

end Error

end SkillPlan

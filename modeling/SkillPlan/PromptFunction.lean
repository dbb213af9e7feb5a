import SkillPlan.Function
import SkillPlan.Template

/-!
# Prompt functions

A function whose body is a prompt. The placeholders of the prompt, other than the main value, are
its parameters. A call renders the prompt against the variables and asks for its completion.
-/

namespace SkillPlan

/-- A function whose body is a prompt, with a completion backend of its own if it has one. -/
structure PromptFunction (W : Type) where
  view : FunctionView
  template : String
  settings : Completion.Settings := {}
  backend : Option (Completion.Backend W) := none

namespace PromptFunction

variable {W : Type}

/-- The function of a prompt. -/
def ofTemplate (collection name template : String) : PromptFunction W where
  view := {
    collection := collection
    name := name
    parameters := ((Template.promptNames template).filter (!Bag.isInput ·)).map
      fun n => { name := n }
    isSemantic := true }
  template := template

/-- Describes the first parameter of this name, or adds one at the end. -/
def describeFirst (name description : String) : List ParameterView → List ParameterView
  | [] => [{ name := name, description := description }]
  | p :: rest =>
    if Text.sameName p.name name then { p with description := description } :: rest
    else p :: describeFirst name description rest

/-- The function with a description for a parameter, which is added if it is new. -/
def withParameter (f : PromptFunction W) (name description : String) : PromptFunction W :=
  { f with view := { f.view with
      parameters := describeFirst name description f.view.parameters } }

/-- The function with a description of what it does. -/
def withDescription (f : PromptFunction W) (description : String) : PromptFunction W :=
  { f with view := { f.view with description := description } }

/-- The prompt that a call sends. -/
def prompt (f : PromptFunction W) (b : Bag) : String :=
  Template.render f.template (f.view.applyDefaults b)

/-- The error of a call that no backend can serve. -/
def unserved (f : PromptFunction W) : Error :=
  (((Error.new .providerUnavailable "no completion backend configured").during
    "semantic::invoke").note "function" f.view.qualifiedName).withStatus .permanent

/-- The error of a call whose completion failed. -/
def failed (f : PromptFunction W) (failure : Completion.Failure) : Error :=
  ((Error.ofCompletion failure).during "semantic::invoke").note "function" f.view.qualifiedName

/-- The function as others call it. Its own backend goes before the one of the run. -/
def toFunction (f : PromptFunction W) : SkillFunction W where
  view := f.view
  invoke s b w :=
    match f.backend.or s.completion with
    | none => (.error f.unserved, w)
    | some backend =>
      match backend.completeText (f.prompt b) f.settings w with
      | (.ok text, w) => (.ok text, w)
      | (.error failure, w) => (.error (f.failed failure), w)

end PromptFunction

end SkillPlan

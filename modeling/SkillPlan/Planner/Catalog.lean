import SkillPlan.Function

/-!
# The catalog

What a planner offers to a model: which functions it may choose from, and the text that lists them.
-/

namespace SkillPlan.Planner

open Number (Single)

/-! ## Options -/

/-- The mark that a model writes after its answer. -/
def defaultStop : String := "#END-OF-PLAN"

/-- The collection of planners themselves, which is never offered. -/
def ownCollection : String := "this"

/-- What a planner may offer and how it asks. -/
structure Options where
  maxTokens : Nat := 1024
  temperature : Single := .zero
  stop : String := defaultStop
  excludedCollections : List String := [ownCollection]
  excludedFunctions : List String := []
  /-- A template in the place of the usual one. -/
  prompt : Option String := none

namespace Options

/-- Whether a collection is kept back. -/
def excludesCollection (o : Options) (collection : String) : Bool :=
  Text.sameName collection ownCollection || o.excludedCollections.any (Text.sameName · collection)

/-- Whether functions of a name are kept back. -/
def excludesFunction (o : Options) (name : String) : Bool :=
  o.excludedFunctions.any (Text.sameName · name)

/-- How the prompt of a planner is completed. -/
def settings (o : Options) : Completion.Settings where
  maxTokens := o.maxTokens
  temperature := o.temperature
  stopSequences := [o.stop]

end Options

/-! ## Entries -/

/-- The text with a period at its end. -/
def withPeriod (text : String) : String :=
  if text.toList.getLast? = some '.' then text else text ++ "."

/-- The line of a parameter; one without a description is described by its name. -/
def parameterLine (p : ParameterView) : String :=
  "Parameter \"" ++ p.name ++ "\": " ++
    withPeriod (if p.description = "" then p.name else p.description) ++ "\n"

/-- The entry of a function. -/
def entry (v : FunctionView) : String :=
  "// " ++ withPeriod v.description ++ "\n" ++ v.qualifiedName ++ "\n" ++
    (if v.parameters.isEmpty then "No parameters.\n"
      else String.join (v.parameters.map parameterLine))

/-! ## Catalogs -/

/-- Whether two views are of the same collection and name. -/
def sameFunction (v w : FunctionView) : Bool :=
  Text.sameName v.collection w.collection && Text.sameName v.name w.name

/-- The views without those of a function that came earlier. -/
def firstOfEach (vs : List FunctionView) : List FunctionView :=
  vs.foldl (fun seen v => if seen.any (sameFunction · v) then seen else seen ++ [v]) []

/-- The views of some groups that may be offered. -/
def offeredAmong (o : Options) (gs : FunctionGroups) : List FunctionView :=
  (gs.filter fun g => !o.excludesCollection g.1).flatMap fun g =>
    g.2.filter fun v => !o.excludesFunction v.name

/-- The views that are offered: native functions first, each function once. -/
def offered (o : Options) (l : FunctionListing) : List FunctionView :=
  firstOfEach (offeredAmong o l.native ++ offeredAmong o l.semantic)

/-- The text without line breaks at its end. -/
def withoutFinalBreaks (text : String) : String :=
  String.ofList (text.toList.reverse.dropWhile (· == '\n')).reverse

/-- The text that lists the functions that are offered. -/
def catalog (o : Options) (l : FunctionListing) : String :=
  withoutFinalBreaks (String.join ((offered o l).map entry))

end SkillPlan.Planner

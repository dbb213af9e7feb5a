import SkillPlan.Cli.Arguments
import SkillPlan.Completion.Config
import SkillPlan.Plan.Run
import SkillPlan.Planner.Choice
import SkillPlan.Skills.Core
import SkillPlan.Store

/-!
# Commands

What each command does to the world, and what it writes to its two outputs.
-/

namespace SkillPlan.Cli

/-! ## Reports -/

/-- What a command leaves behind. -/
structure Report (W : Type) where
  output : String := ""
  messages : String := ""
  result : Except Error Unit
  world : W

/-- What a command has to work with besides the world. -/
structure Setup (W : Type) where
  registry : Registry W
  backend : Except Error (Completion.Backend W)
  storeDirectory : String

/-- A line of an output. -/
def line (text : String) : String := text ++ "\n"

/-- The start of a text, with a mark if something was left out. -/
def shortened (text : String) (length : Nat) : String :=
  if length < text.length then String.ofList (text.toList.take length) ++ "…" else text

variable {W : Type}

/-- The report of a command that failed. -/
def Report.failed (e : Error) (w : W) : Report W where
  result := .error e
  world := w

/-- The line that gives the reason for a plan. -/
def rationaleLine (p : Plan W) : String :=
  match p.node.rationale with
  | some text => line ("Rationale: " ++ text)
  | none => ""

/-- The state of a plan after a run. -/
def stateSummary (p : Plan W) : String :=
  if p.node.state.isEmpty then ""
  else
    "\n=== STATE ===\n" ++
      String.join (p.node.state.entries.map fun e =>
        line ("  " ++ e.1 ++ ": " ++ shortened e.2 80)) ++
      line ("=== " ++ toString p.node.cursor ++ "/" ++ toString p.steps.length ++ " STEPS DONE ===")

/-- The report of a run. -/
def ofRun (messages : String) (r : Run W) : Report W :=
  match r.result with
  | .error e => { messages := messages, result := .error e, world := r.world }
  | .ok () =>
    { output := line r.caller.input
      messages := messages ++ stateSummary r.plan
      result := .ok ()
      world := r.world }

/-! ## Listings -/

/-- Lists the functions that a planner can choose from. -/
def listFunctions (s : Setup W) (json : Bool) (w : W) : Report W where
  output := line <|
    if json then Json.toWideText s.registry.listing.toJson
    else Planner.catalog {} s.registry.listing
  result := .ok ()
  world := w

variable [Holds FileTree W]

/-- The store of the plans. -/
def Setup.store (s : Setup W) : PlanStore FileTree := ⟨.directory s.storeDirectory, none⟩

/-- Creates the directory of the store. -/
def openStore (s : Setup W) (w : W) : Except Error Unit × W :=
  match Storage.Directory.create s.storeDirectory (Holds.get w : FileTree) with
  | (t, result) => (result, Holds.set t w)

/-- Lists the plans of the store. -/
def listPlans (s : Setup W) (w : W) : Report W :=
  match openStore s w with
  | (.error e, w) => .failed e w
  | (.ok (), w) =>
    match s.store.list (Holds.get w : FileTree) with
    | [] =>
      { output := line ("No saved plans in " ++ s.storeDirectory), result := .ok (), world := w }
    | names =>
      { output := line "Saved plans:" ++ String.join (names.map fun n => line ("  " ++ n))
        result := .ok ()
        world := w }

/-! ## Planning -/

/-- Saves a plan in the store. -/
def savePlan (s : Setup W) (name : String) (p : Plan W) (w : W) : Except Error Unit × W :=
  match openStore s w with
  | (.error e, w) => (.error e, w)
  | (.ok (), w) =>
    match s.store.save (Holds.get w : FileTree) name p with
    | .ok t => (.ok (), Holds.set t w)
    | .error e => (.error e, w)

/-- Asks for a plan and shows it; saves it if a name is given. -/
def planGoal (s : Setup W) (goal : String) (save : Option String) (w : W) : Report W :=
  match s.backend with
  | .error e => .failed e w
  | .ok backend =>
    match Planner.createPlan {} s.registry backend goal w with
    | (.error e, w) => .failed e w
    | (.ok p, w) =>
      let shown : Report W :=
        { output := line p.toWideText
          messages := rationaleLine p
          result := .ok ()
          world := w }
      match save with
      | none => shown
      | some name =>
        match savePlan s name p w with
        | (.error e, w) => { shown with result := .error e, world := w }
        | (.ok (), w) =>
          { shown with
            messages := shown.messages ++ line ("Saved plan '" ++ name ++ "'")
            world := w }

variable [Cancellable W]

/-- Asks for a plan and runs it. -/
def runGoal (s : Setup W) (goal : String) (w : W) : Report W :=
  match s.backend with
  | .error e => .failed e w
  | .ok backend =>
    match Planner.createPlan {} s.registry backend goal w with
    | (.error e, w) => .failed e w
    | (.ok p, w) =>
      if p.steps.isEmpty then
        { messages := line "No function matches this goal." ++ rationaleLine p
          result := .ok ()
          world := w }
      else
        ofRun "" (p.invoke { functions := s.registry.listing, completion := some backend } ∅ w)

/-! ## Running stored plans -/

/-- Reads the plan of a target: the record in a file of this name, else the plan of this name in the
    store. Says whether it was a file. -/
def loadTarget (s : Setup W) (target : String) (w : W) : Except Error (Bool × Plan W) × W :=
  if (Holds.get w : FileTree).isFile target then
    match (Holds.get w : FileTree).readText target with
    | .error f => (.error (.ofFile f), w)
    | .ok text => ((Plan.ofTextBound s.registry text).map (true, ·), w)
  else
    match openStore s w with
    | (.error e, w) => (.error e, w)
    | (.ok (), w) =>
      ((s.store.loadBound s.registry (Holds.get w : FileTree) target).map (false, ·), w)

/-- Writes a plan back to where it was read. -/
def writeTarget (s : Setup W) (target : String) (fromFile : Bool) (p : Plan W) (w : W) :
    Except Error Unit × W :=
  if fromFile then
    match (Holds.get w : FileTree).writeText target p.toWideText with
    | .ok t => (.ok (), Holds.set t w)
    | .error f => (.error (.ofFile f), w)
  else savePlan s target p w

/-- What is written about steps that no function was found for. -/
def unboundWarning (p : Plan W) : String :=
  match p.unboundSteps with
  | [] => ""
  | names => line ("Warning: unknown functions: " ++ ", ".intercalate names)

/-- Why there is nothing to run in a plan, if that is so. -/
def nothingToRun? (p : Plan W) : Option String :=
  if p.isLeaf then none
  else if p.steps.isEmpty then some "Plan has no steps."
  else if !p.hasNextStep then some "Plan already complete."
  else none

/-- The services of a run; without a backend only the functions that need one fail. -/
def Setup.services (s : Setup W) : Services W where
  functions := s.registry.listing
  completion := s.backend.toOption

/-- Runs one step of a plan and writes the plan back. -/
def execStep (s : Setup W) (target : String) (fromFile : Bool) (messages : String) (p : Plan W)
    (b : Bag) (w : W) : Report W :=
  let r := p.runNextStep b s.services b w
  match r.result with
  | .error e => { messages := messages, result := .error e, world := r.world }
  | .ok () =>
    let done := "Step " ++ toString r.plan.node.cursor ++ "/" ++ toString r.plan.steps.length ++
      " done: " ++ shortened r.plan.node.state.input 80
    let (result, w) := writeTarget s target fromFile r.plan r.world
    { messages := messages ++ line done, result := result, world := w }

/-- Runs a plan, one step of it or all that is left. -/
def execPlan (s : Setup W) (target : String) (step : Bool) (input : Option String) (w : W) :
    Report W :=
  match loadTarget s target w with
  | (.error e, w) => .failed e w
  | (.ok (fromFile, p), w) =>
    let warning := unboundWarning p
    match nothingToRun? p with
    | some reason => { messages := warning ++ line reason, result := .ok (), world := w }
    | none =>
      let b := match input with
        | some text => (∅ : Bag).withInput text
        | none => ∅
      if step then execStep s target fromFile warning p b w
      else ofRun warning (p.invoke s.services b w)

/-- Carries out a command. -/
def Command.execute (c : Command) (s : Setup W) (w : W) : Report W :=
  match c with
  | .plan goal save => planGoal s goal save w
  | .run goal => runGoal s goal w
  | .exec target step input => execPlan s target step input w
  | .functions json => listFunctions s json w
  | .plans => listPlans s w

end SkillPlan.Cli

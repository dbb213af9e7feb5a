import SkillPlan.Plan.Variables
import SkillPlan.Text.Blank
import SkillPlan.World

/-!
# Running plans

A step runs with variables of its own. When it succeeds, its result goes into the state of the plan
above and the cursor moves on; when it fails, state and cursor of the plan above stay as they are,
so the same step can be tried again. A run that was cancelled stops before the next step.
-/

namespace SkillPlan

variable {W : Type}

/-- What a run leaves behind. -/
structure Run (W : Type) where
  result : Except Error Unit
  plan : Plan W
  /-- The variables of the caller. -/
  caller : Bag
  world : W

/-- The run of a plan that has one more step in front. -/
def Run.behind (step : Plan W) (r : Run W) : Run W :=
  { r with plan := ⟨r.plan.node, step :: r.plan.steps⟩ }

/-- What an attempt to run one step leaves behind: the node above it and the step. -/
structure Attempt (W : Type) where
  result : Except Error Unit
  node : PlanNode W
  step : Plan W
  world : W

/-! ## One step -/

namespace PlanNode

/-- The node after a step has succeeded: the result, without white space at its ends, is the new
    main value of the state and stands under the output names of the step. -/
def commit (n : PlanNode W) (step : PlanNode W) (result : String) : PlanNode W :=
  let text := Text.trim result
  { n with
    state := (step.outputs.keys.filter (!Bag.isInput ·)).foldl (·.set · text)
      (n.state.withInput text)
    cursor := n.cursor + 1 }

/-- The error of a run that was cancelled before the next step. -/
def cancelled (n : PlanNode W) : Error := (Error.cancelledBefore n.cursor).note "plan" n.name

/-- The error of a step that has nothing to run. -/
def stepNotBound (n : PlanNode W) (step : PlanNode W) : Error :=
  ((Error.functionNotBound step.qualifiedName).during "plan::invoke_next_step").note
    "step_index" (toString n.cursor)

/-- Whether an error already says which step it belongs to. -/
def namesStep (e : Error) : Bool :=
  e.kind = .cancelled || e.kind = .functionNotBound || e.kind = .functionInvokeFailed

/-- The error of a step that failed. Only the innermost step is named. -/
def stepFailed (n : PlanNode W) (step : PlanNode W) (e : Error) : Error :=
  if namesStep e then e
  else (Error.stepFailed step.qualifiedName n.cursor e).during "plan::invoke_next_step"

variable [Cancellable W] [Elapsing W]

/-- Tries to run a step; `run` runs it with the variables that it is handed. -/
def attempt (n : PlanNode W) (step : Plan W) (b : Bag) (w : W) (run : Bag → W → Run W) :
    Attempt W :=
  let w := Elapsing.elapse w
  if Cancellable.isCancelled w then ⟨.error n.cancelled, n, step, w⟩
  else if step.isUnbound then ⟨.error (n.stepNotBound step.node), n, step, w⟩
  else
    let r := run (n.stepVariables b step) w
    match r.result with
    | .error e => ⟨.error (n.stepFailed step.node e), n, r.plan, r.world⟩
    | .ok () => ⟨.ok (), n.commit step.node r.caller.input, r.plan, r.world⟩

end PlanNode

/-! ## Whole plans -/

namespace Plan

variable [Cancellable W] [Elapsing W]

/-- Calls the function of a plan; its result is the new main value of the caller. -/
def call (p : Plan W) (f : SkillFunction W) (s : Services W) (b : Bag) (w : W) : Run W :=
  match f.invoke s b w with
  | (.ok text, w) => ⟨.ok (), p, b.withInput text, w⟩
  | (.error e, w) => ⟨.error e, p, b, w⟩

mutual
/-- Runs a plan to its end: calls its function, or runs the steps that are left. -/
def invoke (s : Services W) (b : Bag) (w : W) : Plan W → Run W
  | ⟨node, steps⟩ =>
    match node.function with
    | some f => call ⟨node, steps⟩ f s b w
    | none => invokeSteps s node node.cursor b w steps

/-- Runs the given steps of a node after the first `skip` of them. The caller is given what the
    state holds and the caller lacks, and after each step the new main value. -/
def invokeSteps (s : Services W) (node : PlanNode W) (skip : Nat) (b : Bag) (w : W) :
    List (Plan W) → Run W
  | [] => ⟨.ok (), ⟨node, []⟩, b, w⟩
  | step :: rest =>
    match skip with
    | skip + 1 => (invokeSteps s node skip b w rest).behind step
    | 0 =>
      let b := b.mergeMissing node.state
      let a := node.attempt step b w fun b w => step.invoke s b w
      match a.result with
      | .error e => ⟨.error e, ⟨a.node, a.step :: rest⟩, b, a.world⟩
      | .ok () =>
        (invokeSteps s a.node 0 (b.withInput a.node.state.input) a.world rest).behind a.step
end

/-- Runs the next step, if one is left. The variables of the caller stay as they are. -/
def invokeNextStep (p : Plan W) (s : Services W) (b : Bag) (w : W) : Run W :=
  match p.steps[p.node.cursor]? with
  | none => ⟨.ok (), p, b, w⟩
  | some step =>
    let a := p.node.attempt step b w fun b w => step.invoke s b w
    ⟨a.result, ⟨a.node, p.steps.set p.node.cursor a.step⟩, b, a.world⟩

/-- Runs the next step, if one is left, with variables of its own. The variables of the caller play
    no part. -/
def runNextStep (p : Plan W) (given : Bag) (s : Services W) (b : Bag) (w : W) : Run W :=
  { p.invokeNextStep s given w with caller := b }

/-- Sets the main value of the caller and runs the plan to its end. -/
def invokeWithInput (p : Plan W) (input : String) (s : Services W) (b : Bag) (w : W) : Run W :=
  p.invoke s (b.withInput input) w

end Plan

end SkillPlan

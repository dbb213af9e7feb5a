import SkillPlan.Proofs.Plan.Calls

/-!
# Histories

A plan can be run in four ways, to its end or by one step, and any number of times. What the plan is
like afterwards depends on all of these runs; each may find a world of its own.
-/

namespace SkillPlan

variable {W : Type} [Cancellable W] [Elapsing W]

/-- The ways to run a plan. -/
inductive Entry where
  | invoke
  | invokeWithInput (input : String)
  | invokeNextStep
  | runNextStep (given : Bag)

/-- Whether a run goes to the end of the plan. -/
def Entry.toEnd : Entry → Bool
  | invoke => true
  | invokeWithInput _ => true
  | invokeNextStep => false
  | runNextStep _ => false

/-- A run that is asked for: in which way, with which variables and in which world. -/
structure Request (W : Type) where
  entry : Entry
  services : Services W
  caller : Bag
  world : W

namespace Request

/-- The run of a plan that is asked for. -/
def run (q : Request W) (p : Plan W) : Run W :=
  match q.entry with
  | .invoke => p.invoke q.services q.caller q.world
  | .invokeWithInput input => p.invokeWithInput input q.services q.caller q.world
  | .invokeNextStep => p.invokeNextStep q.services q.caller q.world
  | .runNextStep given => p.runNextStep given q.services q.caller q.world

/-- The request in a world with an empty journal. -/
def recorded (q : Request W) : Request (Journal W) where
  entry := q.entry
  services := q.services.recorded
  caller := q.caller
  world := ⟨q.world, []⟩

/-- The calls that the run of a plan makes, in order. -/
def journal (q : Request W) (p : Plan W) : List Call :=
  (q.recorded.run (p.recorded [])).world.calls

/-- The calls of the run, as a recursion over the plan. -/
def calls (q : Request W) (p : Plan W) : List Call :=
  match q.entry with
  | .invoke => p.calls q.services q.caller q.world []
  | .invokeWithInput input => p.calls q.services (q.caller.withInput input) q.world []
  | .invokeNextStep => p.nextCalls q.services q.caller q.world []
  | .runNextStep given => p.nextCalls q.services given q.world []

/-- The run of a plan whose functions write their calls down differs from the plain run in these
    calls only. -/
theorem run_recorded (q : Request W) (p : Plan W) :
    q.recorded.run (p.recorded []) = (q.run p).recorded [] 0 (q.calls p) := by
  obtain ⟨entry, s, b, w⟩ := q
  cases entry with
  | invoke => exact p.invoke_recorded s b w [] []
  | invokeWithInput input => exact p.invoke_recorded s (b.withInput input) w [] []
  | invokeNextStep => exact p.invokeNextStep_recorded s b w [] []
  | runNextStep given =>
    have hrun := p.invokeNextStep_recorded s given w [] []
    exact congrArg (fun r => { r with caller := b }) hrun

theorem journal_eq_calls (q : Request W) (p : Plan W) : q.journal p = q.calls p := by
  rw [journal, run_recorded]
  rfl

end Request

namespace Plan

/-- The plan after some runs, one after the other. -/
def after (p : Plan W) : List (Request W) → Plan W
  | [] => p
  | q :: rest => (q.run p).plan.after rest

/-- The calls that these runs make, in order. -/
def history (p : Plan W) : List (Request W) → List Call
  | [] => []
  | q :: rest => q.journal p ++ (q.run p).plan.history rest

end Plan

end SkillPlan

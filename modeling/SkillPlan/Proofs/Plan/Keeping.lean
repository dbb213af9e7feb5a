import SkillPlan.Proofs.Plan.Cancelling

/-!
# What a run leaves alone

The executor changes the world only by calling functions. So what every call of a run leaves as it
is, and the passing of time too, the run leaves as it is: `invoke_keeps` and `invokeNextStep_keeps`.
-/

namespace SkillPlan

variable {W : Type} [Cancellable W] [Elapsing W]

namespace Plan

/-- The calls of a run of the next step of the plan at a place, each with the world that it left. -/
def nextReturns (p : Plan W) (s : Services W) (b : Bag) (w : W) (place : List Nat) :
    List (Return W) :=
  match p.steps[p.node.cursor]? with
  | none => []
  | some step =>
    let w := Elapsing.elapse w
    if Cancellable.isCancelled w || step.isUnbound then []
    else step.returns s (p.node.stepVariables b step) w (place ++ [p.node.cursor])

end Plan

/-- What is true of worlds and stays true while time passes. -/
def Lasts (Q : W → Prop) : Prop := ∀ w, Q w → Q (Elapsing.elapse w)

variable {Q : W → Prop} {w : W}

/-- What lasts and holds after the step was run holds after the attempt. -/
theorem PlanNode.attempt_keeps (hlasts : Lasts Q) (hw : Q w) {n : PlanNode W} {step : Plan W}
    {b : Bag} {run : Bag → W → Run W}
    (hrun : Cancellable.isCancelled (Elapsing.elapse w) = false → step.isUnbound = false →
      Q (run (n.stepVariables b step) (Elapsing.elapse w)).world) :
    Q (n.attempt step b w run).world := by
  have houtcome := n.attempt_outcome step b w run
  generalize n.attempt step b w run = a at houtcome
  cases houtcome with
  | cancelled => exact hlasts w hw
  | notBound => exact hlasts w hw
  | failed hlive hbound r hr => exact hr ▸ hrun hlive hbound
  | done hlive hbound r hr => exact hr ▸ hrun hlive hbound

namespace Plan

variable {s : Services W} {b : Bag} {place : List Nat}

mutual
/-- What lasts and holds after every call of a run to the end holds after the run. -/
theorem invoke_keeps (hlasts : Lasts Q) (s : Services W) (b : Bag) (w : W) (place : List Nat)
    (hw : Q w) :
    ∀ p : Plan W, (∀ c ∈ p.returns s b w place, Q c.world) → Q (p.invoke s b w).world
  | ⟨node, steps⟩ => by
    rw [returns, invoke]
    cases node.function with
    | some f =>
      intro hcalls
      rw [world_call]
      exact hcalls _ List.mem_cons_self
    | none => exact invokeSteps_keeps hlasts s node node.cursor b w place 0 hw steps

theorem invokeSteps_keeps (hlasts : Lasts Q) (s : Services W) (node : PlanNode W) (skip : Nat)
    (b : Bag) (w : W) (place : List Nat) (i : Nat) (hw : Q w) :
    ∀ steps : List (Plan W), (∀ c ∈ stepReturns s node skip b w place i steps, Q c.world) →
      Q (invokeSteps s node skip b w steps).world
  | [] => fun _ => by rwa [invokeSteps]
  | step :: rest => by
    cases skip with
    | succ skip =>
      rw [stepReturns, invokeSteps]
      exact invokeSteps_keeps hlasts s node skip b w place (i + 1) hw rest
    | zero =>
      rw [stepReturns, invokeSteps]
      intro hcalls
      have hfirst := fun c hc => hcalls c (List.mem_append_left _ hc)
      have hrest := fun c hc => hcalls c (List.mem_append_right _ hc)
      have hattempt : Q (node.attempt step (b.mergeMissing node.state) w
          fun b w => step.invoke s b w).world := by
        refine PlanNode.attempt_keeps hlasts hw fun hlive hbound => ?_
        rw [hlive, hbound] at hfirst
        exact invoke_keeps hlasts s _ _ (place ++ [i]) (hlasts w hw) step hfirst
      cases hresult : (node.attempt step (b.mergeMissing node.state) w
          fun b w => step.invoke s b w).result with
      | error e => exact hattempt
      | ok u =>
        rw [hresult] at hrest
        exact invokeSteps_keeps hlasts s _ 0 _ _ place (i + 1) hattempt rest hrest
end

/-- What lasts and holds after every call of the next step holds after the step. -/
theorem invokeNextStep_keeps (hlasts : Lasts Q) {p : Plan W} (hw : Q w)
    (hcalls : ∀ c ∈ p.nextReturns s b w place, Q c.world) : Q (p.invokeNextStep s b w).world := by
  rw [nextReturns] at hcalls
  rw [invokeNextStep]
  cases hstep : p.steps[p.node.cursor]? with
  | none => exact hw
  | some step =>
    rw [hstep] at hcalls
    refine PlanNode.attempt_keeps hlasts hw fun hlive hbound => ?_
    simp only [hlive, hbound, Bool.or_self, Bool.false_eq_true, ↓reduceIte] at hcalls
    exact invoke_keeps hlasts s _ _ _ (hlasts w hw) step hcalls

end Plan

end SkillPlan

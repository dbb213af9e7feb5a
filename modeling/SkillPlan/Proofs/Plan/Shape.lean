import SkillPlan.Plan.Run

/-!
# What runs leave alone

An attempt to run a step ends in one of four ways, and a run writes states and cursors only: the
plan that it leaves behind, with states emptied and cursors set back, is the plan that it was given,
emptied and set back in the same way.
-/

namespace SkillPlan

variable {W : Type}

/-! ## Nodes of a plan -/

/-- The node with an empty state and with its cursor at the first step. -/
def PlanNode.reset (n : PlanNode W) : PlanNode W := { n with state := ∅, cursor := 0 }

namespace Plan

/-- What holds of a plan when it holds of its steps holds of every plan. -/
theorem induction {P : Plan W → Prop}
    (h : ∀ node steps, (∀ step ∈ steps, P step) → P ⟨node, steps⟩) (p : Plan W) : P p := by
  -- the steps are nested in a list, so the recursion goes down by size
  cases p with
  | mk node steps => exact h node steps fun step hstep => induction h step
termination_by sizeOf p
decreasing_by
  have := List.sizeOf_lt_of_mem hstep
  simp only [mk.sizeOf_spec]
  omega

mutual
/-- The plans below a plan, each before those below it. -/
def descendants : Plan W → List (Plan W)
  | ⟨_, steps⟩ => stepsDescendants steps

/-- Some steps and the plans below them. -/
def stepsDescendants : List (Plan W) → List (Plan W)
  | [] => []
  | step :: rest => (step :: step.descendants) ++ stepsDescendants rest
end

mutual
/-- The plan with empty states and with every cursor at the first step. -/
def reset : Plan W → Plan W
  | ⟨node, steps⟩ => ⟨node.reset, resetSteps steps⟩

/-- The same for some steps. -/
def resetSteps : List (Plan W) → List (Plan W)
  | [] => []
  | step :: rest => step.reset :: resetSteps rest
end

theorem descendants_eq (p : Plan W) : p.descendants = stepsDescendants p.steps := by
  cases p
  rfl

theorem mem_stepsDescendants {q : Plan W} {steps : List (Plan W)} :
    q ∈ stepsDescendants steps ↔ ∃ step ∈ steps, q ∈ step :: step.descendants := by
  induction steps with
  | nil => simp [stepsDescendants]
  | cons first rest ih => simp [stepsDescendants, ih, or_assoc]

theorem mem_descendants {p q : Plan W} :
    q ∈ p.descendants ↔ ∃ step ∈ p.steps, q ∈ step :: step.descendants := by
  rw [descendants_eq, mem_stepsDescendants]

theorem resetSteps_eq_map (steps : List (Plan W)) : resetSteps steps = steps.map reset := by
  induction steps with
  | nil => rfl
  | cons step rest ih => rw [resetSteps, ih, List.map_cons]

theorem steps_reset (p : Plan W) : p.reset.steps = resetSteps p.steps := by
  cases p
  rfl

theorem node_reset (p : Plan W) : p.reset.node = p.node.reset := by
  cases p
  rfl

theorem node_of_reset_eq {p p' : Plan W} (h : p'.reset = p.reset) :
    p'.node.reset = p.node.reset := by
  rw [← node_reset, h, node_reset]

mutual
theorem descendants_reset : ∀ p : Plan W, p.reset.descendants = p.descendants.map reset
  | ⟨_, steps⟩ => stepsDescendants_reset steps

theorem stepsDescendants_reset : ∀ steps : List (Plan W),
    stepsDescendants (resetSteps steps) = (stepsDescendants steps).map reset
  | [] => rfl
  | step :: rest => by
    rw [resetSteps, stepsDescendants, stepsDescendants, List.map_append, List.map_cons,
      descendants_reset step, stepsDescendants_reset rest]
end

@[simp] theorem steps_isEmpty_reset (p : Plan W) : p.reset.steps.isEmpty = p.steps.isEmpty := by
  rw [steps_reset, resetSteps_eq_map, List.isEmpty_map]

theorem length_steps_of_reset_eq {p p' : Plan W} (h : p'.reset = p.reset) :
    p'.steps.length = p.steps.length := by
  have hsteps := congrArg (·.steps.length) h
  simpa [steps_reset, resetSteps_eq_map] using hsteps

/-- Plans that differ in states and cursors only are unbound together. -/
@[simp] theorem isUnbound_reset (p : Plan W) : p.reset.isUnbound = p.isUnbound := by
  rw [isUnbound, isUnbound, steps_isEmpty_reset, node_reset]
  rfl

/-- A step that differs in its state and in what is below it is handed the same variables. -/
theorem stepVariables_of_reset_eq {step step' : Plan W} (h : step'.reset = step.reset)
    (n : PlanNode W) (b : Bag) : n.stepVariables b step' = n.stepVariables b step := by
  have hempty : step'.steps.isEmpty = step.steps.isEmpty := by
    rw [← steps_isEmpty_reset step', h, steps_isEmpty_reset]
  -- of the step only its view, its parameters and whether it has steps are looked at
  have hnode := node_of_reset_eq h
  have hview : step'.node.view = step.node.view := by
    change step'.node.reset.view = step.node.reset.view
    rw [hnode]
  have hparameters : step'.node.parameters = step.node.parameters := by
    change step'.node.reset.parameters = step.node.reset.parameters
    rw [hnode]
  rw [PlanNode.stepVariables, PlanNode.stepVariables, PlanNode.stepInput, PlanNode.stepInput,
    hempty, hview, hparameters]

theorem function_of_reset_eq {p p' : Plan W} (h : p'.reset = p.reset) :
    p'.node.function = p.node.function := by
  have hfunction := congrArg PlanNode.function (node_of_reset_eq h)
  exact hfunction

theorem commit_of_reset_eq {step step' : Plan W}
    (h : step'.reset = step.reset) {n : PlanNode W} {result : String} :
    n.commit step'.node result = n.commit step.node result := by
  have houtputs := congrArg PlanNode.outputs (node_of_reset_eq h)
  change step'.node.outputs = step.node.outputs at houtputs
  rw [PlanNode.commit, PlanNode.commit, houtputs]

/-! ## Properties of every plan in a plan -/

/-- The plan and all the plans below it have the property. -/
def Everywhere (P : Plan W → Prop) (p : Plan W) : Prop := ∀ q ∈ p :: p.descendants, P q

namespace Everywhere

variable {P : Plan W → Prop}

theorem step {p step : Plan W} (h : p.Everywhere P) (hstep : step ∈ p.steps) :
    step.Everywhere P :=
  fun q hq => h q (List.mem_cons_of_mem _ (mem_descendants.mpr ⟨step, hstep, hq⟩))

theorem ofSteps {p : Plan W} (hp : P p) (hsteps : ∀ step ∈ p.steps, step.Everywhere P) :
    p.Everywhere P := by
  intro q hq
  cases hq with
  | head => exact hp
  | tail _ hq =>
    obtain ⟨step, hstep, hq⟩ := mem_descendants.mp hq
    exact hsteps step hstep q hq

/-- What does not depend on states and cursors holds of all plans in a plan if it holds of all in
    one that differs in states and cursors only. -/
theorem of_reset_eq {p p' : Plan W} (h : p.Everywhere P) (hP : ∀ q : Plan W, P q.reset ↔ P q)
    (heq : p'.reset = p.reset) : p'.Everywhere P := by
  intro q hq
  have hmap : (p' :: p'.descendants).map reset = (p :: p.descendants).map reset := by
    rw [List.map_cons, List.map_cons, ← descendants_reset, ← descendants_reset, heq]
  -- `q` has a counterpart in `p` that differs from it in states and cursors only
  have hq' : q.reset ∈ (p :: p.descendants).map reset := hmap ▸ List.mem_map_of_mem hq
  obtain ⟨q₀, hq₀, hsame⟩ := List.mem_map.mp hq'
  exact (hP q).mp (hsame ▸ (hP q₀).mpr (h q₀ hq₀))

end Everywhere

end Plan

/-! ## Attempts -/

variable [Cancellable W] [Elapsing W]

/-- The ways in which an attempt to run a step can end. -/
inductive PlanNode.Outcome (n : PlanNode W) (step : Plan W) (b : Bag) (w : W)
    (run : Bag → W → Run W) : Attempt W → Prop
  | cancelled (h : Cancellable.isCancelled (Elapsing.elapse w) = true) :
      Outcome n step b w run ⟨.error n.cancelled, n, step, Elapsing.elapse w⟩
  | notBound (hlive : Cancellable.isCancelled (Elapsing.elapse w) = false)
      (h : step.isUnbound = true) :
      Outcome n step b w run ⟨.error (n.stepNotBound step.node), n, step, Elapsing.elapse w⟩
  | failed (hlive : Cancellable.isCancelled (Elapsing.elapse w) = false)
      (hbound : step.isUnbound = false) (r : Run W)
      (hr : run (n.stepVariables b step) (Elapsing.elapse w) = r) (e : Error)
      (h : r.result = .error e) :
      Outcome n step b w run ⟨.error (n.stepFailed step.node e), n, r.plan, r.world⟩
  | done (hlive : Cancellable.isCancelled (Elapsing.elapse w) = false)
      (hbound : step.isUnbound = false) (r : Run W)
      (hr : run (n.stepVariables b step) (Elapsing.elapse w) = r) (h : r.result = .ok ()) :
      Outcome n step b w run ⟨.ok (), n.commit step.node r.caller.input, r.plan, r.world⟩

theorem PlanNode.attempt_outcome (n : PlanNode W) (step : Plan W) (b : Bag) (w : W)
    (run : Bag → W → Run W) : n.Outcome step b w run (n.attempt step b w run) := by
  unfold PlanNode.attempt
  cases hlive : Cancellable.isCancelled (Elapsing.elapse w) with
  | true => simpa [hlive] using Outcome.cancelled hlive
  | false =>
    cases hbound : step.isUnbound with
    | true => simpa [hlive, hbound] using Outcome.notBound hlive hbound
    | false =>
      simp only [hlive, Bool.false_eq_true, ↓reduceIte]
      cases hr : (run (n.stepVariables b step) (Elapsing.elapse w)).result with
      | error e => exact .failed hlive hbound _ rfl e hr
      | ok u => exact .done hlive hbound _ rfl hr

/-- An attempt that fails leaves its node as it is. -/
theorem PlanNode.node_attempt_of_error {n : PlanNode W} {step : Plan W} {b : Bag} {w : W}
    {run : Bag → W → Run W} {e : Error} (h : (n.attempt step b w run).result = .error e) :
    (n.attempt step b w run).node = n := by
  have houtcome := n.attempt_outcome step b w run
  generalize n.attempt step b w run = a at houtcome h
  cases houtcome with
  | cancelled => rfl
  | notBound => rfl
  | failed => rfl
  | done => cases h

theorem PlanNode.cursor_attempt_of_ok {n : PlanNode W} {step : Plan W} {b : Bag} {w : W}
    {run : Bag → W → Run W} (h : (n.attempt step b w run).result = .ok ()) :
    (n.attempt step b w run).node.cursor = n.cursor + 1 := by
  have houtcome := n.attempt_outcome step b w run
  generalize n.attempt step b w run = a at houtcome h
  cases houtcome with
  | cancelled => cases h
  | notBound => cases h
  | failed => cases h
  | done => rfl

/-- What holds of a step and of all that a run can leave of it holds of the step after an attempt. -/
theorem PlanNode.step_attempt {P : Plan W → Prop} {n : PlanNode W} {step : Plan W}
    {run : Bag → W → Run W} (hstep : P step) (hrun : ∀ b w, P (run b w).plan) (b : Bag) (w : W) :
    P (n.attempt step b w run).step := by
  have houtcome := n.attempt_outcome step b w run
  generalize n.attempt step b w run = a at houtcome
  cases houtcome with
  | cancelled => exact hstep
  | notBound => exact hstep
  | failed _ _ r hr => exact hr ▸ hrun _ _
  | done _ _ r hr => exact hr ▸ hrun _ _

/-! ## Runs -/

/-- The run of a plan that has more steps in front. -/
def Run.behindAll (done : List (Plan W)) (r : Run W) : Run W :=
  { r with plan := ⟨r.plan.node, done ++ r.plan.steps⟩ }

omit [Cancellable W] [Elapsing W] in
theorem Run.behindAll_nil (r : Run W) : r.behindAll [] = r := by
  cases r with
  | mk result plan caller world => cases plan; rfl

omit [Cancellable W] [Elapsing W] in
theorem Run.behindAll_behindAll (before done : List (Plan W)) (r : Run W) :
    (r.behindAll done).behindAll before = r.behindAll (before ++ done) := by
  simp only [Run.behindAll, List.append_assoc]

/-- An attempt writes the state and the cursor of its node only, if the run of the step does so. -/
theorem PlanNode.attempt_reset {n : PlanNode W} {step : Plan W} {run : Bag → W → Run W}
    (hrun : ∀ b w, (run b w).plan.reset = step.reset) (b : Bag) (w : W) :
    (n.attempt step b w run).node.reset = n.reset ∧
      (n.attempt step b w run).step.reset = step.reset := by
  have houtcome := n.attempt_outcome step b w run
  generalize n.attempt step b w run = a at houtcome
  cases houtcome with
  | cancelled => exact ⟨rfl, rfl⟩
  | notBound => exact ⟨rfl, rfl⟩
  | failed _ _ r hr => exact ⟨rfl, hr ▸ hrun _ _⟩
  | done _ _ r hr => exact ⟨rfl, hr ▸ hrun _ _⟩

namespace Plan

omit [Cancellable W] [Elapsing W] in
theorem reset_behind {r : Run W} {node node' : PlanNode W} {step step' : Plan W}
    {rest : List (Plan W)} (hr : r.plan.reset = reset ⟨node', rest⟩)
    (hnode : node'.reset = node.reset) (hstep : step'.reset = step.reset) :
    (r.behind step').plan.reset = reset ⟨node, step :: rest⟩ := by
  have hn : r.plan.node.reset = node'.reset := by rw [← node_reset, hr]; rfl
  have hs : resetSteps r.plan.steps = resetSteps rest := by rw [← steps_reset, hr]; rfl
  rw [Run.behind, reset, reset, resetSteps, resetSteps, hn, hs, hnode, hstep]

omit [Cancellable W] [Elapsing W] in
/-- A call leaves the plan as it is. -/
@[simp] theorem plan_call (p : Plan W) (f : SkillFunction W) (s : Services W) (b : Bag) (w : W) :
    (p.call f s b w).plan = p := by
  unfold call
  cases f.invoke s b w with
  | mk answer w' => cases answer <;> rfl

omit [Cancellable W] [Elapsing W] in
/-- A call does to the world what the function does. -/
@[simp] theorem world_call (p : Plan W) (f : SkillFunction W) (s : Services W) (b : Bag) (w : W) :
    (p.call f s b w).world = (f.invoke s b w).2 := by
  unfold call
  cases f.invoke s b w with
  | mk answer w' => cases answer <;> rfl

/-- A plan with a function is run by calling it. -/
theorem invoke_of_function {p : Plan W} {f : SkillFunction W} (hf : p.node.function = some f)
    (s : Services W) (b : Bag) (w : W) : p.invoke s b w = p.call f s b w := by
  obtain ⟨node, steps⟩ := p
  simp only [invoke, show node.function = some f from hf]

mutual
/-- A run writes states and cursors only. -/
theorem reset_invoke (s : Services W) (b : Bag) (w : W) :
    ∀ p : Plan W, (p.invoke s b w).plan.reset = p.reset
  | ⟨node, steps⟩ => by
    rw [invoke]
    cases node.function with
    | none => exact reset_invokeSteps s node node.cursor b w steps
    | some f => simp only [plan_call]

theorem reset_invokeSteps (s : Services W) (node : PlanNode W) (skip : Nat) (b : Bag) (w : W) :
    ∀ steps : List (Plan W),
      (invokeSteps s node skip b w steps).plan.reset = reset ⟨node, steps⟩
  | [] => by rw [invokeSteps]
  | step :: rest => by
    cases skip with
    | succ skip =>
      rw [invokeSteps]
      exact reset_behind (reset_invokeSteps s node skip b w rest) rfl rfl
    | zero =>
      rw [invokeSteps]
      obtain ⟨hnode, hstep⟩ := PlanNode.attempt_reset (n := node)
        (fun b w => reset_invoke s b w step) (b.mergeMissing node.state) w
      generalize node.attempt step (b.mergeMissing node.state) w _ = a at hnode hstep
      -- the others are run with the node that the attempt left, if they are run at all
      cases a.result with
      | error e => simp only [reset, resetSteps, hnode, hstep]
      | ok u => exact reset_behind (reset_invokeSteps s a.node 0 _ a.world rest) hnode hstep
end

/-- The steps that are skipped stand in front of the run of the others. -/
theorem invokeSteps_eq_drop (s : Services W) (node : PlanNode W) (skip : Nat) (b : Bag) (w : W)
    (steps : List (Plan W)) :
    invokeSteps s node skip b w steps =
      (invokeSteps s node 0 b w (steps.drop skip)).behindAll (steps.take skip) := by
  induction steps generalizing skip with
  | nil => rw [List.drop_nil, List.take_nil, invokeSteps, invokeSteps]; rfl
  | cons step rest ih =>
    cases skip with
    | zero => rw [List.drop_zero, List.take_zero, Run.behindAll_nil]
    | succ skip =>
      rw [invokeSteps, ih, List.drop_succ_cons, List.take_succ_cons]
      rfl

/-- A run to the end leaves as many steps, and the cursor past them. -/
theorem cursor_invokeSteps (s : Services W) (node : PlanNode W) (b : Bag) (w : W)
    (steps : List (Plan W)) (hok : (invokeSteps s node 0 b w steps).result = .ok ()) :
    (invokeSteps s node 0 b w steps).plan.node.cursor = node.cursor + steps.length ∧
      (invokeSteps s node 0 b w steps).plan.steps.length = steps.length := by
  induction steps generalizing node b w with
  | nil =>
    rw [invokeSteps]
    exact ⟨rfl, rfl⟩
  | cons step rest ih =>
    rw [invokeSteps] at hok ⊢
    have houtcome := node.attempt_outcome step (b.mergeMissing node.state) w
      fun b w => step.invoke s b w
    generalize node.attempt step (b.mergeMissing node.state) w _ = a at houtcome hok
    cases houtcome with
    | cancelled => cases hok
    | notBound => cases hok
    | failed => cases hok
    | done _ _ r _ _ =>
      obtain ⟨hcursor, hlength⟩ := ih _ _ _ hok
      refine ⟨?_, congrArg (· + 1) hlength⟩
      rw [List.length_cons]
      have hcommit : (node.commit step.node r.caller.input).cursor = node.cursor + 1 := rfl
      simp only [Run.behind]
      rw [hcursor, hcommit]
      omega

/-- The attempt of the step at the cursor, as a run of one step. -/
theorem invokeNextStep_append {n : PlanNode W} {done rest : List (Plan W)} {step : Plan W}
    (hcursor : n.cursor = done.length) (s : Services W) (b : Bag) (w : W) :
    invokeNextStep ⟨n, done ++ step :: rest⟩ s b w =
      let a := n.attempt step b w fun b w => step.invoke s b w
      ⟨a.result, ⟨a.node, done ++ a.step :: rest⟩, b, a.world⟩ := by
  have hget : (done ++ step :: rest)[done.length]? = some step := by
    rw [List.getElem?_append_right (Nat.le_refl _), Nat.sub_self, List.getElem?_cons_zero]
  simp only [invokeNextStep, hcursor, hget, List.set_append_right _ _ (Nat.le_refl _),
    Nat.sub_self, List.set_cons_zero]

omit [Cancellable W] [Elapsing W] in
theorem hasNextStep_iff {p : Plan W} : p.hasNextStep = true ↔ p.node.cursor < p.steps.length :=
  decide_eq_true_iff

omit [Cancellable W] [Elapsing W] in
theorem hasNextStep_eq_false_iff {p : Plan W} :
    p.hasNextStep = false ↔ p.steps.length ≤ p.node.cursor := by
  rw [hasNextStep, decide_eq_false_iff_not, Nat.not_lt]

omit [Cancellable W] [Elapsing W] in
theorem exists_next_step {p : Plan W} (h : p.hasNextStep = true) :
    ∃ step, p.steps[p.node.cursor]? = some step :=
  ⟨_, List.getElem?_eq_getElem (hasNextStep_iff.mp h)⟩

omit [Cancellable W] [Elapsing W] in
/-- The steps of a plan around the one at its cursor. -/
theorem exists_steps_eq {p : Plan W} {step : Plan W} (h : p.steps[p.node.cursor]? = some step) :
    ∃ done rest, p.steps = done ++ step :: rest ∧ p.node.cursor = done.length := by
  obtain ⟨hlt, hget⟩ := List.getElem?_eq_some_iff.mp h
  refine ⟨p.steps.take p.node.cursor, p.steps.drop (p.node.cursor + 1), ?_, ?_⟩
  · rw [← hget, List.getElem_cons_drop, List.take_append_drop]
  · rw [List.length_take_of_le (Nat.le_of_lt hlt)]

/-- A run of the next step writes states and cursors only. -/
theorem reset_invokeNextStep (p : Plan W) (s : Services W) (b : Bag) (w : W) :
    (p.invokeNextStep s b w).plan.reset = p.reset := by
  cases h : p.steps[p.node.cursor]? with
  | none => rw [invokeNextStep, h]
  | some step =>
    obtain ⟨done, rest, hsteps, hcursor⟩ := exists_steps_eq h
    obtain ⟨node, steps⟩ := p
    simp only at hsteps hcursor
    subst hsteps
    obtain ⟨hnode, hstep⟩ := PlanNode.attempt_reset (n := node)
      (fun b w => reset_invoke s b w step) b w
    rw [invokeNextStep_append hcursor]
    simp only [reset, resetSteps_eq_map, List.map_append, List.map_cons, hnode, hstep]

/-- A plan without a function is run from its cursor on. -/
theorem invoke_eq_behindAll {p : Plan W} (hroot : p.node.function = none) (s : Services W) (b : Bag)
    (w : W) :
    p.invoke s b w =
      (invokeSteps s p.node 0 b w (p.steps.drop p.node.cursor)).behindAll
        (p.steps.take p.node.cursor) := by
  cases p with
  | mk node steps =>
    simp only [invoke, show node.function = none from hroot]
    exact invokeSteps_eq_drop s node node.cursor b w steps

/-- A run to the end is a run of the next step, which is given what the caller lacks and the state
    holds, and if that succeeds a run of what is left then. -/
theorem invoke_eq_next {p step : Plan W} (hroot : p.node.function = none)
    (hstep : p.steps[p.node.cursor]? = some step) (s : Services W) (b : Bag) (w : W) :
    let given := b.mergeMissing p.node.state
    let next := p.invokeNextStep s given w
    p.invoke s b w =
      match next.result with
      | .error _ => next
      | .ok () => next.plan.invoke s (given.withInput next.plan.node.state.input) next.world := by
  intro given next
  obtain ⟨done, rest, hsteps, hcursor⟩ := exists_steps_eq hstep
  obtain ⟨node, steps⟩ := p
  simp only at hsteps hcursor hroot
  subst hsteps
  have hnext : next = _ := invokeNextStep_append hcursor s given w
  have hnode := (PlanNode.attempt_reset (n := node) (fun b w => reset_invoke s b w step) given w).1
  have hmoves : (node.attempt step given w fun b w => step.invoke s b w).result = .ok () →
      (node.attempt step given w fun b w => step.invoke s b w).node.cursor = node.cursor + 1 :=
    PlanNode.cursor_attempt_of_ok
  rw [invoke_eq_behindAll hroot, hnext]
  simp only [hcursor, List.drop_left, List.take_left, invokeSteps]
  generalize node.attempt step given w _ = a at hnode hmoves
  cases ha : a.result with
  | error e => rfl
  | ok u =>
    -- what is left are the steps behind this one
    have hfunction : a.node.function = none := (congrArg PlanNode.function hnode).trans hroot
    have hcursor' : a.node.cursor = (done ++ [a.step]).length := by
      rw [hmoves ha, hcursor, List.length_append, List.length_singleton]
    have happend : done ++ a.step :: rest = (done ++ [a.step]) ++ rest := by simp
    simp only [invoke_eq_behindAll (p := ⟨a.node, _⟩) hfunction, happend, hcursor', List.drop_left,
      List.take_left]
    simp [Run.behind, Run.behindAll, given]

/-- After a run to the end of a plan without a function no step is left. -/
theorem hasNextStep_invoke {p : Plan W} (hroot : p.node.function = none) {s : Services W} {b : Bag}
    {w : W} (hok : (p.invoke s b w).result = .ok ()) :
    (p.invoke s b w).plan.hasNextStep = false := by
  rw [invoke_eq_behindAll hroot] at hok ⊢
  obtain ⟨hcursor, hlength⟩ := cursor_invokeSteps s p.node b w _ hok
  rw [List.length_drop] at hcursor hlength
  simp only [hasNextStep, Run.behindAll, decide_eq_false_iff_not, List.length_append,
    List.length_take, hlength, hcursor]
  omega

end Plan

end SkillPlan

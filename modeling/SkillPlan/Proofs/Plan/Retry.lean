import SkillPlan.Proofs.Plan.Succeeding

/-!
# Trying again after a failure

A run that fails leaves the plan where it stopped, so the next run goes on from there. The root goes
on with the variables that it had. A plan below the root is handed new variables, as if it had not
run yet, and its state is copied into them: `Rebuildable` says when its steps cannot tell these from
the ones that were lost.
-/

namespace SkillPlan

open Text (fold)

variable {W : Type} [Cancellable W] [Elapsing W]

/-! ## Where a run fails -/

namespace Plan

/-- A run of steps that fails has run some of them, and then the attempt of one failed. -/
theorem exists_failed_step {s : Services W} {steps : List (Plan W)} {n : PlanNode W} {b : Bag}
    {w : W} {e : Error} (hfail : (invokeSteps s n 0 b w steps).result = .error e) :
    ∃ done step rest, steps = done ++ step :: rest ∧
      (invokeSteps s n 0 b w done).result = .ok () ∧
      let r := invokeSteps s n 0 b w done
      ∃ e, (r.plan.node.attempt step (r.caller.mergeMissing r.plan.node.state) r.world
        fun b w => step.invoke s b w).result = .error e := by
  induction steps generalizing n b w with
  | nil =>
    rw [invokeSteps] at hfail
    cases hfail
  | cons step rest ih =>
    cases hattempt : (n.attempt step (b.mergeMissing n.state) w
        fun b w => step.invoke s b w).result with
    | error e =>
      refine ⟨[], step, rest, rfl, ?_, e, ?_⟩
      · rw [invokeSteps]
      · rwa [invokeSteps]
    | ok u =>
      obtain ⟨r, -, -, hattempt, -⟩ := PlanNode.attempt_of_ok hattempt
      rw [invokeSteps_cons hattempt] at hfail
      obtain ⟨done, failing, rest', rfl, hran, hfailed⟩ := ih hfail
      refine ⟨step :: done, failing, rest', rfl, ?_⟩
      rw [invokeSteps_cons hattempt]
      exact ⟨hran, hfailed⟩

/-- When the attempt of the first step fails, the others are not run. -/
theorem invokeSteps_cons_failed {s : Services W} {n : PlanNode W} {b : Bag} {w : W} {step : Plan W}
    {e : Error}
    (h : (n.attempt step (b.mergeMissing n.state) w fun b w => step.invoke s b w).result =
      .error e)
    (rest : List (Plan W)) :
    let a := n.attempt step (b.mergeMissing n.state) w fun b w => step.invoke s b w
    invokeSteps s n 0 b w (step :: rest) =
        ⟨a.result, ⟨a.node, a.step :: rest⟩, b.mergeMissing n.state, a.world⟩ ∧
      ∀ leaf i, stepCalls s n 0 b w leaf i (step :: rest) =
        n.attemptCalls step (b.mergeMissing n.state) w
          fun b w => step.calls s b w (leaf ++ [i]) := by
  constructor
  · simp only [invokeSteps, h]
  · intro leaf i
    simp only [stepCalls, h, List.append_nil]

/-- The place where the run of a plan without a function fails: `done` are the steps that have run,
    and `step` is the one whose attempt failed. -/
structure Halt (s : Services W) (p : Plan W) (b : Bag) (w : W) where
  before : List (Plan W)
  done : List (Plan W)
  step : Plan W
  rest : List (Plan W)
  steps_eq : p.steps = before ++ (done ++ step :: rest)
  length_before : before.length = p.node.cursor
  ran : (invokeSteps s p.node 0 b w done).result = .ok ()
  failed : let r := invokeSteps s p.node 0 b w done
    ∃ e, (r.plan.node.attempt step (r.caller.mergeMissing r.plan.node.state) r.world
      fun b w => step.invoke s b w).result = .error e

namespace Halt

variable {s : Services W} {p : Plan W} {b : Bag} {w : W}

theorem of_error (hroot : p.node.function = none) {e : Error}
    (hfail : (p.invoke s b w).result = .error e) : Nonempty (Halt s p b w) := by
  rw [invoke_eq_behindAll hroot] at hfail
  obtain ⟨done, step, rest, hdrop, hran, hfailed⟩ := exists_failed_step hfail
  -- behind the last step there is nothing that could fail
  have hlt : p.node.cursor ≤ p.steps.length := by
    refine Nat.le_of_not_lt fun hlt => ?_
    rw [List.drop_eq_nil_of_le (Nat.le_of_lt hlt)] at hdrop
    cases done <;> cases hdrop
  exact ⟨{
    before := p.steps.take p.node.cursor
    done := done
    step := step
    rest := rest
    steps_eq := by rw [← hdrop, List.take_append_drop]
    length_before := List.length_take_of_le hlt
    ran := hran
    failed := hfailed }⟩

/-- The run of the steps that have run. -/
def reached (h : Halt s p b w) : Run W := invokeSteps s p.node 0 b w h.done

/-- The node as the failing attempt finds it. -/
def node (h : Halt s p b w) : PlanNode W := h.reached.plan.node

/-- The variables of the caller as the failing attempt finds them. -/
def caller (h : Halt s p b w) : Bag := h.reached.caller.mergeMissing h.node.state

/-- The attempt that fails. -/
def attempt (h : Halt s p b w) : Attempt W :=
  h.node.attempt h.step h.caller h.reached.world fun b w => h.step.invoke s b w

theorem drop_steps (h : Halt s p b w) :
    p.steps.drop p.node.cursor = h.done ++ h.step :: h.rest := by
  rw [h.steps_eq, ← h.length_before, List.drop_left]

theorem take_steps (h : Halt s p b w) : p.steps.take p.node.cursor = h.before := by
  rw [h.steps_eq, ← h.length_before, List.take_left]

theorem mem_steps (h : Halt s p b w) {q : Plan W} (hq : q ∈ h.done ++ h.step :: h.rest) :
    q ∈ p.steps := by
  rw [h.steps_eq]
  exact List.mem_append_right _ hq

theorem step_mem (h : Halt s p b w) : h.step ∈ p.steps :=
  h.mem_steps (List.mem_append_right _ List.mem_cons_self)

theorem node_attempt (h : Halt s p b w) : h.attempt.node = h.node := by
  obtain ⟨e, he⟩ := h.failed
  exact PlanNode.node_attempt_of_error he

theorem reset_step (h : Halt s p b w) : h.attempt.step.reset = h.step.reset :=
  (PlanNode.attempt_reset (fun b w => reset_invoke s b w h.step) _ _).2

/-- The plan that the run leaves. -/
def left (h : Halt s p b w) : Plan W :=
  ⟨h.node, h.before ++ (h.reached.plan.steps ++ h.attempt.step :: h.rest)⟩

/-- What a run that fails leaves behind, and the calls that it made. -/
theorem invoke_eq (h : Halt s p b w) (hroot : p.node.function = none) :
    p.invoke s b w = ⟨h.attempt.result, h.left, h.caller, h.attempt.world⟩ ∧
      ∀ leaf, p.calls s b w leaf =
        stepCalls s p.node 0 b w leaf p.node.cursor h.done ++
          h.node.attemptCalls h.step h.caller h.reached.world
            fun b w => h.step.calls s b w (leaf ++ [p.node.cursor + h.done.length]) := by
  obtain ⟨e, he⟩ := h.failed
  obtain ⟨hrun, hcalls⟩ := invokeSteps_append s h.ran (h.step :: h.rest)
  obtain ⟨hrun', hcalls'⟩ := invokeSteps_cons_failed he h.rest
  constructor
  · rw [left, ← h.node_attempt, invoke_eq_behindAll hroot, h.drop_steps, h.take_steps, hrun]
    simp only [hrun']
    rfl
  · intro leaf
    rw [calls_eq_stepCalls hroot, h.drop_steps, hcalls]
    simp only [hcalls']
    rfl

theorem cursor_node (h : Halt s p b w) :
    h.node.cursor = p.node.cursor + h.done.length ∧
      h.node.cursor = (h.before ++ h.reached.plan.steps).length := by
  obtain ⟨hcursor, hlength⟩ := cursor_invokeSteps s p.node b w h.done h.ran
  refine ⟨hcursor, ?_⟩
  rw [List.length_append, h.length_before]
  exact hcursor.trans (congrArg (p.node.cursor + ·) hlength.symm)

theorem function_node (h : Halt s p b w) : h.node.function = p.node.function :=
  function_of_reset_eq (p := ⟨p.node, h.done⟩) (reset_invokeSteps s p.node 0 b w h.done)

/-- The next run goes on with the step whose attempt failed. -/
theorem invoke_left (h : Halt s p b w) (hroot : p.node.function = none) (b₂ : Bag) (w₂ : W) :
    h.left.invoke s b₂ w₂ =
        (invokeSteps s h.node 0 b₂ w₂ (h.attempt.step :: h.rest)).behindAll
          (h.before ++ h.reached.plan.steps) ∧
      ∀ leaf, h.left.calls s b₂ w₂ leaf =
        stepCalls s h.node 0 b₂ w₂ leaf (p.node.cursor + h.done.length)
          (h.attempt.step :: h.rest) := by
  have hroot' : h.left.node.function = none := h.function_node.trans hroot
  obtain ⟨hcursor, hlength⟩ := h.cursor_node
  have hsteps : h.left.steps =
      (h.before ++ h.reached.plan.steps) ++ h.attempt.step :: h.rest :=
    (List.append_assoc _ _ _).symm
  rw [invoke_eq_behindAll hroot', hsteps]
  constructor
  · change (invokeSteps s h.node 0 b₂ w₂ (List.drop h.node.cursor _)).behindAll
      (List.take h.node.cursor _) = _
    rw [hlength, List.drop_left, List.take_left]
  · intro leaf
    rw [calls_eq_stepCalls hroot', hsteps, ← hcursor]
    change stepCalls s h.node 0 b₂ w₂ leaf h.node.cursor (List.drop h.node.cursor _) = _
    rw [hlength, List.drop_left]

/-- A run that does not fail gets to the same place, with variables that hold the same. -/
theorem invoke_whole (h : Halt s p b w) (hroot : p.node.function = none) (hsteady : p.Steady)
    {w₃ : W} (hok : (p.invoke s b w₃).result = .ok ()) :
    ∃ b₃ w₄, b₃.AgreeOff [] h.reached.caller ∧
      p.invoke s b w₃ =
        (invokeSteps s h.node 0 b₃ w₄ (h.step :: h.rest)).behindAll
          (h.before ++ h.reached.plan.steps) ∧
      ∀ leaf, p.calls s b w₃ leaf =
        stepCalls s p.node 0 b w leaf p.node.cursor h.done ++
          stepCalls s h.node 0 b₃ w₄ leaf (p.node.cursor + h.done.length) (h.step :: h.rest) := by
  rw [invoke_eq_behindAll hroot, h.drop_steps] at hok
  -- the steps that ran before the failure do the same in a run that does not fail
  have hran := invokeSteps_ok_of_append hok
  obtain ⟨hrun, hcalls⟩ := invokeSteps_append s hran (h.step :: h.rest)
  obtain ⟨hplan, hcaller, hdone⟩ := invokeSteps_agree s p.node 0 (.refl [] b) List.not_mem_nil
    h.done (fun step hstep => hsteady.step (h.mem_steps (List.mem_append_left _ hstep)))
    (fun _ _ _ _ => List.not_mem_nil) hran h.ran
  refine ⟨_, (invokeSteps s p.node 0 b w₃ h.done).world, hcaller, ?_, fun leaf => ?_⟩
  · rw [invoke_eq_behindAll hroot, h.drop_steps, h.take_steps, hrun, Run.behindAll_behindAll, hplan]
    rfl
  · rw [calls_eq_stepCalls hroot, h.drop_steps, hcalls, hdone, hplan]
    rfl

end Halt

/-! ## Going on -/

/-- The calls `made` are those that a run of `q` lacks to be a run of `p`, when both are handed the
    variables `g` and succeed; apart from them the two runs come to the same. -/
def Completes (s : Services W) (made : List Nat → List Call) (g : Bag) (p q : Plan W) : Prop :=
  ∀ w w', (q.invoke s g w).result = .ok () → (p.invoke s g w').result = .ok () →
    (q.invoke s g w).plan = (p.invoke s g w').plan ∧
      (q.invoke s g w).caller.input = (p.invoke s g w').caller.input ∧
      ∀ leaf, made leaf ++ q.calls s g w leaf = p.calls s g w' leaf

theorem Completes.refl (s : Services W) (g : Bag) {p : Plan W} (hsteady : p.Steady) :
    Completes s (fun _ => []) g p p := by
  intro w w' hok hok'
  obtain ⟨hplan, hcaller, hcalls⟩ := invoke_agree s g p hsteady hok hok'
  exact ⟨hplan, hcaller.input_eq List.not_mem_nil, hcalls⟩

/-- The calls of an attempt that failed complete what it left of its step, if the calls of a run of
    the step do so. -/
theorem completes_attempt {s : Services W} {n : PlanNode W} {step : Plan W} {b : Bag} {w : W}
    (hsteady : step.Steady)
    (hrun : ∀ w' e, (step.invoke s (n.stepVariables b step) w').result = .error e →
      (n.attempt step b w fun b w => step.invoke s b w).step =
        (step.invoke s (n.stepVariables b step) w').plan →
      Completes s
        (fun leaf => (step.calls s (n.stepVariables b step) w' leaf).filter Call.succeeded)
        (n.stepVariables b step) step (step.invoke s (n.stepVariables b step) w').plan)
    (hfail : ∃ e, (n.attempt step b w fun b w => step.invoke s b w).result = .error e) :
    Completes s
      (fun leaf => (n.attemptCalls step b w fun b w => step.calls s b w leaf).filter Call.succeeded)
      (n.stepVariables b step) step (n.attempt step b w fun b w => step.invoke s b w).step := by
  obtain ⟨e, he⟩ := hfail
  have houtcome := n.attempt_outcome step b w fun b w => step.invoke s b w
  generalize n.attempt step b w _ = a at houtcome he hrun
  cases houtcome with
  | cancelled hcancelled =>
    -- the step was not started, so all of it is left
    simp only [PlanNode.attemptCalls_of_cancelled hcancelled, List.filter_nil]
    exact .refl s _ hsteady
  | notBound hlive hunbound =>
    simp only [PlanNode.attemptCalls_of_unbound hunbound, List.filter_nil]
    exact .refl s _ hsteady
  | failed hlive hbound r hr e h =>
    simp only [PlanNode.attemptCalls_of_live hlive hbound]
    subst hr
    exact hrun _ e h rfl
  | done => cases he

/-- When what was left of a step is completed, the steps after it come to the same too, if they read
    no name that the variables do not agree on. -/
theorem invokeSteps_completes {s : Services W} {made : List Nat → List Call} {n : PlanNode W}
    {step step' : Plan W} {rest : List (Plan W)} {stale : List String} {b b' g : Bag} {w w' : W}
    (hcompletes : Completes s made g step step') (hreset : step'.reset = step.reset)
    (hhanded : n.stepVariables (b.mergeMissing n.state) step' = g)
    (hhanded' : n.stepVariables (b'.mergeMissing n.state) step = g)
    (hagree : (b.mergeMissing n.state).AgreeOff (Bag.inputKey :: stale) (b'.mergeMissing n.state))
    (hinput : Bag.inputKey ∉ stale) (hsteady : ∀ step ∈ rest, step.Steady)
    (hunread : ∀ step ∈ rest, ∀ name ∈ step.node.reads, name ∉ stale)
    (hok : (invokeSteps s n 0 b w (step' :: rest)).result = .ok ())
    (hok' : (invokeSteps s n 0 b' w' (step :: rest)).result = .ok ()) :
    (invokeSteps s n 0 b w (step' :: rest)).plan =
        (invokeSteps s n 0 b' w' (step :: rest)).plan ∧
      (invokeSteps s n 0 b w (step' :: rest)).caller.AgreeOff stale
        (invokeSteps s n 0 b' w' (step :: rest)).caller ∧
      ∀ leaf i, made (leaf ++ [i]) ++ stepCalls s n 0 b w leaf i (step' :: rest) =
        stepCalls s n 0 b' w' leaf i (step :: rest) := by
  obtain ⟨r, hr, hstep, hattempt, hcalls⟩ :=
    PlanNode.attempt_of_ok (attempt_ok_of_invokeSteps hok)
  obtain ⟨r', hr', hstep', hattempt', hcalls'⟩ :=
    PlanNode.attempt_of_ok (attempt_ok_of_invokeSteps hok')
  rw [hhanded] at hr hcalls
  rw [hhanded'] at hr' hcalls'
  -- both attempts commit the same result, so the others start from the same node
  obtain ⟨hplan, hcaller, hmade⟩ := hcompletes _ _ (hr ▸ hstep) (hr' ▸ hstep')
  rw [hr, hr'] at hplan hcaller
  rw [hplan, hcaller, commit_of_reset_eq hreset] at hattempt
  rw [invokeSteps_cons hattempt] at hok ⊢
  rw [invokeSteps_cons hattempt'] at hok' ⊢
  obtain ⟨hplan, hcaller, hrest⟩ := invokeSteps_agree s _ 0 (hagree.withInput _) hinput rest
    hsteady hunread hok hok'
  refine ⟨by simp only [Run.behind, hplan], hcaller, fun leaf i => ?_⟩
  rw [stepCalls_cons hattempt, stepCalls_cons hattempt', hcalls, hcalls', hrest, ← hmade,
    List.append_assoc]

/-- The next run of a plan without a function, with variables that serve its steps as well as those
    that were there when the run failed. -/
theorem Halt.completes {s : Services W} {p : Plan W} {b b₂ : Bag} {w w₂ w₃ : W}
    (h : Halt s p b w) (hroot : p.node.function = none) (hsteady : p.Steady) (stale : List String)
    (hstep : Completes s
      (fun leaf => (h.node.attemptCalls h.step h.caller h.reached.world
        fun b w => h.step.calls s b w leaf).filter Call.succeeded)
      (h.node.stepVariables h.caller h.step) h.step h.attempt.step)
    (hhanded : h.node.stepVariables (b₂.mergeMissing h.node.state) h.step =
      h.node.stepVariables h.caller h.step)
    (hagree : (b₂.mergeMissing h.node.state).AgreeOff (Bag.inputKey :: stale) h.caller)
    (hinput : Bag.inputKey ∉ stale)
    (hunread : ∀ step ∈ h.rest, ∀ name ∈ step.node.reads, name ∉ stale)
    (hok₂ : (h.left.invoke s b₂ w₂).result = .ok ()) (hok₃ : (p.invoke s b w₃).result = .ok ()) :
    (h.left.invoke s b₂ w₂).plan = (p.invoke s b w₃).plan ∧
      (h.left.invoke s b₂ w₂).caller.AgreeOff stale (p.invoke s b w₃).caller ∧
      ∀ leaf, (p.calls s b w leaf).filter Call.succeeded ++ h.left.calls s b₂ w₂ leaf =
        p.calls s b w₃ leaf := by
  obtain ⟨b₃, w₄, hb₃, hwhole, hwholeCalls⟩ := h.invoke_whole hroot hsteady hok₃
  obtain ⟨hleft, hleftCalls⟩ := h.invoke_left hroot b₂ w₂
  have hsame : (b₃.mergeMissing h.node.state).AgreeOff [] h.caller := hb₃.mergeMissing _
  have hhanded₂ : h.node.stepVariables (b₂.mergeMissing h.node.state) h.attempt.step =
      h.node.stepVariables h.caller h.step := by
    rw [stepVariables_of_reset_eq h.reset_step, hhanded]
  have hhanded₃ : h.node.stepVariables (b₃.mergeMissing h.node.state) h.step =
      h.node.stepVariables h.caller h.step :=
    PlanNode.stepVariables_agree hsame List.not_mem_nil fun _ _ => List.not_mem_nil
  have hagree₃ : (b₂.mergeMissing h.node.state).AgreeOff (Bag.inputKey :: stale)
      (b₃.mergeMissing h.node.state) :=
    hagree.trans (hsame.mono fun _ hmem => by cases hmem).symm
  have hmem : ∀ step ∈ h.rest, step ∈ p.steps := fun step hrest =>
    h.mem_steps (List.mem_append_right _ (List.mem_cons_of_mem _ hrest))
  rw [hleft] at hok₂ ⊢
  rw [hwhole] at hok₃ ⊢
  obtain ⟨hplan, hcaller, hcalls⟩ := invokeSteps_completes hstep h.reset_step hhanded₂ hhanded₃
    hagree₃ hinput (fun step hrest => hsteady.step (hmem step hrest)) hunread hok₂ hok₃
  refine ⟨by simp only [Run.behindAll, hplan], hcaller, fun leaf => ?_⟩
  rw [(h.invoke_eq hroot).2, List.filter_append, filter_stepCalls h.ran, hleftCalls, hwholeCalls,
    List.append_assoc, hcalls]

/-! ## Variables that are handed anew -/

/-- The steps that ran between two states of a plan. -/
def stepsBetween (p q : Plan W) : List (Plan W) :=
  (p.steps.drop p.node.cursor).take (q.node.cursor - p.node.cursor)

/-- The steps that are left of `q`, which a run of `p` left behind, are handed the same if the
    variables of the run are lost and its steps are given `g` again: no step has run, or the main
    value has not changed, and no name is read that was written over. An empty main value is none,
    except where a placeholder asks for it. -/
def Rebuilds (g : Bag) (p q : Plan W) : Prop :=
  q.node.cursor = p.node.cursor ∨
    (g.input = q.node.state.input ∨
        g.input = "" ∧ ∀ step ∈ q.steps[q.node.cursor]?, Bag.inputKey ∉ step.node.placeholders) ∧
      ∀ step ∈ q.steps.drop q.node.cursor, ∀ name ∈ step.node.reads,
        name ∉ staleNames g.names p.node.state.names (stepsBetween p q)

instance (g : Bag) (p q : Plan W) : Decidable (Rebuilds g p q) :=
  inferInstanceAs (Decidable (_ ∨ _ ∧ _))

/-- Every plan on the way from `q` to the leaf that failed is handed the same when its variables,
    here `g`, are handed to it anew. -/
inductive Rebuildable : Bag → Plan W → Plan W → Prop
  | call {g : Bag} {p q : Plan W} (h : p.node.function ≠ none) : Rebuildable g p q
  | steps {g : Bag} {p q : Plan W} (hrebuilds : Rebuilds g p q)
      (hnext : ∀ step ∈ p.steps[q.node.cursor]?, ∀ left ∈ q.steps[q.node.cursor]?,
        Rebuildable (q.node.stepVariables g left) step left) : Rebuildable g p q

/-- The same for the plans below a root, which goes on with the variables `b` that it had. -/
def Resumable (b : Bag) (p q : Plan W) : Prop :=
  ∀ step ∈ p.steps[q.node.cursor]?, ∀ left ∈ q.steps[q.node.cursor]?,
    Rebuildable (q.node.stepVariables b left) step left

/-- After some steps that succeed, the variables of the caller are those it was given with the state
    merged in, except under the main value and the names that the steps have written over. -/
theorem follows_invokeSteps {s : Services W} {given : Bag} {done : List (Plan W)} {n : PlanNode W}
    {b : Bag} {w : W} {stale held : List String}
    (hfollows : Follows given stale held n (b.mergeMissing n.state))
    (hok : (invokeSteps s n 0 b w done).result = .ok ()) :
    let r := invokeSteps s n 0 b w done
    ∃ held', Follows given (stale ++ staleNames given.names held done) held' r.plan.node
      (r.caller.mergeMissing r.plan.node.state) := by
  induction done generalizing n b w stale held with
  | nil =>
    rw [invokeSteps, staleNames, List.append_nil]
    exact ⟨held, hfollows⟩
  | cons step rest ih =>
    obtain ⟨r, -, -, hattempt, -⟩ := PlanNode.attempt_of_ok (attempt_ok_of_invokeSteps hok)
    rw [invokeSteps_cons hattempt] at hok ⊢
    rw [staleNames, ← List.append_assoc]
    exact ih (hfollows.commit step.node r.caller.input _) hok

/-- After at least one step, the caller and the state have the same main value. -/
theorem input_invokeSteps {s : Services W} {done : List (Plan W)} {n : PlanNode W} {b : Bag} {w : W}
    (hstart : done = [] → ∃ value, n.state.get? Bag.inputKey = some value ∧
      (b.mergeMissing n.state).get? Bag.inputKey = some value)
    (hok : (invokeSteps s n 0 b w done).result = .ok ()) :
    let r := invokeSteps s n 0 b w done
    ∃ value, r.plan.node.state.get? Bag.inputKey = some value ∧
      (r.caller.mergeMissing r.plan.node.state).get? Bag.inputKey = some value := by
  induction done generalizing n b w with
  | nil =>
    rw [invokeSteps]
    exact hstart rfl
  | cons step rest ih =>
    obtain ⟨r, -, -, hattempt, -⟩ := PlanNode.attempt_of_ok (attempt_ok_of_invokeSteps hok)
    rw [invokeSteps_cons hattempt] at hok ⊢
    refine ih (fun _ => ?_) hok
    exact ⟨_, n.input_state_commit step.node r.caller.input,
      (n.get?_inputKey_commit step.node r.caller.input _).trans (n.input_state_commit _ _)⟩

/-- Variables that are handed anew serve as well as those that were there when the run failed. -/
theorem Halt.served_of_rebuilds {s : Services W} {p : Plan W} {g : Bag} {w : W} (h : Halt s p g w)
    (hrebuilds : Rebuilds g p h.left) :
    ∃ stale, Bag.inputKey ∉ stale ∧
      (g.mergeMissing h.node.state).AgreeOff (Bag.inputKey :: stale) h.caller ∧
      h.node.stepVariables (g.mergeMissing h.node.state) h.step =
        h.node.stepVariables h.caller h.step ∧
      ∀ step ∈ h.rest, ∀ name ∈ step.node.reads, name ∉ stale := by
  obtain ⟨hcursor, hlength⟩ := h.cursor_node
  by_cases hdone : h.done = []
  · -- no step has run, so nothing was lost with the variables
    have hreached : h.reached = ⟨.ok (), ⟨p.node, []⟩, g, w⟩ := by rw [reached, hdone, invokeSteps]
    have hcaller : h.caller = g.mergeMissing h.node.state := by rw [caller, hreached]
    refine ⟨[], List.not_mem_nil, ?_, ?_, fun _ _ _ _ => List.not_mem_nil⟩
    · rw [hcaller]
      exact .refl _ _
    · rw [hcaller]
  · -- the cursor has moved, so the plan meets the condition on its main value and its names
    have hne : h.left.node.cursor ≠ p.node.cursor := by
      intro heq
      have hzero : h.done.length = 0 := by
        have hleft : h.node.cursor = p.node.cursor := heq
        omega
      exact hdone (List.length_eq_zero_iff.mp hzero)
    obtain ⟨hmain, hunread⟩ := hrebuilds.resolve_left hne
    have hbetween : stepsBetween p h.left = h.done := by
      have hsub : h.left.node.cursor - p.node.cursor = h.done.length := by
        have hleft : h.left.node.cursor = p.node.cursor + h.done.length := hcursor
        omega
      rw [stepsBetween, hsub, h.drop_steps, List.take_left]
    have hdrop : h.left.steps.drop h.left.node.cursor = h.attempt.step :: h.rest := by
      change List.drop h.node.cursor (h.before ++ (h.reached.plan.steps ++ _)) = _
      rw [hlength, ← List.append_assoc, List.drop_left]
    have hget : h.left.steps[h.left.node.cursor]? = some h.attempt.step := by
      rw [← List.head?_drop, hdrop, List.head?_cons]
    obtain ⟨hreads, hplaceholders⟩ := PlanNode.reads_of_reset_eq (node_of_reset_eq h.reset_step)
    rw [hbetween, hdrop] at hunread
    rw [hget] at hmain
    obtain ⟨held, hfollows⟩ := follows_invokeSteps (Follows.start g p.node) h.ran
    obtain ⟨value, hstate, hcaller⟩ := input_invokeSteps (fun hnil => absurd hnil hdone) h.ran
    have hstale := inputKey_not_mem_staleNames g.names p.node.state.names h.done
    have hagree := hfollows.agree.symm
    rw [List.nil_append] at hagree
    refine ⟨_, hstale, hagree, ?_, fun step hstep => hunread step (List.mem_cons_of_mem _ hstep)⟩
    refine PlanNode.stepVariables_rebuilt hstate hcaller hagree hstale ?_ ?_
    · exact hreads ▸ hunread h.attempt.step List.mem_cons_self
    · exact hmain.imp_right fun hempty => ⟨hempty.1, hplaceholders ▸ hempty.2 _ rfl⟩

/-- The step whose attempt failed stands under the cursor. -/
theorem Halt.getElem?_cursor {s : Services W} {p : Plan W} {b : Bag} {w : W} (h : Halt s p b w) :
    p.steps[h.left.node.cursor]? = some h.step ∧
      h.left.steps[h.left.node.cursor]? = some h.attempt.step := by
  obtain ⟨hcursor, hlength⟩ := h.cursor_node
  change p.steps[h.node.cursor]? = _ ∧
    (h.before ++ (h.reached.plan.steps ++ h.attempt.step :: h.rest))[h.node.cursor]? = _
  constructor
  · rw [hcursor, ← List.getElem?_drop, h.drop_steps, List.getElem?_append_right (Nat.le_refl _),
      Nat.sub_self, List.getElem?_cons_zero]
  · rw [hlength, ← List.append_assoc, List.getElem?_append_right (Nat.le_refl _), Nat.sub_self,
      List.getElem?_cons_zero]

/-- The calls of a run that failed complete the plan that it left, when every plan on the way to the
    leaf that failed is handed the same again. -/
theorem completes_invoke (s : Services W) (p : Plan W) :
    p.Steady → ∀ g w e, (p.invoke s g w).result = .error e →
      Rebuildable g p (p.invoke s g w).plan →
      Completes s (fun leaf => (p.calls s g w leaf).filter Call.succeeded) g p
        (p.invoke s g w).plan := by
  induction p using Plan.induction with
  | h node steps ih =>
    intro hsteady g w e hfail hrebuildable
    cases hf : node.function with
    | some f =>
      simp only [invoke, calls, hf, call] at hfail ⊢
      cases hanswer : f.invoke s g w with
      | mk answer w' =>
        simp only [hanswer] at hfail ⊢
        cases answer with
        | ok text => cases hfail
        -- a call that fails is not among those that count, and leaves the leaf as it was
        | error e => exact .refl s g hsteady
    | none =>
      obtain ⟨h⟩ := Halt.of_error hf hfail
      rw [(h.invoke_eq hf).1] at hrebuildable ⊢
      cases hrebuildable with
      | call hfunction => exact absurd hf hfunction
      | steps hrebuilds hnext =>
        -- the step that failed is handed the same again, so the hypothesis applies to it
        obtain ⟨stale, hinput, hagree, hhanded, hunread⟩ := h.served_of_rebuilds hrebuilds
        obtain ⟨hstep, hleft⟩ := h.getElem?_cursor
        have hrebuildable := hnext h.step hstep h.attempt.step hleft
        change Rebuildable (h.node.stepVariables g h.attempt.step) _ _ at hrebuildable
        rw [stepVariables_of_reset_eq h.reset_step, ← PlanNode.stepVariables_mergeMissing, hhanded]
          at hrebuildable
        have hcompletes := completes_attempt (hsteady.step h.step_mem) (fun w' e hfail hplan =>
          ih h.step h.step_mem (hsteady.step h.step_mem) _ w' e hfail (hplan ▸ hrebuildable))
          h.failed
        intro w₂ w₃ hok₂ hok₃
        obtain ⟨hplan, hcaller, hcalls⟩ := h.completes hf hsteady stale hcompletes hhanded hagree
          hinput hunread hok₂ hok₃
        exact ⟨hplan, hcaller.input_eq hinput, hcalls⟩

/-- Trying a plan again after a failure, with the variables that it had, comes to the same as a run
    that never failed: the calls that the failed run made with success and those of the second run
    are, in order, those of the whole run, and the plan and the variables are the same. -/
theorem invoke_again {good : W → Prop} (hcalm : Calm good) {p : Plan W}
    (hroot : p.node.function = none) (hreliable : p.Reliable good) (hsteady : p.Steady)
    (s : Services W) (b : Bag) (w w' : W) {e : Error} (hfail : (p.invoke s b w).result = .error e)
    (hgood : good (p.invoke s b w).world) (hgood' : good w')
    (hresumable : Resumable (p.invoke s b w).caller p (p.invoke s b w).plan) :
    let failed := p.invoke s b w
    let second := failed.plan.invoke s failed.caller failed.world
    let whole := p.invoke s b w'
    second.result = .ok () ∧ whole.result = .ok () ∧ second.plan = whole.plan ∧
      (∀ key, second.caller.get? key = whole.caller.get? key) ∧
      (p.journal s b w).filter Call.succeeded ++
          failed.plan.journal s failed.caller failed.world =
        p.journal s b w' := by
  have hreset := reset_invoke s b w p
  obtain ⟨h⟩ := Halt.of_error hroot hfail
  rw [(h.invoke_eq hroot).1] at hgood hresumable hreset ⊢
  intro failed second whole
  have hok₂ : second.result = .ok () :=
    (invoke_reliable hcalm s h.caller hgood h.left (hreliable.of_reset_eq hreset)).1
  have hok₃ : whole.result = .ok () := (invoke_reliable hcalm s b hgood' p hreliable).1
  -- the root has its variables still, and the state is merged into them already
  have hmerged : h.caller.mergeMissing h.node.state = h.caller :=
    Bag.mergeMissing_mergeMissing _ _
  obtain ⟨hstep, hleft⟩ := h.getElem?_cursor
  have hrebuildable := hresumable h.step hstep h.attempt.step hleft
  have hcompletes := completes_attempt (hsteady.step h.step_mem) (fun w' e hfail hplan =>
    completes_invoke s h.step (hsteady.step h.step_mem) _ w' e hfail
      (hplan ▸ stepVariables_of_reset_eq h.reset_step h.node h.caller ▸ hrebuildable)) h.failed
  obtain ⟨hplan, hcaller, hcalls⟩ := h.completes hroot hsteady [] hcompletes
    (by rw [hmerged]) (hmerged ▸ .refl _ _) List.not_mem_nil (fun _ _ _ _ => List.not_mem_nil)
    hok₂ hok₃
  refine ⟨hok₂, hok₃, hplan, fun key => hcaller key List.not_mem_nil, ?_⟩
  rw [journal_eq, journal_eq, journal_eq]
  exact hcalls []

end Plan

namespace Plan

open Fuse (nested)

/-- Without a main value from outside, the inner plan goes on with the one in its state. -/
theorem invoke_again_nested :
    let failed := nested.invoke {} ∅ ⟨true⟩
    let second := failed.plan.invoke {} failed.caller failed.world
    let whole := nested.invoke {} ∅ ⟨false⟩
    (∃ e, failed.result = .error e) ∧ second.result = .ok () ∧ whole.result = .ok () ∧
      second.plan = whole.plan ∧ (∀ key, second.caller.get? key = whole.caller.get? key) ∧
      (nested.journal {} ∅ ⟨true⟩).filter Call.succeeded ++
          failed.plan.journal {} failed.caller failed.world =
        nested.journal {} ∅ ⟨false⟩ := by
  intro failed second whole
  have hresumable : Resumable failed.caller nested failed.plan := by
    intro step hstep left hleft
    have hstep' : step = nested.steps[0] := Option.some.inj hstep.symm
    have hleft' : left = failed.plan.steps.head (by decide +kernel) := Option.some.inj hleft.symm
    subst hstep' hleft'
    refine .steps (by decide +kernel) fun leaf hleaf _ _ => .call ?_
    cases (Option.some.inj hleaf : _ = leaf)
    nofun
  exact ⟨⟨_, rfl⟩, invoke_again Fuse.calm_isOut rfl Fuse.reliable_nested Fuse.steady_nested {} ∅
    ⟨true⟩ ⟨false⟩ rfl rfl rfl hresumable⟩

/-- A main value from outside hides the one in the state of the inner plan: the fragile step is
    handed `one` in a run that never fails, and `x` in the run after a failure. -/
theorem invoke_again_hides_state :
    let b : Bag := .ofList [("input", "x")]
    let failed := nested.invoke {} b ⟨true⟩
    let second := failed.plan.invoke {} failed.caller failed.world
    let whole := nested.invoke {} b ⟨false⟩
    nested.node.function = none ∧ nested.Reliable Fuse.IsOut ∧ nested.Steady ∧
      (∃ e, failed.result = .error e) ∧ Fuse.IsOut failed.world ∧ second.result = .ok () ∧
      whole.result = .ok () ∧ second.plan ≠ whole.plan ∧
      second.caller.input = "x" ∧ whole.caller.input = "one" ∧
      (nested.journal {} b ⟨true⟩).filter Call.succeeded ++
          failed.plan.journal {} failed.caller failed.world ≠
        nested.journal {} b ⟨false⟩ := by
  intro b failed second whole
  refine ⟨rfl, Fuse.reliable_nested, Fuse.steady_nested, ⟨_, rfl⟩, rfl, rfl, rfl, ?_,
    by decide +kernel, by decide +kernel, ?_⟩
  · intro h
    have hstate : second.plan.node.state.input ≠ whole.plan.node.state.input := by decide +kernel
    exact hstate (congrArg (·.node.state.input) h)
  · intro h
    have hgiven : ((nested.journal {} b ⟨true⟩).filter Call.succeeded ++
        failed.plan.journal {} failed.caller failed.world).map (·.given) ≠
          (nested.journal {} b ⟨false⟩).map (·.given) := by decide +kernel
    exact hgiven (congrArg _ h)

end Plan

end SkillPlan

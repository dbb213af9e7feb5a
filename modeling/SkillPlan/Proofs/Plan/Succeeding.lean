import SkillPlan.Proofs.Plan.Calls
import SkillPlan.Proofs.Plan.Handing
import SkillPlan.Proofs.Plan.Reliable

/-!
# Runs that succeed

A run that succeeds is the runs of its steps one after the other, and every call in it succeeded.
When the functions are steady, it is determined by what its steps are handed: `invoke_agree` and
`invokeSteps_agree` compare two runs that succeed, in worlds that need not have anything in common.
-/

namespace SkillPlan

variable {W : Type} [Cancellable W] [Elapsing W]

/-! ## One step -/

namespace PlanNode

variable {n : PlanNode W} {step : Plan W} {b : Bag} {w : W} {run : Bag → W → Run W}

/-- An attempt that succeeds runs the step, and the step succeeds. -/
theorem attempt_of_ok (hok : (n.attempt step b w run).result = .ok ()) :
    ∃ r, run (n.stepVariables b step) (Elapsing.elapse w) = r ∧ r.result = .ok () ∧
      n.attempt step b w run = ⟨.ok (), n.commit step.node r.caller.input, r.plan, r.world⟩ ∧
      ∀ calls : Bag → W → List Call,
        n.attemptCalls step b w calls = calls (n.stepVariables b step) (Elapsing.elapse w) := by
  have houtcome := n.attempt_outcome step b w run
  generalize n.attempt step b w run = a at houtcome hok
  cases houtcome with
  | cancelled => cases hok
  | notBound => cases hok
  | failed => cases hok
  | done hlive hbound r hr h => exact ⟨r, hr, h, rfl, attemptCalls_of_live hlive hbound⟩

end PlanNode

namespace Plan

variable {s : Services W} {n n' : PlanNode W} {step step' : Plan W} {rest : List (Plan W)}
  {b : Bag} {w w' : W}

/-- When the first step has been attempted with success, the others are run. -/
theorem invokeSteps_cons
    (h : n.attempt step (b.mergeMissing n.state) w (fun b w => step.invoke s b w) =
      ⟨.ok (), n', step', w'⟩) :
    invokeSteps s n 0 b w (step :: rest) =
      (invokeSteps s n' 0 ((b.mergeMissing n.state).withInput n'.state.input) w' rest).behind
        step' := by
  rw [invokeSteps, h]

theorem stepCalls_cons
    (h : n.attempt step (b.mergeMissing n.state) w (fun b w => step.invoke s b w) =
      ⟨.ok (), n', step', w'⟩) (leaf : List Nat) (i : Nat) :
    stepCalls s n 0 b w leaf i (step :: rest) =
      n.attemptCalls step (b.mergeMissing n.state) w
          (fun b w => step.calls s b w (leaf ++ [i])) ++
        stepCalls s n' 0 ((b.mergeMissing n.state).withInput n'.state.input) w' leaf (i + 1)
          rest := by
  rw [stepCalls, h]

theorem attempt_ok_of_invokeSteps (hok : (invokeSteps s n 0 b w (step :: rest)).result = .ok ()) :
    (n.attempt step (b.mergeMissing n.state) w fun b w => step.invoke s b w).result = .ok () := by
  rw [invokeSteps] at hok
  cases h : (n.attempt step (b.mergeMissing n.state) w fun b w => step.invoke s b w).result with
  | ok u => rfl
  | error e =>
    rw [h] at hok
    cases hok

/-! ## One step after the other -/

/-- The calls of the steps that are left after the first ones. -/
theorem stepCalls_eq_drop (s : Services W) (n : PlanNode W) (skip : Nat) (b : Bag) (w : W)
    (leaf : List Nat) (i : Nat) (steps : List (Plan W)) :
    stepCalls s n skip b w leaf i steps =
      stepCalls s n 0 b w leaf (i + skip) (steps.drop skip) := by
  induction steps generalizing skip i with
  | nil => rw [List.drop_nil, stepCalls, stepCalls]
  | cons step rest ih =>
    cases skip with
    | zero => rfl
    | succ skip =>
      rw [stepCalls, ih, List.drop_succ_cons, Nat.add_assoc, Nat.add_comm 1 skip]

theorem calls_eq_stepCalls {p : Plan W} (hroot : p.node.function = none) (s : Services W) (b : Bag)
    (w : W) (leaf : List Nat) :
    p.calls s b w leaf =
      stepCalls s p.node 0 b w leaf p.node.cursor (p.steps.drop p.node.cursor) := by
  cases p with
  | mk node steps =>
    simp only [calls, show node.function = none from hroot]
    rw [stepCalls_eq_drop, Nat.zero_add]

/-- After a run that succeeds, further steps are run with what it leaves behind. -/
theorem invokeSteps_append (s : Services W) {done : List (Plan W)} {n : PlanNode W} {b : Bag}
    {w : W} (hok : (invokeSteps s n 0 b w done).result = .ok ()) (more : List (Plan W)) :
    let r := invokeSteps s n 0 b w done
    invokeSteps s n 0 b w (done ++ more) =
        (invokeSteps s r.plan.node 0 r.caller r.world more).behindAll r.plan.steps ∧
      ∀ leaf i, stepCalls s n 0 b w leaf i (done ++ more) =
        stepCalls s n 0 b w leaf i done ++
          stepCalls s r.plan.node 0 r.caller r.world leaf (i + done.length) more := by
  induction done generalizing n b w with
  | nil =>
    simp only [invokeSteps, stepCalls, List.nil_append]
    exact ⟨(Run.behindAll_nil _).symm, fun _ _ => rfl⟩
  | cons step rest ih =>
    obtain ⟨r, hr, -, hattempt, -⟩ :=
      PlanNode.attempt_of_ok (attempt_ok_of_invokeSteps hok)
    rw [invokeSteps_cons hattempt] at hok
    obtain ⟨hrun, hcalls⟩ := ih hok
    rw [List.cons_append, invokeSteps_cons hattempt, invokeSteps_cons hattempt, hrun]
    refine ⟨rfl, fun leaf i => ?_⟩
    rw [stepCalls_cons hattempt, stepCalls_cons hattempt, hcalls, List.append_assoc,
      List.length_cons, Nat.add_assoc, Nat.add_comm 1]
    rfl

/-- When a run succeeds, the run of its first steps does. -/
theorem invokeSteps_ok_of_append {done more : List (Plan W)} {n : PlanNode W} {b : Bag} {w : W}
    (hok : (invokeSteps s n 0 b w (done ++ more)).result = .ok ()) :
    (invokeSteps s n 0 b w done).result = .ok () := by
  induction done generalizing n b w with
  | nil => rw [invokeSteps]
  | cons step rest ih =>
    obtain ⟨r, hr, -, hattempt, -⟩ :=
      PlanNode.attempt_of_ok (attempt_ok_of_invokeSteps hok)
    rw [List.cons_append, invokeSteps_cons hattempt] at hok
    rw [invokeSteps_cons hattempt]
    exact ih hok

/-! ## Calls that succeeded -/

mutual
/-- In a run that succeeds every call succeeded. -/
theorem succeeded_of_mem_calls (s : Services W) (b : Bag) (w : W) (leaf : List Nat) :
    ∀ p : Plan W, (p.invoke s b w).result = .ok () →
      ∀ c ∈ p.calls s b w leaf, c.succeeded = true
  | ⟨node, steps⟩, hok => by
    rw [invoke] at hok
    rw [calls]
    cases hf : node.function with
    | none =>
      rw [hf] at hok
      exact succeeded_of_mem_stepCalls s node node.cursor b w leaf 0 steps hok
    | some f =>
      rw [hf] at hok
      simp only [call] at hok
      cases hanswer : f.invoke s b w with
      | mk answer w' =>
        cases answer with
        | error e =>
          rw [hanswer] at hok
          cases hok
        | ok text =>
          intro c hc
          rw [List.mem_singleton.mp hc, Call.succeeded, hanswer]
          rfl

theorem succeeded_of_mem_stepCalls (s : Services W) (node : PlanNode W) (skip : Nat) (b : Bag)
    (w : W) (leaf : List Nat) (i : Nat) :
    ∀ steps : List (Plan W), (invokeSteps s node skip b w steps).result = .ok () →
      ∀ c ∈ stepCalls s node skip b w leaf i steps, c.succeeded = true
  | [], _ => by
    intro c hc
    rw [stepCalls] at hc
    cases hc
  | step :: rest, hok => by
    cases skip with
    | succ skip =>
      rw [invokeSteps] at hok
      rw [stepCalls]
      exact succeeded_of_mem_stepCalls s node skip b w leaf (i + 1) rest hok
    | zero =>
      obtain ⟨r, hr, hstep, hattempt, hcalls⟩ :=
        PlanNode.attempt_of_ok (attempt_ok_of_invokeSteps hok)
      rw [invokeSteps_cons hattempt] at hok
      rw [stepCalls_cons hattempt, hcalls]
      intro c hc
      cases List.mem_append.mp hc with
      | inl hc => exact succeeded_of_mem_calls s _ _ _ step (hr ▸ hstep) c hc
      | inr hc => exact succeeded_of_mem_stepCalls s _ 0 _ _ leaf (i + 1) rest hok c hc
end

theorem filter_stepCalls (hok : (invokeSteps s n 0 b w rest).result = .ok ()) (leaf : List Nat)
    (i : Nat) :
    (stepCalls s n 0 b w leaf i rest).filter Call.succeeded = stepCalls s n 0 b w leaf i rest :=
  List.filter_eq_self.mpr (succeeded_of_mem_stepCalls s n 0 b w leaf i rest hok)

/-! ## Two runs that succeed -/

mutual
/-- Two runs with the same variables that succeed come to the same. -/
theorem invoke_agree (s : Services W) (b : Bag) {w w' : W} :
    ∀ p : Plan W, p.Steady → (p.invoke s b w).result = .ok () →
      (p.invoke s b w').result = .ok () →
      (p.invoke s b w).plan = (p.invoke s b w').plan ∧
        (p.invoke s b w).caller.AgreeOff [] (p.invoke s b w').caller ∧
        ∀ leaf, p.calls s b w leaf = p.calls s b w' leaf
  | ⟨node, steps⟩, hsteady, hok, hok' => by
    simp only [invoke, calls] at hok hok' ⊢
    cases hf : node.function with
    | none =>
      simp only [hf] at hok hok' ⊢
      obtain ⟨hplan, hcaller, hcalls⟩ := invokeSteps_agree s node node.cursor (.refl [] b)
        List.not_mem_nil steps (fun step hstep => hsteady.step hstep)
        (fun _ _ _ _ => List.not_mem_nil) hok hok'
      exact ⟨hplan, hcaller, fun leaf => hcalls leaf 0⟩
    | some f =>
      -- answers that succeed depend on the variables only
      obtain ⟨answer, hanswer⟩ := hsteady _ List.mem_cons_self f hf
      simp only [hf, call] at hok hok' ⊢
      cases h : f.invoke s b w with
      | mk text w₁ =>
        cases h' : f.invoke s b w' with
        | mk text' w₁' =>
          simp only [h, h'] at hok hok' ⊢
          cases text with
          | error e => cases hok
          | ok text =>
            cases text' with
            | error e => cases hok'
            | ok text' =>
              have htext : text = text' := by
                rw [hanswer s b w text (by rw [h]), hanswer s b w' text' (by rw [h'])]
              cases htext
              exact ⟨rfl, .refl _ _, fun _ => rfl⟩

/-- Two runs of the same steps that succeed come to the same, if no step reads a name that the
    variables do not agree on. -/
theorem invokeSteps_agree (s : Services W) (node : PlanNode W) (skip : Nat) {stale : List String}
    {b b' : Bag} (hagree : b.AgreeOff stale b') (hinput : Bag.inputKey ∉ stale) {w w' : W} :
    ∀ steps : List (Plan W), (∀ step ∈ steps, step.Steady) →
      (∀ step ∈ steps, ∀ name ∈ step.node.reads, name ∉ stale) →
      (invokeSteps s node skip b w steps).result = .ok () →
      (invokeSteps s node skip b' w' steps).result = .ok () →
      (invokeSteps s node skip b w steps).plan = (invokeSteps s node skip b' w' steps).plan ∧
        (invokeSteps s node skip b w steps).caller.AgreeOff stale
          (invokeSteps s node skip b' w' steps).caller ∧
        ∀ leaf i, stepCalls s node skip b w leaf i steps = stepCalls s node skip b' w' leaf i steps
  | [], _, _, _, _ => by
    rw [invokeSteps, invokeSteps]
    exact ⟨rfl, hagree, fun _ _ => by rw [stepCalls, stepCalls]⟩
  | step :: rest, hsteady, hreads, hok, hok' => by
    have hsteady' := fun q hq => hsteady q (List.mem_cons_of_mem step hq)
    have hreads' := fun q hq => hreads q (List.mem_cons_of_mem step hq)
    cases skip with
    | succ skip =>
      rw [invokeSteps] at hok hok' ⊢
      obtain ⟨hplan, hcaller, hcalls⟩ :=
        invokeSteps_agree s node skip hagree hinput rest hsteady' hreads' hok hok'
      refine ⟨by simp only [invokeSteps, Run.behind, hplan], by rwa [invokeSteps], ?_⟩
      intro leaf i
      rw [stepCalls, stepCalls]
      exact hcalls leaf (i + 1)
    | zero =>
      have hmerged := hagree.mergeMissing node.state
      have hhanded := PlanNode.stepVariables_agree (n := node) hmerged hinput
        (hreads step List.mem_cons_self)
      obtain ⟨r, hr, hstep, hattempt, hstepCalls⟩ :=
        PlanNode.attempt_of_ok (attempt_ok_of_invokeSteps hok)
      obtain ⟨r', hr', hstep', hattempt', hstepCalls'⟩ :=
        PlanNode.attempt_of_ok (attempt_ok_of_invokeSteps hok')
      rw [hhanded] at hr hstepCalls
      -- the step is handed the same variables, so its runs come to the same
      obtain ⟨hplan, hcaller, hcalls⟩ := invoke_agree s _ step (hsteady step List.mem_cons_self)
        (hr ▸ hstep) (hr' ▸ hstep')
      rw [hr, hr'] at hplan hcaller
      rw [hcaller.input_eq List.not_mem_nil, hplan] at hattempt
      simp only [invokeSteps_cons hattempt, invokeSteps_cons hattempt', stepCalls_cons hattempt,
        stepCalls_cons hattempt', hstepCalls, hstepCalls', hcalls] at hok hok' ⊢
      obtain ⟨hplan, hcaller, hrest⟩ := invokeSteps_agree s _ 0
        ((hmerged.mono fun _ => List.mem_cons_of_mem _).withInput _) hinput rest hsteady' hreads'
        hok hok'
      refine ⟨by simp only [Run.behind, hplan], hcaller, fun leaf i => ?_⟩
      rw [hrest]
end

end Plan

end SkillPlan

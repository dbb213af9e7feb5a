import SkillPlan.Proofs.Plan.History
import SkillPlan.Proofs.Plan.Reliable

/-!
# Progress

The leaves of a plan stand in an order, from left to right. However a plan is run, with whatever
failures and cancellations, the calls that succeed are those of its leaves in this order, none
twice and none left out, and the cursors say how far they have come.
-/

namespace SkillPlan

variable {W : Type}

namespace Plan

/-! ## Leaves -/

mutual
/-- The places of the leaves of the plan at a place, from left to right. -/
def leaves (place : List Nat) : Plan W → List (List Nat)
  | ⟨node, steps⟩ =>
    if (⟨node, steps⟩ : Plan W).isLeaf then [place] else stepsLeaves place 0 steps

/-- The places of the leaves of the steps from position `i` on. -/
def stepsLeaves (place : List Nat) (i : Nat) : List (Plan W) → List (List Nat)
  | [] => []
  | step :: rest => step.leaves (place ++ [i]) ++ stepsLeaves place (i + 1) rest
end

mutual
/-- The places of those leaves that the cursors have passed. -/
def passed (place : List Nat) : Plan W → List (List Nat)
  | ⟨node, steps⟩ => stepsPassed place 0 node.cursor steps

/-- The same for the steps from position `i` on, when the cursor stands before the step `k` places
    further on. -/
def stepsPassed (place : List Nat) (i : Nat) : Nat → List (Plan W) → List (List Nat)
  | _, [] => []
  | 0, step :: _ => step.passed (place ++ [i])
  | k + 1, step :: rest => step.leaves (place ++ [i]) ++ stepsPassed place (i + 1) k rest
end

/-- No plan in it has steps beside a function. -/
def Unmixed (p : Plan W) : Prop := p.Everywhere fun q => q.node.function = none ∨ q.steps = []

theorem Unmixed.of_reset_eq {p p' : Plan W} (h : p.Unmixed) (heq : p'.reset = p.reset) :
    p'.Unmixed := by
  refine Everywhere.of_reset_eq h (fun q => ?_) heq
  rw [node_reset, ← List.isEmpty_iff, ← List.isEmpty_iff, steps_isEmpty_reset]
  exact Iff.rfl

mutual
/-- The leaves do not depend on states and cursors. -/
theorem leaves_reset (place : List Nat) : ∀ p : Plan W, p.reset.leaves place = p.leaves place
  | ⟨node, steps⟩ => by
    have hleaf : isLeaf ⟨node.reset, resetSteps steps⟩ = isLeaf ⟨node, steps⟩ := by
      simp only [isLeaf, resetSteps_eq_map, List.isEmpty_map, PlanNode.reset]
    rw [reset, leaves, leaves, hleaf, stepsLeaves_reset place 0 steps]

theorem stepsLeaves_reset (place : List Nat) (i : Nat) :
    ∀ steps : List (Plan W), stepsLeaves place i (resetSteps steps) = stepsLeaves place i steps
  | [] => rfl
  | step :: rest => by
    rw [resetSteps, stepsLeaves, stepsLeaves, leaves_reset _ step, stepsLeaves_reset _ _ rest]
end

theorem leaves_of_reset_eq {p p' : Plan W} (h : p'.reset = p.reset) (place : List Nat) :
    p'.leaves place = p.leaves place := by
  rw [← leaves_reset, h, leaves_reset]

mutual
/-- The places of the leaves of a plan are below its own. -/
theorem place_le_of_mem_leaves {place leaf : List Nat} :
    ∀ p : Plan W, leaf ∈ p.leaves place → place <+: leaf
  | ⟨node, steps⟩, h => by
    rw [leaves] at h
    split at h
    · obtain rfl := List.mem_singleton.mp h
      exact List.prefix_rfl
    · obtain ⟨j, -, hj⟩ := place_le_of_mem_stepsLeaves steps h
      exact (List.prefix_append place [j]).trans hj

theorem place_le_of_mem_stepsLeaves {place leaf : List Nat} {i : Nat} :
    ∀ steps : List (Plan W), leaf ∈ stepsLeaves place i steps →
      ∃ j, i ≤ j ∧ place ++ [j] <+: leaf
  | [], h => by cases h
  | step :: rest, h => by
    rw [stepsLeaves] at h
    cases List.mem_append.mp h with
    | inl h => exact ⟨i, Nat.le_refl i, place_le_of_mem_leaves step h⟩
    | inr h =>
      obtain ⟨j, hij, hj⟩ := place_le_of_mem_stepsLeaves rest h
      exact ⟨j, Nat.le_of_succ_le hij, hj⟩
end

mutual
/-- No place occurs twice. -/
theorem nodup_leaves (place : List Nat) : ∀ p : Plan W, (p.leaves place).Nodup
  | ⟨node, steps⟩ => by
    rw [leaves]
    split
    · exact List.nodup_cons.mpr ⟨List.not_mem_nil, List.nodup_nil⟩
    · exact nodup_stepsLeaves place 0 steps

theorem nodup_stepsLeaves (place : List Nat) (i : Nat) :
    ∀ steps : List (Plan W), (stepsLeaves place i steps).Nodup
  | [] => List.nodup_nil
  | step :: rest => by
    rw [stepsLeaves, List.nodup_append]
    refine ⟨nodup_leaves _ step, nodup_stepsLeaves place (i + 1) rest, ?_⟩
    intro leaf hleaf leaf' hleaf' heq
    -- a leaf of both would have its step at two positions
    obtain ⟨j, hj, hstarts⟩ := place_le_of_mem_stepsLeaves rest hleaf'
    have hstarts' := place_le_of_mem_leaves step hleaf
    rw [heq] at hstarts'
    have hsame := List.prefix_of_prefix_length_le hstarts' hstarts (by simp)
    rw [List.prefix_append_right_inj, List.cons_prefix_cons] at hsame
    omega
end

/-! ## Cursors -/

/-- Every cursor stands before the first step. -/
def Fresh (p : Plan W) : Prop := p.Everywhere fun q => q.node.cursor = 0

/-- Every cursor stands behind the last step. -/
def Finished (p : Plan W) : Prop := p.Everywhere fun q => q.node.cursor = q.steps.length

/-- The plan is not done, if it has steps. -/
def Pending (p : Plan W) : Prop := p.steps = [] ∨ p.hasNextStep = true

mutual
/-- The cursors mark one place in the plan: steps before it are finished, and those behind it are
    fresh. -/
def Settled : Plan W → Prop
  | ⟨node, steps⟩ => StepsSettled node.cursor steps

/-- The same for some steps, when the cursor stands before the step `k` places further on. -/
def StepsSettled : Nat → List (Plan W) → Prop
  | 0, [] => True
  | _ + 1, [] => False
  | 0, step :: rest => (step.Settled ∧ step.Pending) ∧ ∀ later ∈ rest, later.Fresh
  | k + 1, step :: rest => step.Finished ∧ StepsSettled k rest
end

/-- A fresh plan is settled: no leaf has been passed. -/
theorem Fresh.settled {p : Plan W} :
    p.Fresh → p.Settled ∧ p.Pending ∧ ∀ place, p.passed place = [] := by
  induction p using Plan.induction with
  | h node steps ih =>
    intro h
    have hcursor : node.cursor = 0 := h _ List.mem_cons_self
    cases steps with
    | nil =>
      refine ⟨?_, .inl rfl, fun place => ?_⟩
      · rw [Settled, hcursor, StepsSettled]
        trivial
      · rw [passed, stepsPassed]
    | cons step rest =>
      -- the cursor stands before the first step, so only this one counts
      obtain ⟨hsettled, hpending, hpassed⟩ :=
        ih step List.mem_cons_self (h.step List.mem_cons_self)
      refine ⟨?_, .inr (by simp [hasNextStep, hcursor]), fun place => ?_⟩
      · rw [Settled, hcursor, StepsSettled]
        exact ⟨⟨hsettled, hpending⟩, fun later hlater => h.step (List.mem_cons_of_mem _ hlater)⟩
      · rw [passed, hcursor, stepsPassed, hpassed]

/-- Steps that are all fresh, with the cursor before them. -/
theorem stepsSettled_of_fresh {steps : List (Plan W)} (h : ∀ step ∈ steps, step.Fresh) :
    StepsSettled 0 steps ∧ ∀ place i, stepsPassed place i 0 steps = [] := by
  cases steps with
  | nil =>
    refine ⟨?_, fun place i => ?_⟩
    · rw [StepsSettled]
      trivial
    · rw [stepsPassed]
  | cons step rest =>
    obtain ⟨hsettled, hpending, hpassed⟩ := (h step List.mem_cons_self).settled
    rw [StepsSettled]
    refine ⟨⟨⟨hsettled, hpending⟩, fun later hlater => h later (List.mem_cons_of_mem _ hlater)⟩, ?_⟩
    intro place i
    rw [stepsPassed, hpassed]

/-- Steps of which the first ones are finished, with the cursor among the others. -/
theorem stepsSettled_append {done more : List (Plan W)} (k : Nat) :
    StepsSettled (done.length + k) (done ++ more) ↔
      (∀ step ∈ done, step.Finished) ∧ StepsSettled k more := by
  induction done with
  | nil => simp
  | cons step rest ih =>
    rw [List.length_cons, Nat.add_right_comm, List.cons_append, StepsSettled, ih,
      List.forall_mem_cons, and_assoc]

theorem stepsPassed_append (place : List Nat) (i k : Nat) (done more : List (Plan W)) :
    stepsPassed place i (done.length + k) (done ++ more) =
      stepsLeaves place i done ++ stepsPassed place (i + done.length) k more := by
  induction done generalizing i with
  | nil => simp [stepsLeaves]
  | cons step rest ih =>
    rw [List.length_cons, Nat.add_right_comm, List.cons_append, stepsPassed, ih, stepsLeaves,
      List.append_assoc, Nat.add_assoc, Nat.add_comm 1]

/-- A finished plan that calls no function is settled: all its leaves have been passed. -/
theorem Finished.settled {p : Plan W} (h : p.Finished) (hroot : p.node.function = none) :
    p.Settled ∧ ∀ place, p.passed place = p.leaves place := by
  obtain ⟨node, steps⟩ := p
  have hcursor : node.cursor = steps.length := h _ List.mem_cons_self
  have hleaf : isLeaf ⟨node, steps⟩ = false := by
    rw [isLeaf, show node.function = none from hroot, Option.isSome_none, Bool.and_false]
  -- all the steps are done, and none is left behind them
  refine ⟨?_, fun place => ?_⟩
  · have happend : StepsSettled (steps.length + 0) (steps ++ []) ↔ _ := stepsSettled_append 0
    rw [List.append_nil, Nat.add_zero] at happend
    rw [Settled, hcursor, happend, StepsSettled]
    exact ⟨fun step hstep => h.step hstep, trivial⟩
  · rw [passed, hcursor, leaves, hleaf]
    have happend := stepsPassed_append place 0 0 steps []
    rw [List.append_nil, stepsPassed, List.append_nil] at happend
    exact happend

mutual
/-- The leaves that have been passed are the first ones. -/
theorem passed_isPrefix (place : List Nat) : ∀ p : Plan W, p.passed place <+: p.leaves place
  | ⟨node, steps⟩ => by
    rw [passed, leaves]
    split
    next hleaf =>
      rw [isLeaf, Bool.and_eq_true, List.isEmpty_iff] at hleaf
      rw [show steps = [] from hleaf.1, stepsPassed]
      exact List.nil_prefix
    next => exact stepsPassed_isPrefix place 0 node.cursor steps

theorem stepsPassed_isPrefix (place : List Nat) (i k : Nat) :
    ∀ steps : List (Plan W), stepsPassed place i k steps <+: stepsLeaves place i steps
  | [] => by
    rw [stepsPassed]
    exact List.nil_prefix
  | step :: rest => by
    cases k with
    | zero =>
      rw [stepsPassed, stepsLeaves]
      exact (passed_isPrefix _ step).trans (List.prefix_append _ _)
    | succ k =>
      rw [stepsPassed, stepsLeaves, List.prefix_append_right_inj]
      exact stepsPassed_isPrefix place (i + 1) k rest
end

end Plan

/-! ## One run -/

/-- The leaves whose calls succeeded, in order. -/
def Call.committed (calls : List Call) : List (List Nat) :=
  (calls.filter Call.succeeded).map Call.leaf

@[simp] theorem Call.committed_nil : committed [] = [] := rfl

theorem Call.committed_ok (leaf : List Nat) (given : Bag) (text : String) :
    committed [⟨leaf, given, .ok text⟩] = [leaf] := rfl

theorem Call.committed_error (leaf : List Nat) (given : Bag) (e : Error) :
    committed [⟨leaf, given, .error e⟩] = [] := rfl

@[simp] theorem Call.committed_append (calls more : List Call) :
    committed (calls ++ more) = committed calls ++ committed more := by
  rw [committed, List.filter_append, List.map_append, committed, committed]

namespace Plan

open Call (committed)

/-- A run of the plan `p` at a place went on where the cursors stood, and left `q`. It came to the
    end, or to a leaf that it did not pass. -/
def Advances (place : List Nat) (calls : List Call) (result : Except Error Unit) (p q : Plan W) :
    Prop :=
  match result with
  | .ok () => p.passed place ++ committed calls = p.leaves place ∧ q.Finished
  | .error _ => p.passed place ++ committed calls = q.passed place ∧ q.Settled ∧ q.Pending

/-- The same for the steps from position `i` on after the first `skip` of them, where the cursor of
    the node stood at `cursor`. -/
def StepsAdvance (place : List Nat) (i skip cursor : Nat) (calls : List Call)
    (result : Except Error Unit) (steps : List (Plan W)) (q : Plan W) : Prop :=
  match result with
  | .ok () =>
    stepsPassed place i skip steps ++ committed calls = stepsLeaves place i steps ∧
      (∀ step ∈ q.steps, step.Finished) ∧ q.node.cursor + skip = cursor + q.steps.length
  | .error _ =>
    ∃ k < q.steps.length, q.node.cursor + skip = cursor + k ∧
      stepsPassed place i skip steps ++ committed calls = stepsPassed place i k q.steps ∧
      StepsSettled k q.steps

/-- A finished step stands in front of steps that went on: the calls `first` are those that lead
    from where the cursor stood to the end of it. -/
theorem StepsAdvance.cons {place : List Nat} {i skip skip' cursor cursor' : Nat}
    {first calls : List Call} {result : Except Error Unit} {step step' : Plan W}
    {rest : List (Plan W)} {q : Plan W}
    (hrest : StepsAdvance place (i + 1) skip' cursor' calls result rest q)
    (hcursor : cursor' + skip = cursor + skip' + 1) (hfinished : step'.Finished)
    (hleaves : step'.leaves (place ++ [i]) = step.leaves (place ++ [i]))
    (hfirst : stepsPassed place i skip (step :: rest) ++ committed first =
      step.leaves (place ++ [i]) ++ stepsPassed place (i + 1) skip' rest) :
    StepsAdvance place i skip cursor (first ++ calls) result (step :: rest)
      ⟨q.node, step' :: q.steps⟩ := by
  cases result with
  | ok u =>
    obtain ⟨hpassed, hrestFinished, hcount⟩ := hrest
    refine ⟨?_, List.forall_mem_cons.mpr ⟨hfinished, hrestFinished⟩, ?_⟩
    · rw [Call.committed_append, ← List.append_assoc, hfirst, List.append_assoc, hpassed,
        stepsLeaves]
    · simp only [List.length_cons]
      omega
  | error e =>
    obtain ⟨k, hk, hcount, hpassed, hsettled⟩ := hrest
    refine ⟨k + 1, Nat.succ_lt_succ hk, ?_, ?_, ?_⟩
    · simp only
      omega
    · rw [Call.committed_append, ← List.append_assoc, hfirst, List.append_assoc, hpassed,
        stepsPassed, hleaves]
    · rw [StepsSettled]
      exact ⟨hfinished, hsettled⟩

variable [Cancellable W] [Elapsing W]

/-- An attempt goes on where the cursors of the step stood, if a run of the step does so. -/
theorem advances_attempt {place : List Nat} {n : PlanNode W} {step : Plan W}
    {run : Bag → W → Run W} {calls : Bag → W → List Call} (hsettled : step.Settled)
    (hpending : step.Pending)
    (hrun : ∀ b w, Advances place (calls b w) (run b w).result step (run b w).plan) (b : Bag)
    (w : W) :
    Advances place (n.attemptCalls step b w calls) (n.attempt step b w run).result step
      (n.attempt step b w run).step := by
  have houtcome := n.attempt_outcome step b w run
  generalize n.attempt step b w run = a at houtcome
  cases houtcome with
  | cancelled hcancelled =>
    -- nothing was called, and the step is as it was
    rw [PlanNode.attemptCalls_of_cancelled hcancelled]
    exact ⟨List.append_nil _, hsettled, hpending⟩
  | notBound hlive hunbound =>
    rw [PlanNode.attemptCalls_of_unbound hunbound]
    exact ⟨List.append_nil _, hsettled, hpending⟩
  | failed hlive hbound r hr e h =>
    have hadvances := hrun (n.stepVariables b step) (Elapsing.elapse w)
    rw [hr, h] at hadvances
    rw [PlanNode.attemptCalls_of_live hlive hbound]
    exact hadvances
  | done hlive hbound r hr h =>
    have hadvances := hrun (n.stepVariables b step) (Elapsing.elapse w)
    rw [hr, h] at hadvances
    rw [PlanNode.attemptCalls_of_live hlive hbound]
    exact hadvances

mutual
/-- A run to the end goes on where the cursors stand. -/
theorem advances_invoke (s : Services W) (b : Bag) (w : W) (place : List Nat) :
    ∀ p : Plan W, p.Unmixed → p.Settled →
      Advances place (p.calls s b w place) (p.invoke s b w).result p (p.invoke s b w).plan
  | ⟨node, steps⟩, hunmixed, hsettled => by
    rw [Settled] at hsettled
    cases hf : node.function with
    | some f =>
      -- a leaf: there are no steps, and no cursor tells whether it was called
      have hsteps : steps = [] :=
        (hunmixed _ List.mem_cons_self).resolve_left (by rw [hf]; nofun)
      subst hsteps
      have hcursor : node.cursor = 0 := by
        cases hc : node.cursor with
        | zero => rfl
        | succ k =>
          rw [hc, StepsSettled] at hsettled
          exact hsettled.elim
      simp only [invoke, calls, hf, call]
      cases hanswer : f.invoke s b w with
      | mk answer w' =>
        cases answer with
        | ok text =>
          refine ⟨?_, .ofSteps hcursor fun _ hmem => by cases hmem⟩
          rw [passed, stepsPassed, List.nil_append, Call.committed_ok, leaves, isLeaf, hf]
          rfl
        | error e =>
          refine ⟨?_, ?_, .inl rfl⟩
          · rw [passed, stepsPassed, List.nil_append, Call.committed_error]
          · rwa [Settled]
    | none =>
      have hsteps := stepsAdvance_invokeSteps s node node.cursor b w place 0 steps
        (fun step hstep => hunmixed.step hstep) hsettled
      have hleaves : leaves place ⟨node, steps⟩ = stepsLeaves place 0 steps := by
        have hleaf : isLeaf ⟨node, steps⟩ = false := by simp [isLeaf, hf]
        rw [leaves, hleaf]
        rfl
      simp only [invoke, calls, hf]
      generalize invokeSteps s node node.cursor b w steps = r at hsteps
      obtain ⟨result, ⟨node', steps'⟩, caller, w'⟩ := r
      cases result with
      | ok u =>
        -- every step is finished, and the cursor has moved on with each of them
        obtain ⟨hpassed, hfinished, hcursor⟩ := hsteps
        have hend : node'.cursor = steps'.length := by simp only at hcursor; omega
        refine ⟨?_, .ofSteps hend hfinished⟩
        rw [passed, hpassed, hleaves]
      | error e =>
        -- the cursor stands before the step that failed
        obtain ⟨k, hk, hcursor, hpassed, hsettled'⟩ := hsteps
        have hk' : node'.cursor = k := by simp only at hcursor; omega
        subst hk'
        refine ⟨?_, ?_, .inr (by simpa [hasNextStep] using hk)⟩
        · rw [passed, hpassed, passed]
        · rwa [Settled]

theorem stepsAdvance_invokeSteps (s : Services W) (node : PlanNode W) (skip : Nat) (b : Bag) (w : W)
    (place : List Nat) (i : Nat) :
    ∀ steps : List (Plan W), (∀ step ∈ steps, step.Unmixed) → StepsSettled skip steps →
      StepsAdvance place i skip node.cursor (stepCalls s node skip b w place i steps)
        (invokeSteps s node skip b w steps).result steps (invokeSteps s node skip b w steps).plan
  | [], _, hsettled => by
    cases skip with
    | zero =>
      rw [invokeSteps, stepCalls]
      refine ⟨?_, ?_, rfl⟩
      · rw [stepsPassed, stepsLeaves, Call.committed_nil, List.append_nil]
      · exact fun _ hmem => by cases hmem
    | succ skip =>
      rw [StepsSettled] at hsettled
      exact hsettled.elim
  | step :: rest, hunmixed, hsettled => by
    have hunmixed' := fun q hq => hunmixed q (List.mem_cons_of_mem step hq)
    cases skip with
    | succ skip =>
      -- a step before the cursor is finished, and is not run again
      rw [StepsSettled] at hsettled
      have hrest := stepsAdvance_invokeSteps s node skip b w place (i + 1) rest hunmixed' hsettled.2
      rw [invokeSteps, stepCalls]
      rw [← List.nil_append (stepCalls s node skip b w place (i + 1) rest)]
      refine hrest.cons (by omega) hsettled.1 rfl ?_
      rw [Call.committed_nil, List.append_nil, stepsPassed]
    | zero =>
      -- the step at the cursor may have been begun, those behind it have not
      rw [StepsSettled] at hsettled
      obtain ⟨⟨hstep, hpending⟩, hfresh⟩ := hsettled
      obtain ⟨hsettledRest, hpassedRest⟩ := stepsSettled_of_fresh hfresh
      have hadvances := advances_attempt (n := node) hstep hpending
        (fun b w => advances_invoke s b w (place ++ [i]) step (hunmixed step List.mem_cons_self)
          hstep) (b.mergeMissing node.state) w
      have hreset := (PlanNode.attempt_reset (n := node) (fun b w => reset_invoke s b w step)
        (b.mergeMissing node.state) w).2
      rw [invokeSteps, stepCalls]
      cases ha : (node.attempt step (b.mergeMissing node.state) w
          fun b w => step.invoke s b w).result with
      | error e =>
        rw [ha] at hadvances
        obtain ⟨hpassed, hsettled', hpending'⟩ := hadvances
        refine ⟨0, Nat.succ_pos _, congrArg PlanNode.cursor (PlanNode.node_attempt_of_error ha),
          ?_, ?_⟩
        · rw [List.append_nil, stepsPassed, hpassed, stepsPassed]
        · rw [StepsSettled]
          exact ⟨⟨hsettled', hpending'⟩, hfresh⟩
      | ok u =>
        have hcursor := PlanNode.cursor_attempt_of_ok ha
        rw [ha] at hadvances
        obtain ⟨hpassed, hfinished⟩ := hadvances
        refine (stepsAdvance_invokeSteps s _ 0 _ _ place (i + 1) rest hunmixed' hsettledRest).cons
          (by omega) hfinished (leaves_of_reset_eq hreset _) ?_
        rw [stepsPassed, hpassed, hpassedRest, List.append_nil]
end

/-- A run of the next step goes on where the cursors stand. -/
theorem advances_invokeNextStep {p : Plan W} (hunmixed : p.Unmixed) (hsettled : p.Settled)
    (s : Services W) (b : Bag) (w : W) (place : List Nat) :
    p.passed place ++ committed (p.nextCalls s b w place) =
        (p.invokeNextStep s b w).plan.passed place ∧
      (p.invokeNextStep s b w).plan.Settled := by
  cases h : p.steps[p.node.cursor]? with
  | none =>
    rw [nextCalls, invokeNextStep, h]
    exact ⟨List.append_nil _, hsettled⟩
  | some step =>
    obtain ⟨done, rest, hsteps, hcursor⟩ := exists_steps_eq h
    obtain ⟨node, steps⟩ := p
    simp only at hsteps hcursor
    subst hsteps
    -- the steps before the cursor are finished, so the attempt is all that counts
    rw [Settled, hcursor] at hsettled
    obtain ⟨hdone, hsettled⟩ := (stepsSettled_append 0).mp hsettled
    rw [StepsSettled] at hsettled
    obtain ⟨⟨hstep, hpending⟩, hfresh⟩ := hsettled
    have hadvances := advances_attempt (n := node) hstep hpending
      (fun b w => advances_invoke s b w (place ++ [done.length]) step
        (hunmixed.step (List.mem_append_right _ List.mem_cons_self)) hstep) b w
    have hreset := (PlanNode.attempt_reset (n := node) (fun b w => reset_invoke s b w step) b w).2
    have hpassed : passed place ⟨node, done ++ step :: rest⟩ =
        stepsLeaves place 0 done ++ step.passed (place ++ [done.length]) := by
      rw [passed, hcursor]
      exact (stepsPassed_append place 0 0 done _).trans (by rw [Nat.zero_add, stepsPassed])
    rw [invokeNextStep_append hcursor, hpassed, nextCalls, h]
    simp only [hcursor]
    cases ha : (node.attempt step b w fun b w => step.invoke s b w).result with
    | error e =>
      rw [ha] at hadvances
      obtain ⟨hnext, hsettled', hpending'⟩ := hadvances
      rw [PlanNode.node_attempt_of_error ha, passed, Settled, hcursor, List.append_assoc, hnext]
      constructor
      · exact ((stepsPassed_append place 0 0 done _).trans (by rw [Nat.zero_add, stepsPassed])).symm
      · refine (stepsSettled_append 0).mpr ⟨hdone, ?_⟩
        rw [StepsSettled]
        exact ⟨⟨hsettled', hpending'⟩, hfresh⟩
    | ok u =>
      rw [ha] at hadvances
      obtain ⟨hnext, hfinished⟩ := hadvances
      obtain ⟨hsettledRest, hpassedRest⟩ := stepsSettled_of_fresh hfresh
      rw [passed, Settled, PlanNode.cursor_attempt_of_ok ha, hcursor, List.append_assoc, hnext,
        stepsPassed_append, stepsSettled_append, stepsPassed, StepsSettled, hpassedRest,
        List.append_nil, Nat.zero_add, leaves_of_reset_eq hreset]
      exact ⟨rfl, hdone, hfinished, hsettledRest⟩

end Plan

/-! ## Histories -/

variable [Cancellable W] [Elapsing W]

namespace Request

open Call (committed)

variable {p : Plan W}

theorem reset_run (q : Request W) (p : Plan W) : (q.run p).plan.reset = p.reset := by
  obtain ⟨entry, s, b, w⟩ := q
  cases entry with
  | invoke => exact Plan.reset_invoke s b w p
  | invokeWithInput input => exact Plan.reset_invoke s (b.withInput input) w p
  | invokeNextStep => exact p.reset_invokeNextStep s b w
  | runNextStep given => exact p.reset_invokeNextStep s given w

/-- A run to the end that succeeds passes all the leaves that are left. -/
theorem finishes (q : Request W) (hunmixed : p.Unmixed) (hsettled : p.Settled)
    (htoEnd : q.entry.toEnd = true) (hok : (q.run p).result = .ok ()) :
    p.passed [] ++ committed (q.journal p) = p.leaves [] ∧ (q.run p).plan.Finished := by
  rw [journal_eq_calls]
  obtain ⟨entry, s, b, w⟩ := q
  cases entry with
  | invoke =>
    have hadvances := p.advances_invoke s b w [] hunmixed hsettled
    rwa [show (p.invoke s b w).result = .ok () from hok] at hadvances
  | invokeWithInput input =>
    have hadvances := p.advances_invoke s (b.withInput input) w [] hunmixed hsettled
    rwa [show (p.invoke s (b.withInput input) w).result = .ok () from hok] at hadvances
  | invokeNextStep => cases htoEnd
  | runNextStep given => cases htoEnd

/-- Every run goes on where the cursors stand, and leaves them where it stopped. -/
theorem advances (q : Request W) (hroot : p.node.function = none) (hunmixed : p.Unmixed)
    (hsettled : p.Settled) :
    p.passed [] ++ committed (q.journal p) = (q.run p).plan.passed [] ∧
      (q.run p).plan.Settled := by
  have hroot' : (q.run p).plan.node.function = none :=
    (Plan.function_of_reset_eq (q.reset_run p)).trans hroot
  have htoEnd : ∀ s b w, q.run p = p.invoke s b w → q.calls p = p.calls s b w [] →
      q.entry.toEnd = true → p.passed [] ++ committed (q.journal p) = (q.run p).plan.passed [] ∧
        (q.run p).plan.Settled := by
    intro s b w hrun hcalls hq
    cases hresult : (q.run p).result with
    | ok u =>
      -- a plan that is finished is settled too
      obtain ⟨hpassed, hfinished⟩ := q.finishes hunmixed hsettled hq hresult
      obtain ⟨hsettled', hall⟩ := hfinished.settled hroot'
      rw [hall, Plan.leaves_of_reset_eq (q.reset_run p)]
      exact ⟨hpassed, hsettled'⟩
    | error e =>
      have hadvances := p.advances_invoke s b w [] hunmixed hsettled
      rw [← hrun, ← hcalls, hresult] at hadvances
      rw [journal_eq_calls]
      exact ⟨hadvances.1, hadvances.2.1⟩
  obtain ⟨entry, s, b, w⟩ := q
  cases entry with
  | invoke => exact htoEnd s b w rfl rfl rfl
  | invokeWithInput input => exact htoEnd s (b.withInput input) w rfl rfl rfl
  | invokeNextStep =>
    rw [journal_eq_calls]
    exact Plan.advances_invokeNextStep hunmixed hsettled s b w []
  | runNextStep given =>
    rw [journal_eq_calls]
    exact Plan.advances_invokeNextStep hunmixed hsettled s given w []

end Request

namespace Plan

open Call (committed)

/-- What one run preserves, any number of runs preserve. -/
theorem advances_history {p : Plan W} (hroot : p.node.function = none) (hunmixed : p.Unmixed)
    (hsettled : p.Settled) (qs : List (Request W)) :
    p.passed [] ++ committed (p.history qs) = (p.after qs).passed [] ∧ (p.after qs).Settled ∧
      (p.after qs).reset = p.reset := by
  induction qs generalizing p with
  | nil => exact ⟨List.append_nil _, hsettled, rfl⟩
  | cons q rest ih =>
    obtain ⟨hpassed, hsettled'⟩ := q.advances hroot hunmixed hsettled
    have hreset := q.reset_run p
    have hroot' : (q.run p).plan.node.function = none := (function_of_reset_eq hreset).trans hroot
    obtain ⟨hrest, hsettled'', hreset'⟩ := ih hroot' (hunmixed.of_reset_eq hreset) hsettled'
    refine ⟨?_, hsettled'', hreset'.trans hreset⟩
    rw [history, Call.committed_append, ← List.append_assoc, hpassed, hrest, after]

/-- Runs write states and cursors only, however many there are. -/
theorem reset_after (p : Plan W) (qs : List (Request W)) : (p.after qs).reset = p.reset := by
  induction qs generalizing p with
  | nil => rfl
  | cons q rest ih => exact (ih _).trans (q.reset_run p)

theorem after_concat (p : Plan W) (qs : List (Request W)) (q : Request W) :
    p.after (qs ++ [q]) = (q.run (p.after qs)).plan ∧
      p.history (qs ++ [q]) = p.history qs ++ q.journal (p.after qs) := by
  induction qs generalizing p with
  | nil => exact ⟨rfl, List.append_nil _⟩
  | cons first rest ih =>
    obtain ⟨hafter, hhistory⟩ := ih (first.run p).plan
    exact ⟨hafter, by rw [List.cons_append, history, hhistory, history, after, List.append_assoc]⟩

/-- However a fresh plan is run, the calls that succeed are those of its first leaves, from left to
    right and each once, and the cursors stand exactly behind these leaves. When a run to the end
    succeeds, these are all the leaves, and every cursor stands behind the last step. -/
theorem commits_in_order {p : Plan W} (hroot : p.node.function = none) (hunmixed : p.Unmixed)
    (hfresh : p.Fresh) (qs : List (Request W)) :
    committed (p.history qs) <+: p.leaves [] ∧ (committed (p.history qs)).Nodup ∧
      (p.after qs).passed [] = committed (p.history qs) ∧ (p.after qs).Settled ∧
      ∀ q : Request W, q.entry.toEnd = true → (q.run (p.after qs)).result = .ok () →
        committed (p.history (qs ++ [q])) = p.leaves [] ∧ (p.after (qs ++ [q])).Finished := by
  obtain ⟨hsettled, -, hpassed⟩ := hfresh.settled
  obtain ⟨hhistory, hsettled', hreset⟩ := advances_history hroot hunmixed hsettled qs
  rw [hpassed, List.nil_append] at hhistory
  -- nothing had been passed before, and what has been passed now are the first leaves
  have hstarts : committed (p.history qs) <+: p.leaves [] := by
    rw [hhistory, ← leaves_of_reset_eq hreset]
    exact passed_isPrefix [] _
  refine ⟨hstarts, (nodup_leaves [] p).sublist hstarts.sublist, hhistory.symm, hsettled', ?_⟩
  intro q htoEnd hok
  obtain ⟨hall, hfinished⟩ := q.finishes (hunmixed.of_reset_eq hreset) hsettled' htoEnd hok
  obtain ⟨hafter, hconcat⟩ := after_concat p qs q
  rw [hafter, hconcat, Call.committed_append, hhistory, hall, leaves_of_reset_eq hreset]
  exact ⟨rfl, hfinished⟩

/-- A run that fails at the second leaf, a step that finishes the inner plan, and a run to the end
    that finds nothing left to do. -/
theorem commits_in_order_nested :
    let qs : List (Request Fuse) := [⟨.invoke, {}, ∅, ⟨true⟩⟩, ⟨.runNextStep ∅, {}, ∅, ⟨false⟩⟩]
    let p := Fuse.nested
    committed (p.history qs) <+: p.leaves [] ∧ (committed (p.history qs)).Nodup ∧
      (p.after qs).passed [] = committed (p.history qs) ∧ (p.after qs).Settled ∧
      ∀ q : Request Fuse, q.entry.toEnd = true → (q.run (p.after qs)).result = .ok () →
        committed (p.history (qs ++ [q])) = p.leaves [] ∧ (p.after (qs ++ [q])).Finished := by
  intro qs p
  have hunmixed : p.Unmixed := by
    refine .ofSteps (.inl rfl) (List.forall_mem_singleton.mpr (.ofSteps (.inl rfl) ?_))
    exact List.forall_mem_cons.mpr ⟨.ofSteps (.inr rfl) nofun,
      List.forall_mem_singleton.mpr (.ofSteps (.inr rfl) nofun)⟩
  have hfresh : p.Fresh := by
    refine .ofSteps rfl (List.forall_mem_singleton.mpr (.ofSteps rfl ?_))
    exact List.forall_mem_cons.mpr ⟨.ofSteps rfl nofun,
      List.forall_mem_singleton.mpr (.ofSteps rfl nofun)⟩
  exact commits_in_order rfl hunmixed hfresh qs

end Plan

end SkillPlan

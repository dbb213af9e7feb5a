import SkillPlan.Proofs.Plan.Succeeding

/-!
# One step at its own node

A step that succeeds moves the cursor of its plan on by one and writes its result into the state,
under the main value and its output names; one that fails leaves the node of its plan alone. Either
way no other step of the plan is touched.
-/

namespace SkillPlan

open Text (fold)

variable {W : Type}

/-! ## What a step does to the node above it -/

namespace PlanNode

/-- The node `n'` is `n` after a step has come to the result `text`: the result stands as the main
    value and under the output names of the step, where names that are new come last, and the cursor
    is one further on. -/
structure Takes (n step : PlanNode W) (text : String) (n' : PlanNode W) : Prop where
  cursor : n'.cursor = n.cursor + 1
  value : ∀ key, n'.state.get? key =
    if Bag.isInput key ∨ step.outputs.contains key then some text else n.state.get? key
  keys : n'.state.keys = n.state.keys ++
    (Bag.inputKey :: step.outputs.keys.filter (!Bag.isInput ·)).filter (!n.state.contains ·)
  rest : n'.reset = n.reset

/-- A name is written by a step when it is one of its output names and not that of the main
    value. -/
theorem mem_writes_iff {step : PlanNode W} {key : String} :
    fold key ∈ step.writes ↔ step.outputs.contains key = true ∧ Bag.isInput key = false := by
  rw [writes, List.mem_map, Bag.contains_iff_mem_keys, List.mem_map]
  constructor
  · rintro ⟨name, hname, hfold⟩
    obtain ⟨hmem, hinput⟩ := List.mem_filter.mp hname
    refine ⟨⟨name, hmem, hfold⟩, ?_⟩
    rw [Bag.isInput, Text.sameName, ← hfold]
    simpa [Bag.isInput, Text.sameName] using hinput
  · rintro ⟨⟨name, hmem, hfold⟩, hinput⟩
    refine ⟨name, List.mem_filter.mpr ⟨hmem, ?_⟩, hfold⟩
    rw [Bag.isInput, Text.sameName, hfold]
    simpa [Bag.isInput, Text.sameName] using hinput

/-- The output names of a step and the name of the main value are names of different variables. -/
theorem nodup_written (step : PlanNode W) :
    ((Bag.inputKey :: step.outputs.keys.filter (!Bag.isInput ·)).map fold).Nodup := by
  rw [List.map_cons, List.nodup_cons, Bag.fold_inputKey]
  refine ⟨step.inputKey_not_mem_writes, ?_⟩
  have hkeys : (step.outputs.keys.map fold).Nodup := by
    rw [Bag.keys, List.map_map]
    exact step.outputs.distinct
  exact hkeys.sublist (List.filter_sublist.map fold)

theorem takes_commit (n step : PlanNode W) (result : String) :
    n.Takes step (Text.trim result) (n.commit step result) where
  cursor := rfl
  value key := by
    rw [get?_state_commit]
    congr 1
    rw [mem_writes_iff, ← Bag.isInput_iff, eq_iff_iff]
    cases Bag.isInput key <;> simp
  keys := Bag.keys_foldl_set _ _ n.state (nodup_written step)
  rest := rfl

end PlanNode

/-! ## One step -/

namespace Plan

variable [Cancellable W] [Elapsing W]

/-- A run of a plan that fails and has no steps, or calls a function, leaves the plan as it is. -/
theorem plan_invoke_of_error {step : Plan W} (hleaf : step.steps = [] ∨ step.node.function ≠ none)
    {s : Services W} {b : Bag} {w : W} {e : Error} (hfail : (step.invoke s b w).result = .error e) :
    (step.invoke s b w).plan = step := by
  obtain ⟨node, steps⟩ := step
  rw [invoke] at hfail ⊢
  cases hf : node.function with
  | none =>
    have hsteps : steps = [] := hleaf.resolve_right (not_not_intro hf)
    rw [hf, hsteps, invokeSteps] at hfail
    cases hfail
  | some f => simp only [plan_call]

/-- The result of a step that calls a function is what the function answers. -/
theorem answer_of_invoke_ok {step : Plan W} {f : SkillFunction W} (hf : step.node.function = some f)
    {s : Services W} {b : Bag} {w : W} (hok : (step.invoke s b w).result = .ok ()) :
    (f.invoke s b w).1 = .ok (step.invoke s b w).caller.input := by
  obtain ⟨node, steps⟩ := step
  have hfunction : node.function = some f := hf
  simp only [invoke, hfunction, call] at hok ⊢
  cases hanswer : f.invoke s b w with
  | mk answer w' =>
    rw [hanswer] at hok
    cases answer with
    | error e => cases hok
    | ok text => rw [Bag.input_withInput]

/-- An attempt that fails leaves a step without steps, or with a function, as it is. -/
theorem step_attempt_of_error {n : PlanNode W} {step : Plan W}
    (hleaf : step.steps = [] ∨ step.node.function ≠ none) {s : Services W} {b : Bag} {w : W}
    {e : Error} (hfail : (n.attempt step b w fun b w => step.invoke s b w).result = .error e) :
    (n.attempt step b w fun b w => step.invoke s b w).step = step := by
  have houtcome := n.attempt_outcome step b w fun b w => step.invoke s b w
  generalize n.attempt step b w _ = a at houtcome hfail
  cases houtcome with
  | cancelled => rfl
  | notBound => rfl
  | failed _ _ ran hran e' h =>
    subst hran
    exact plan_invoke_of_error hleaf h
  | done => cases hfail

/-- Where no step is left nothing happens. -/
theorem invokeNextStep_eq_self {p : Plan W} (hnone : p.hasNextStep = false) (s : Services W)
    (b : Bag) (w : W) : p.invokeNextStep s b w = ⟨.ok (), p, b, w⟩ := by
  rw [invokeNextStep, List.getElem?_eq_none (hasNextStep_eq_false_iff.mp hnone)]

/-- A step that fails leaves the node above it as it is. -/
theorem node_invokeNextStep_of_error {p : Plan W} {s : Services W} {b : Bag} {w : W} {e : Error}
    (hfail : (p.invokeNextStep s b w).result = .error e) :
    (p.invokeNextStep s b w).plan.node = p.node := by
  rw [invokeNextStep] at hfail ⊢
  split at hfail
  · rfl
  · exact PlanNode.node_attempt_of_error hfail

/-- A step that succeeds has run, its result is left in the node above it, and what it left of itself
    is put back in its place. -/
theorem invokeNextStep_of_ok {p : Plan W} (hnext : p.hasNextStep = true) {s : Services W} {b : Bag}
    {w : W} (hok : (p.invokeNextStep s b w).result = .ok ()) :
    ∃ step, p.steps[p.node.cursor]? = some step ∧
      let ran := step.invoke s (p.node.stepVariables b step) (Elapsing.elapse w)
      ran.result = .ok () ∧ p.invokeNextStep s b w =
        ⟨.ok (), ⟨p.node.commit step.node ran.caller.input, p.steps.set p.node.cursor ran.plan⟩, b,
          ran.world⟩ := by
  obtain ⟨step, hstep⟩ := exists_next_step hnext
  simp only [invokeNextStep, hstep] at hok ⊢
  obtain ⟨ran, hran, hran', hattempt, -⟩ := PlanNode.attempt_of_ok hok
  subst hran
  rw [hattempt]
  exact ⟨step, rfl, hran', rfl⟩

/-- A step that succeeds leaves its result in the node above it. -/
theorem commit_of_invokeNextStep_ok {p : Plan W} (hnext : p.hasNextStep = true) {s : Services W}
    {b : Bag} {w : W} (hok : (p.invokeNextStep s b w).result = .ok ()) :
    ∃ step result, (p.invokeNextStep s b w).plan.node = p.node.commit step result ∧
      (p.invokeNextStep s b w).plan.steps.length = p.steps.length := by
  obtain ⟨step, -, -, hplan⟩ := invokeNextStep_of_ok hnext hok
  rw [hplan]
  exact ⟨_, _, rfl, List.length_set⟩

/-! ## Runs to the end, one step after the other -/

/-- Where no step is left a run to the end does nothing. -/
theorem invoke_eq_self {p : Plan W} (hroot : p.node.function = none)
    (hnone : p.hasNextStep = false) (s : Services W) (b : Bag) (w : W) :
    p.invoke s b w = ⟨.ok (), p, b, w⟩ := by
  have hlength := hasNextStep_eq_false_iff.mp hnone
  rw [invoke_eq_behindAll hroot, List.drop_of_length_le hlength, List.take_of_length_le hlength,
    invokeSteps, Run.behindAll, List.append_nil]
  cases p
  rfl

/-- What holds of plans with a function and of those without a step left, and of a plan if it holds
    of what its next step leaves when it succeeds, holds of every plan. -/
theorem invoke_induction {s : Services W} {P : Plan W → Bag → W → Prop}
    (call : ∀ p f b w, p.node.function = some f → P p b w)
    (done : ∀ p b w, p.node.function = none → p.hasNextStep = false → P p b w)
    (next : ∀ (p : Plan W) (b : Bag) (w : W), p.node.function = none → p.hasNextStep = true →
      (let given := b.mergeMissing p.node.state
       let r := p.invokeNextStep s given w
       r.result = .ok () → P r.plan (given.withInput r.plan.node.state.input) r.world) → P p b w)
    (p : Plan W) (b : Bag) (w : W) : P p b w := by
  -- the cursor moves on with every step
  obtain ⟨left, hleft⟩ : ∃ left, p.steps.length - p.node.cursor = left := ⟨_, rfl⟩
  induction left generalizing p b w with
  | zero =>
    have hnone : p.hasNextStep = false := hasNextStep_eq_false_iff.mpr (by omega)
    cases hf : p.node.function with
    | some f => exact call p f b w hf
    | none => exact done p b w hf hnone
  | succ left ih =>
    have hnext : p.hasNextStep = true := hasNextStep_iff.mpr (by omega)
    cases hf : p.node.function with
    | some f => exact call p f b w hf
    | none =>
      refine next p b w hf hnext fun hok => ih _ _ _ ?_
      obtain ⟨step, result, hnode, hlength⟩ := commit_of_invokeNextStep_ok hnext hok
      have hcursor : (p.node.commit step result).cursor = p.node.cursor + 1 := rfl
      rw [hnode, hlength, hcursor]
      omega

/-! ## All or nothing -/

/-- One step is all or nothing at its own node. Where no step is left nothing happens. Otherwise no
    other step changes; on success the node has taken the result of the step, which for a function
    is its answer, and on failure the node is as it was, and so is the step unless it is a plan with
    steps of its own. -/
theorem invokeNextStep_atomic (p : Plan W) (s : Services W) (b : Bag) (w : W) :
    let r := p.invokeNextStep s b w
    (p.hasNextStep = false → r = ⟨.ok (), p, b, w⟩) ∧
      (p.hasNextStep = true → ∃ step, p.steps[p.node.cursor]? = some step ∧
        r.plan.steps.length = p.steps.length ∧
        (∀ i ≠ p.node.cursor, r.plan.steps[i]? = p.steps[i]?) ∧
        (r.result = .ok () →
          let ran := step.invoke s (p.node.stepVariables b step) (Elapsing.elapse w)
          ran.result = .ok () ∧ r.plan.steps[p.node.cursor]? = some ran.plan ∧
            (∀ f, step.node.function = some f →
              (f.invoke s (p.node.stepVariables b step) (Elapsing.elapse w)).1 =
                .ok ran.caller.input) ∧
            p.node.Takes step.node (Text.trim ran.caller.input) r.plan.node) ∧
        ∀ e, r.result = .error e → r.plan.node = p.node ∧
          (step.steps = [] ∨ step.node.function ≠ none → r.plan = p)) := by
  refine ⟨fun hnone => invokeNextStep_eq_self hnone s b w, fun hnext => ?_⟩
  have hlt : p.node.cursor < p.steps.length := by simpa [hasNextStep] using hnext
  obtain ⟨step, hstep⟩ : ∃ step, p.steps[p.node.cursor]? = some step :=
    ⟨_, List.getElem?_eq_getElem hlt⟩
  simp only [invokeNextStep, hstep]
  refine ⟨step, rfl, List.length_set, fun i hi => List.getElem?_set_ne (Ne.symm hi), ?_, ?_⟩
  · intro hok
    obtain ⟨ran, hran, hran', hattempt, -⟩ := PlanNode.attempt_of_ok hok
    subst hran
    rw [hattempt]
    exact ⟨hran', List.getElem?_set_self hlt, fun f hf => answer_of_invoke_ok hf hran',
      p.node.takes_commit step.node _⟩
  · intro e hfail
    have hnode := PlanNode.node_attempt_of_error hfail
    refine ⟨hnode, fun hleaf => ?_⟩
    rw [hnode, step_attempt_of_error hleaf hfail]
    -- the step is put back in its own place
    obtain ⟨_, hget⟩ := List.getElem?_eq_some_iff.mp hstep
    rw [← hget, List.set_getElem_self]
    cases p
    rfl

/-- The inner plan of a step that fails keeps what it has done, and the node above it is as it
    was. -/
theorem invokeNextStep_atomic_nested :
    let r := Fuse.nested.invokeNextStep {} ∅ ⟨true⟩
    (∃ e, r.result = .error e) ∧ r.plan.node = Fuse.nested.node ∧
      (r.plan.steps.map (·.node.cursor)) = [1] := by
  obtain ⟨-, hnext⟩ := invokeNextStep_atomic Fuse.nested {} ∅ ⟨true⟩
  obtain ⟨step, -, -, -, -, hfail⟩ := hnext rfl
  exact ⟨⟨_, rfl⟩, (hfail _ rfl).1, rfl⟩

end Plan

end SkillPlan

import SkillPlan.Proofs.Plan.Calls
import SkillPlan.Proofs.Plan.Handing
import SkillPlan.Proofs.Plan.Reliable

/-!
# Running to the end and step by step

A run to the end keeps one set of variables, into which it copies the state before each step; a run
of single steps starts every step with the variables that it is given. From empty variables the two
come to the same as long as no step reads a stale name, one that an earlier step has written over.
-/

namespace SkillPlan

variable {W : Type}

namespace Plan

/-- No step reads a name that is stale when the steps before it have run. `stale` are the names that
    are stale before the first of them and `held` those that the state holds. -/
def ReadsFresh (given stale held : List String) : List (Plan W) → Prop
  | [] => True
  | step :: rest =>
    (∀ name ∈ step.node.reads, name ∉ stale) ∧
      ReadsFresh given (stale ++ step.node.spoils given held) (held ++ step.node.writes) rest

/-- No step that is left reads a name that an earlier one of them writes over. -/
def RunsFresh (p : Plan W) : Prop :=
  ReadsFresh [] [] p.node.state.names (p.steps.drop p.node.cursor)

instance decidableReadsFresh (given : List String) :
    ∀ (stale held : List String) (steps : List (Plan W)),
      Decidable (ReadsFresh given stale held steps)
  | _, _, [] => .isTrue trivial
  | stale, held, step :: rest =>
    have := decidableReadsFresh given (stale ++ step.node.spoils given held)
      (held ++ step.node.writes) rest
    inferInstanceAs (Decidable (_ ∧ _))

instance (p : Plan W) : Decidable p.RunsFresh := inferInstanceAs (Decidable (ReadsFresh _ _ _ _))

theorem readsFresh_recordedSteps {given stale held : List String} {leaf : List Nat} {i : Nat}
    {steps : List (Plan W)} (h : ReadsFresh given stale held steps) :
    ReadsFresh given stale held (recordedSteps leaf i steps) := by
  induction steps generalizing stale held i with
  | nil => trivial
  | cons step rest ih =>
    have hreads : (step.recorded (leaf ++ [i])).node.reads = step.node.reads := by
      rw [node_recorded, PlanNode.reads, PlanNode.lookups, PlanNode.view_recorded]
      rfl
    have hwrites : (step.recorded (leaf ++ [i])).node.writes = step.node.writes := by
      rw [node_recorded]
      rfl
    rw [recordedSteps, ReadsFresh, PlanNode.spoils, hreads, hwrites]
    exact ⟨h.1, ih h.2⟩

theorem runsFresh_recorded {p : Plan W} (h : p.RunsFresh) (leaf : List Nat) :
    (p.recorded leaf).RunsFresh := by
  rw [RunsFresh, recorded_eq]
  change ReadsFresh [] [] p.node.state.names ((recordedSteps leaf 0 p.steps).drop p.node.cursor)
  rw [drop_recordedSteps]
  exact readsFresh_recordedSteps h

end Plan

namespace Plan

variable [Cancellable W] [Elapsing W]

/-- Runs one step after the other, each with the same variables, while one is left and none fails,
    but at most `count` of them. -/
def stepThrough (given : Bag) (s : Services W) (b : Bag) : Nat → Plan W → W → Run W
  | 0, p, w => ⟨.ok (), p, b, w⟩
  | count + 1, p, w =>
    if p.hasNextStep then
      let r := p.runNextStep given s b w
      match r.result with
      | .error _ => r
      | .ok () => stepThrough given s b count r.plan r.world
    else ⟨.ok (), p, b, w⟩

/-- The calls that running step by step makes, in order. -/
def stepJournal (p : Plan W) (given : Bag) (s : Services W) (b : Bag) (count : Nat) (w : W) :
    List Call :=
  ((p.recorded []).stepThrough given s.recorded b count ⟨w, []⟩).world.calls

/-- With the cursor at the first of some steps, running them step by step is running them all. -/
theorem stepThrough_append (s : Services W) (caller : Bag) {steps : List (Plan W)}
    {n : PlanNode W} {done : List (Plan W)} {b : Bag} {stale held : List String} {w : W}
    {count : Nat} (hcount : steps.length ≤ count) (hcursor : n.cursor = done.length)
    (hfollows : Follows ∅ stale held n (b.mergeMissing n.state))
    (hinput : (b.mergeMissing n.state).get? Bag.inputKey = n.state.get? Bag.inputKey)
    (hstale : Bag.inputKey ∉ stale) (hfresh : ReadsFresh (∅ : Bag).names stale held steps) :
    stepThrough ∅ s caller count ⟨n, done ++ steps⟩ w =
      { (invokeSteps s n 0 b w steps).behindAll done with caller := caller } := by
  induction steps generalizing n done b stale held w count with
  | nil =>
    rw [List.append_nil, invokeSteps, Run.behindAll, List.append_nil]
    cases count with
    | zero => rfl
    | succ count =>
      have hnone : hasNextStep ⟨n, done⟩ = false := by simp [hasNextStep, hcursor]
      rw [stepThrough, hnone]
      rfl
  | cons step rest ih =>
    obtain ⟨count, rfl⟩ := Nat.exists_eq_add_of_le' (Nat.one_le_of_lt hcount)
    obtain ⟨hreads, hfresh⟩ := hfresh
    have hnext : hasNextStep ⟨n, done ++ step :: rest⟩ = true := by
      simp [hasNextStep, hcursor]
    -- the variables of the run to the end hold the state, up to names that the step does not read
    have hagree : (b.mergeMissing n.state).AgreeOff stale ((∅ : Bag).mergeMissing n.state) := by
      refine hfollows.agree.of_input ?_
      rw [hinput, Bag.get?_mergeMissing]
      rfl
    have hhanded : n.stepVariables ∅ step = n.stepVariables (b.mergeMissing n.state) step := by
      rw [← PlanNode.stepVariables_mergeMissing n ∅]
      exact (PlanNode.stepVariables_agree hagree hstale hreads).symm
    rw [stepThrough, if_pos hnext, runNextStep, invokeNextStep_append hcursor,
      PlanNode.attempt_congr hhanded, invokeSteps]
    have houtcome := n.attempt_outcome step (b.mergeMissing n.state) w
      fun b w => step.invoke s b w
    generalize n.attempt step (b.mergeMissing n.state) w _ = a at houtcome
    cases houtcome with
    | cancelled => rfl
    | notBound => rfl
    | failed => rfl
    | done _ _ r _ _ =>
      have hstale' : Bag.inputKey ∉ stale ++ step.node.spoils (∅ : Bag).names held := by
        rw [List.mem_append]
        exact not_or.mpr ⟨hstale, step.node.inputKey_not_mem_spoils _ _⟩
      -- the step and what it left belong to the steps that have been done
      have hcursor' : (n.commit step.node r.caller.input).cursor = (done ++ [r.plan]).length := by
        rw [List.length_append, ← hcursor]
        rfl
      have hrest := ih (w := r.world) (Nat.le_of_succ_le_succ hcount) hcursor'
        (hfollows.commit step.node r.caller.input _)
        (PlanNode.get?_inputKey_commit n step.node r.caller.input _) hstale' hfresh
      rw [List.append_assoc] at hrest
      simp only
      rw [List.singleton_append] at hrest
      rw [hrest]
      simp [Run.behindAll, Run.behind]

/-- Running step by step from empty variables is running to the end from empty variables, whatever
    the functions do, if no step reads a stale name. -/
theorem stepThrough_eq_invoke {p : Plan W} (hroot : p.node.function = none) (hfresh : p.RunsFresh)
    (s : Services W) (caller : Bag) (w : W) :
    p.stepThrough ∅ s caller p.steps.length w = { p.invoke s ∅ w with caller := caller } := by
  rw [invoke_eq_behindAll hroot]
  obtain ⟨node, steps⟩ := p
  have hstart : Follows ∅ [] node.state.names node ((∅ : Bag).mergeMissing node.state) :=
    Follows.start ∅ node
  have hinput : ((∅ : Bag).mergeMissing node.state).get? Bag.inputKey =
      node.state.get? Bag.inputKey := by
    rw [Bag.get?_mergeMissing]
    rfl
  by_cases hle : node.cursor ≤ steps.length
  · have hcursor : node.cursor = (steps.take node.cursor).length :=
      (List.length_take_of_le hle).symm
    have hcount : (steps.drop node.cursor).length ≤ steps.length := by
      rw [List.length_drop]
      exact Nat.sub_le _ _
    have hrun := stepThrough_append s caller (w := w) hcount hcursor hstart hinput
      List.not_mem_nil hfresh
    rwa [List.take_append_drop] at hrun
  · -- a cursor past the end leaves nothing to run either way
    have hlt : steps.length ≤ node.cursor := Nat.le_of_not_le hle
    have hnone : hasNextStep ⟨node, steps⟩ = false := decide_eq_false (Nat.not_lt.mpr hlt)
    simp only [List.drop_eq_nil_of_le hlt, List.take_of_length_le hlt, invokeSteps, Run.behindAll,
      List.append_nil]
    cases steps.length with
    | zero => rfl
    | succ count =>
      rw [stepThrough, hnone]
      rfl

/-- A reliable plan that reads no stale name comes to the same when it is run to its end and when it
    is run step by step until no step is left: the same functions are called in the same order with
    the same variables, and the same plan is left behind. -/
theorem stepThrough_agrees_of_runsFresh {good : W → Prop} (hcalm : Calm good) {p : Plan W}
    (hroot : p.node.function = none) (hreliable : p.Reliable good) (hfresh : p.RunsFresh)
    (s : Services W) {w : W} (hw : good w) :
    (p.invoke s ∅ w).result = .ok () ∧
      (p.stepThrough ∅ s ∅ p.steps.length w).result = .ok () ∧
      (p.stepThrough ∅ s ∅ p.steps.length w).plan.hasNextStep = false ∧
      (p.stepThrough ∅ s ∅ p.steps.length w).plan = (p.invoke s ∅ w).plan ∧
      p.stepJournal ∅ s ∅ p.steps.length w = p.journal s ∅ w := by
  have hok := (invoke_reliable hcalm s ∅ hw p hreliable).1
  have hroot' : (p.recorded []).node.function = none := by
    rw [node_recorded, PlanNode.recorded, hroot, Option.map_none]
  have hlength : p.steps.length = (p.recorded []).steps.length := by
    rw [recorded_eq, length_recordedSteps]
  rw [stepThrough_eq_invoke hroot hfresh]
  refine ⟨hok, hok, hasNextStep_invoke hroot hok, rfl, ?_⟩
  rw [stepJournal, hlength, stepThrough_eq_invoke hroot' (runsFresh_recorded hfresh []), journal]

/-- The step that answers a text, which is kept under a name. -/
def writing (text name : String) : Plan Machine :=
  let f := .ofText { collection := "sample", name := "write" } fun _ => text
  ⟨((PlanNode.ofGoal "").bind f).withOutput name, []⟩

/-- The step that answers the value under a name. -/
def reading (name : String) : Plan Machine :=
  let view := { collection := "sample", name := "read", parameters := [{ name := name }] }
  .ofFunction (.ofText view fun b => (b.get? name).getD "")

/-- Two outputs under different names, the first of which is read. -/
def writtenOnce : Plan Machine :=
  ⟨.ofGoal "goal", [writing "one" "x", writing "two" "y", reading "x"]⟩

/-- Two outputs under the same name, which is read. -/
def writtenTwice : Plan Machine :=
  ⟨.ofGoal "goal", [writing "one" "x", writing "two" "x", reading "x"]⟩

theorem reliable_writtenOnce : writtenOnce.Reliable Machine.IsRunning := by
  refine .ofSteps nofun fun step hstep => ?_
  simp only [writtenOnce, List.mem_cons, List.not_mem_nil, or_false] at hstep
  obtain rfl | rfl | rfl := hstep <;> exact ⟨rfl, .ofText rfl⟩

theorem stepThrough_agrees_writtenOnce :
    (writtenOnce.invoke {} ∅ {}).result = .ok () ∧
      (writtenOnce.stepThrough ∅ {} ∅ 3 {}).result = .ok () ∧
      (writtenOnce.stepThrough ∅ {} ∅ 3 {}).plan.hasNextStep = false ∧
      (writtenOnce.stepThrough ∅ {} ∅ 3 {}).plan = (writtenOnce.invoke {} ∅ {}).plan ∧
      writtenOnce.stepJournal ∅ {} ∅ 3 {} = writtenOnce.journal {} ∅ {} :=
  stepThrough_agrees_of_runsFresh Machine.calm_isRunning rfl reliable_writtenOnce (by decide) {}
    (w := {}) rfl

/-- A name that is written twice: the run to the end hands the first output to the step that reads
    it, the run step by step the second one. -/
theorem stepThrough_disagrees_writtenTwice :
    writtenTwice.node.function = none ∧ writtenTwice.Reliable Machine.IsRunning ∧
      writtenTwice.Steady ∧
      (writtenTwice.stepThrough ∅ {} ∅ 3 {}).plan.hasNextStep = false ∧
      (writtenTwice.stepThrough ∅ {} ∅ 3 {}).plan ≠ (writtenTwice.invoke {} ∅ {}).plan ∧
      writtenTwice.stepJournal ∅ {} ∅ 3 {} ≠ writtenTwice.journal {} ∅ {} := by
  have hsteps : ∀ step ∈ writtenTwice.steps,
      step.isUnbound = false ∧ step.Reliable Machine.IsRunning ∧ step.Steady := by
    intro step hstep
    simp only [writtenTwice, List.mem_cons, List.not_mem_nil, or_false] at hstep
    obtain rfl | rfl | rfl := hstep <;> exact ⟨rfl, .ofText rfl, Steady.ofText rfl⟩
  -- plans hold functions and cannot be compared, but the main values that are left can
  refine ⟨rfl, .ofSteps nofun fun step h => ⟨(hsteps step h).1, (hsteps step h).2.1⟩,
    .ofSteps nofun fun step h => (hsteps step h).2.2, by decide, ?_, ?_⟩
  · intro h
    exact absurd (congrArg (·.node.state.input) h) (by decide)
  · intro h
    have hread : (writtenTwice.stepJournal ∅ {} ∅ 3 {}).map (·.given) ≠
        (writtenTwice.journal {} ∅ {}).map (·.given) := by decide +kernel
    exact hread (congrArg _ h)

end Plan

end SkillPlan

import SkillPlan.Plan.Run

/-!
# Calls of a run

Which functions a run calls, where in the plan, with which variables and with what answer. The
executor does not ask what the world is, so a world that keeps a journal of the calls is handed to
it: every function of a plan is replaced by one that writes itself down, together with the place of
its leaf, and then does what it did before. `invoke_recorded` says that nothing else changes, and
gives the calls as a recursion over the plan.
-/

namespace SkillPlan

variable {W : Type}

/-- A call of the function of a leaf. The leaf is given by the positions on the way down to it. -/
structure Call where
  leaf : List Nat
  given : Bag
  answer : Except Error String

/-- Whether the call succeeded. -/
def Call.succeeded (c : Call) : Bool := c.answer.toBool

/-- A world together with the calls made in it. -/
structure Journal (W : Type) where
  world : W
  calls : List Call

instance [Cancellable W] : Cancellable (Journal W) := ⟨fun j => Cancellable.isCancelled j.world⟩

instance [Elapsing W] : Elapsing (Journal W) :=
  ⟨fun j => { j with world := Elapsing.elapse j.world }⟩

/-! ## Recording -/

/-- The backend in a world with a journal, in which it writes nothing down. -/
def Completion.Backend.recorded (c : Completion.Backend W) : Completion.Backend (Journal W) where
  name := c.name
  defaultModel := c.defaultModel
  complete r j :=
    let (answer, w) := c.complete r j.world
    (answer, { j with world := w })

/-- The backend in a world without the journal. -/
def Completion.Backend.plain (c : Completion.Backend (Journal W)) : Completion.Backend W where
  name := c.name
  defaultModel := c.defaultModel
  complete r w :=
    let (answer, j) := c.complete r ⟨w, []⟩
    (answer, j.world)

/-- The services in a world with a journal. -/
def Services.recorded (s : Services W) : Services (Journal W) where
  functions := s.functions
  completion := s.completion.map (·.recorded)

/-- The services in a world without the journal. -/
def Services.plain (s : Services (Journal W)) : Services W where
  functions := s.functions
  completion := s.completion.map (·.plain)

@[simp] theorem Services.plain_recorded (s : Services W) : s.recorded.plain = s := by
  cases s with
  | mk functions completion => cases completion <;> rfl

/-- The function of the leaf at a place, which writes its calls down. -/
def SkillFunction.recorded (leaf : List Nat) (f : SkillFunction W) : SkillFunction (Journal W) where
  view := f.view
  invoke s b j :=
    let (answer, w) := f.invoke s.plain b j.world
    (answer, ⟨w, j.calls ++ [⟨leaf, b, answer⟩]⟩)

/-- The node at a place, whose function writes its calls down. -/
def PlanNode.recorded (leaf : List Nat) (n : PlanNode W) : PlanNode (Journal W) where
  name := n.name
  collection := n.collection
  description := n.description
  state := n.state
  parameters := n.parameters
  outputs := n.outputs
  cursor := n.cursor
  function := n.function.map (·.recorded leaf)
  rationale := n.rationale

namespace Plan

mutual
/-- The plan at a place, whose functions write their calls down. -/
def recorded (leaf : List Nat) : Plan W → Plan (Journal W)
  | ⟨node, steps⟩ => ⟨node.recorded leaf, recordedSteps leaf 0 steps⟩

/-- The steps from a position on of the plan at a place. -/
def recordedSteps (leaf : List Nat) (i : Nat) : List (Plan W) → List (Plan (Journal W))
  | [] => []
  | step :: rest => step.recorded (leaf ++ [i]) :: recordedSteps leaf (i + 1) rest
end

end Plan

/-- What a run of the steps from a position on leaves behind, with the calls written down. -/
def Run.recorded (leaf : List Nat) (i : Nat) (calls : List Call) (r : Run W) : Run (Journal W) where
  result := r.result
  plan := ⟨r.plan.node.recorded leaf, Plan.recordedSteps leaf i r.plan.steps⟩
  caller := r.caller
  world := ⟨r.world, calls⟩

/-- What an attempt to run the step at a position leaves behind, with the calls written down. -/
def Attempt.recorded (leaf : List Nat) (i : Nat) (calls : List Call) (a : Attempt W) :
    Attempt (Journal W) where
  result := a.result
  node := a.node.recorded leaf
  step := a.step.recorded (leaf ++ [i])
  world := ⟨a.world, calls⟩

/-! ## Calls as a recursion -/

/-- The calls of an attempt to run a step; `calls` gives those of the step itself. -/
def PlanNode.attemptCalls [Cancellable W] [Elapsing W] (n : PlanNode W) (step : Plan W) (b : Bag)
    (w : W) (calls : Bag → W → List Call) : List Call :=
  let w := Elapsing.elapse w
  if Cancellable.isCancelled w then []
  else if step.isUnbound then []
  else calls (n.stepVariables b step) w

section

variable [Cancellable W] [Elapsing W] {n : PlanNode W} {step : Plan W} {b : Bag} {w : W}

theorem PlanNode.attemptCalls_of_cancelled
    (hcancelled : Cancellable.isCancelled (Elapsing.elapse w) = true)
    (calls : Bag → W → List Call) : n.attemptCalls step b w calls = [] := by
  rw [attemptCalls, if_pos hcancelled]

theorem PlanNode.attemptCalls_of_unbound (hunbound : step.isUnbound = true)
    (calls : Bag → W → List Call) : n.attemptCalls step b w calls = [] := by
  rw [attemptCalls, if_pos hunbound]
  exact ite_self _

theorem PlanNode.attemptCalls_of_live
    (hlive : Cancellable.isCancelled (Elapsing.elapse w) = false) (hbound : step.isUnbound = false)
    (calls : Bag → W → List Call) :
    n.attemptCalls step b w calls = calls (n.stepVariables b step) (Elapsing.elapse w) := by
  simp only [attemptCalls, hlive, hbound, Bool.false_eq_true, ↓reduceIte]

end

namespace Plan

variable [Cancellable W] [Elapsing W]

mutual
/-- The calls of a run to the end of the plan at a place. -/
def calls (s : Services W) (b : Bag) (w : W) (leaf : List Nat) : Plan W → List Call
  | ⟨node, steps⟩ =>
    match node.function with
    | some f => [⟨leaf, b, (f.invoke s b w).1⟩]
    | none => stepCalls s node node.cursor b w leaf 0 steps

/-- The calls of a run of the steps from position `i` on, after the first `skip` of them. -/
def stepCalls (s : Services W) (node : PlanNode W) (skip : Nat) (b : Bag) (w : W)
    (leaf : List Nat) (i : Nat) : List (Plan W) → List Call
  | [] => []
  | step :: rest =>
    match skip with
    | skip + 1 => stepCalls s node skip b w leaf (i + 1) rest
    | 0 =>
      let b := b.mergeMissing node.state
      let a := node.attempt step b w fun b w => step.invoke s b w
      node.attemptCalls step b w (fun b w => step.calls s b w (leaf ++ [i])) ++
        match a.result with
        | .error _ => []
        | .ok () =>
          stepCalls s a.node 0 (b.withInput a.node.state.input) a.world leaf (i + 1) rest
end

end Plan

/-! ## Recording changes nothing else -/

@[simp] theorem PlanNode.view_recorded (leaf : List Nat) (n : PlanNode W) :
    (n.recorded leaf).view = n.view := by
  unfold PlanNode.view PlanNode.recorded
  cases n.function <;> rfl

@[simp] theorem Plan.steps_isEmpty_recorded (leaf : List Nat) (p : Plan W) :
    (p.recorded leaf).steps.isEmpty = p.steps.isEmpty := by
  cases p with
  | mk node steps => cases steps <;> rfl

theorem Plan.recorded_eq (leaf : List Nat) (p : Plan W) :
    p.recorded leaf = ⟨p.node.recorded leaf, Plan.recordedSteps leaf 0 p.steps⟩ := by
  cases p
  rfl

theorem Plan.length_recordedSteps (leaf : List Nat) (i : Nat) (steps : List (Plan W)) :
    (Plan.recordedSteps leaf i steps).length = steps.length := by
  induction steps generalizing i with
  | nil => rfl
  | cons step rest ih => rw [Plan.recordedSteps, List.length_cons, List.length_cons, ih]

theorem Plan.drop_recordedSteps (leaf : List Nat) (i k : Nat) (steps : List (Plan W)) :
    (Plan.recordedSteps leaf i steps).drop k = Plan.recordedSteps leaf (i + k) (steps.drop k) := by
  induction steps generalizing i k with
  | nil => rw [List.drop_nil, Plan.recordedSteps, Plan.recordedSteps, List.drop_nil]
  | cons step rest ih =>
    cases k with
    | zero => rfl
    | succ k =>
      rw [Plan.recordedSteps, List.drop_succ_cons, List.drop_succ_cons, ih, Nat.add_assoc,
        Nat.add_comm 1 k]

@[simp] theorem Plan.node_recorded (leaf : List Nat) (p : Plan W) :
    (p.recorded leaf).node = p.node.recorded leaf := by
  cases p
  rfl

@[simp] theorem Plan.isUnbound_recorded (leaf : List Nat) (p : Plan W) :
    (p.recorded leaf).isUnbound = p.isUnbound := by
  unfold Plan.isUnbound
  rw [Plan.steps_isEmpty_recorded, Plan.node_recorded]
  cases h : p.node.function <;> simp [PlanNode.recorded, h]

@[simp] theorem PlanNode.stepVariables_recorded (leaf place : List Nat) (n : PlanNode W) (b : Bag)
    (step : Plan W) :
    (n.recorded leaf).stepVariables b (step.recorded place) = n.stepVariables b step := by
  unfold PlanNode.stepVariables PlanNode.stepInput
  rw [Plan.steps_isEmpty_recorded, Plan.node_recorded, PlanNode.view_recorded]
  rfl

theorem Run.recorded_behind (leaf : List Nat) (i : Nat) (calls : List Call) (step : Plan W)
    (r : Run W) :
    (r.recorded leaf (i + 1) calls).behind (step.recorded (leaf ++ [i])) =
      (r.behind step).recorded leaf i calls := rfl

/-- An attempt writes down the calls of the step that it runs. -/
theorem PlanNode.attempt_recorded [Cancellable W] [Elapsing W] {n : PlanNode W} {step : Plan W}
    {leaf : List Nat} {i : Nat} {run : Bag → W → Run W} {stepCalls : Bag → W → List Call}
    {recordedRun : Bag → Journal W → Run (Journal W)}
    (hrun : ∀ b w done, recordedRun b ⟨w, done⟩ =
      (run b w).recorded (leaf ++ [i]) 0 (done ++ stepCalls b w))
    (b : Bag) (w : W) (done : List Call) :
    (n.recorded leaf).attempt (step.recorded (leaf ++ [i])) b ⟨w, done⟩ recordedRun =
      (n.attempt step b w run).recorded leaf i (done ++ n.attemptCalls step b w stepCalls) := by
  unfold PlanNode.attempt PlanNode.attemptCalls
  -- the journal plays no part in cancelling and in the passing of time
  have helapse : Elapsing.elapse (⟨w, done⟩ : Journal W) = ⟨Elapsing.elapse w, done⟩ := rfl
  have hcancel : Cancellable.isCancelled (⟨Elapsing.elapse w, done⟩ : Journal W) =
      Cancellable.isCancelled (Elapsing.elapse w) := rfl
  simp only [helapse, hcancel, Plan.isUnbound_recorded, PlanNode.stepVariables_recorded, hrun]
  cases Cancellable.isCancelled (Elapsing.elapse w) with
  | true => simp [Attempt.recorded, PlanNode.recorded, PlanNode.cancelled]
  | false =>
    cases step.isUnbound with
    | true =>
      simp [Attempt.recorded, PlanNode.stepNotBound, PlanNode.qualifiedName, PlanNode.recorded]
    | false =>
      rw [Plan.node_recorded]
      simp only [Bool.false_eq_true, ↓reduceIte]
      generalize run (n.stepVariables b step) (Elapsing.elapse w) = r
      cases hr : r.result with
      | error e =>
        simp only [Run.recorded, hr, Attempt.recorded, Plan.recorded_eq _ r.plan]
        rfl
      | ok u =>
        simp only [Run.recorded, hr, Attempt.recorded, Plan.recorded_eq _ r.plan]
        rfl

/-- A function that writes its calls down is called as it was before. -/
theorem Plan.call_recorded (p : Plan W) (f : SkillFunction W) (s : Services W) (b : Bag) (w : W)
    (done : List Call) (leaf : List Nat) :
    Plan.call (p.recorded leaf) (f.recorded leaf) s.recorded b ⟨w, done⟩ =
      (Plan.call p f s b w).recorded leaf 0 (done ++ [⟨leaf, b, (f.invoke s b w).1⟩]) := by
  have hinvoke : (f.recorded leaf).invoke s.recorded b ⟨w, done⟩ =
      ((f.invoke s b w).1,
        ⟨(f.invoke s b w).2, done ++ [⟨leaf, b, (f.invoke s b w).1⟩]⟩) := by
    simp only [SkillFunction.recorded, Services.plain_recorded]
  unfold Plan.call
  rw [hinvoke, Plan.recorded_eq]
  cases hanswer : f.invoke s b w with
  | mk answer w' => cases answer <;> rfl

namespace Plan

variable [Cancellable W] [Elapsing W]

mutual
/-- A plan whose functions write their calls down runs as it did before, and writes its calls
    down. -/
theorem invoke_recorded (s : Services W) (b : Bag) (w : W) (done : List Call) (leaf : List Nat) :
    ∀ p : Plan W, (p.recorded leaf).invoke s.recorded b ⟨w, done⟩ =
      (p.invoke s b w).recorded leaf 0 (done ++ p.calls s b w leaf)
  | ⟨node, steps⟩ => by
    cases hf : node.function with
    | none =>
      have hrecorded : (node.recorded leaf).function = none := by
        rw [PlanNode.recorded, hf, Option.map_none]
      simp only [recorded, invoke, calls, hf, hrecorded]
      exact invokeSteps_recorded s node node.cursor b w done leaf 0 steps
    | some f =>
      have hrecorded : (node.recorded leaf).function = some (f.recorded leaf) := by
        rw [PlanNode.recorded, hf, Option.map_some]
      simp only [recorded, invoke, calls, hf, hrecorded]
      exact call_recorded ⟨node, steps⟩ f s b w done leaf

/-- The same for the steps from a position on. -/
theorem invokeSteps_recorded (s : Services W) (node : PlanNode W) (skip : Nat) (b : Bag) (w : W)
    (done : List Call) (leaf : List Nat) (i : Nat) :
    ∀ steps : List (Plan W),
      invokeSteps s.recorded (node.recorded leaf) skip b ⟨w, done⟩ (recordedSteps leaf i steps) =
        (invokeSteps s node skip b w steps).recorded leaf i
          (done ++ stepCalls s node skip b w leaf i steps)
  | [] => by
    simp only [recordedSteps, invokeSteps, stepCalls, List.append_nil]
    rfl
  | step :: rest => by
    cases skip with
    | succ skip =>
      simp only [recordedSteps, invokeSteps, stepCalls]
      rw [invokeSteps_recorded s node skip b w done leaf (i + 1) rest, Run.recorded_behind]
    | zero =>
      simp only [recordedSteps, invokeSteps, stepCalls]
      rw [show (node.recorded leaf).state = node.state from rfl,
        PlanNode.attempt_recorded fun b w done => invoke_recorded s b w done (leaf ++ [i]) step]
      generalize node.attempt step (b.mergeMissing node.state) w _ = a
      cases ha : a.result with
      | error e =>
        simp only [Attempt.recorded, ha, List.append_nil]
        rfl
      | ok u =>
        -- the others go on with a journal that holds the calls of this step
        simp only [Attempt.recorded, ha]
        rw [show (a.node.recorded leaf).state = a.node.state from rfl,
          invokeSteps_recorded s a.node 0 _ a.world _ leaf (i + 1) rest, Run.recorded_behind,
          List.append_assoc]
end

/-- The calls that a run to the end of a plan makes, in order. -/
def journal (p : Plan W) (s : Services W) (b : Bag) (w : W) : List Call :=
  ((p.recorded []).invoke s.recorded b ⟨w, []⟩).world.calls

theorem journal_eq (p : Plan W) (s : Services W) (b : Bag) (w : W) :
    p.journal s b w = p.calls s b w [] := by
  rw [journal, invoke_recorded]
  exact List.nil_append _

/-- The calls of a run of the next step of the plan at a place. -/
def nextCalls (p : Plan W) (s : Services W) (b : Bag) (w : W) (leaf : List Nat) : List Call :=
  match p.steps[p.node.cursor]? with
  | none => []
  | some step =>
    p.node.attemptCalls step b w fun b w => step.calls s b w (leaf ++ [p.node.cursor])

omit [Cancellable W] [Elapsing W] in
theorem getElem?_recordedSteps (leaf : List Nat) (i k : Nat) (steps : List (Plan W)) :
    (recordedSteps leaf i steps)[k]? = steps[k]?.map (·.recorded (leaf ++ [i + k])) := by
  induction steps generalizing i k with
  | nil => rfl
  | cons step rest ih =>
    cases k with
    | zero => rfl
    | succ k =>
      rw [recordedSteps, List.getElem?_cons_succ, List.getElem?_cons_succ, ih, Nat.add_assoc,
        Nat.add_comm 1]

omit [Cancellable W] [Elapsing W] in
theorem set_recordedSteps (leaf : List Nat) (i k : Nat) (steps : List (Plan W)) (step : Plan W) :
    (recordedSteps leaf i steps).set k (step.recorded (leaf ++ [i + k])) =
      recordedSteps leaf i (steps.set k step) := by
  induction steps generalizing i k with
  | nil => rfl
  | cons first rest ih =>
    cases k with
    | zero => rfl
    | succ k =>
      rw [recordedSteps, List.set_cons_succ, List.set_cons_succ, recordedSteps, ← ih,
        Nat.add_assoc, Nat.add_comm 1]

/-- A run of the next step writes its calls down too. -/
theorem invokeNextStep_recorded (p : Plan W) (s : Services W) (b : Bag) (w : W) (done : List Call)
    (leaf : List Nat) :
    (p.recorded leaf).invokeNextStep s.recorded b ⟨w, done⟩ =
      (p.invokeNextStep s b w).recorded leaf 0 (done ++ p.nextCalls s b w leaf) := by
  have hcursor : (p.recorded leaf).node.cursor = p.node.cursor := by rw [node_recorded]; rfl
  have hsteps : (p.recorded leaf).steps = recordedSteps leaf 0 p.steps := by rw [recorded_eq]
  simp only [invokeNextStep, nextCalls, hcursor, hsteps, getElem?_recordedSteps, Nat.zero_add]
  cases p.steps[p.node.cursor]? with
  | none =>
    simp only [Option.map_none, List.append_nil]
    rw [recorded_eq]
    rfl
  | some step =>
    simp only [Option.map_some]
    rw [node_recorded, PlanNode.attempt_recorded fun b w done =>
      invoke_recorded s b w done (leaf ++ [p.node.cursor]) step]
    have hset := set_recordedSteps leaf 0 p.node.cursor p.steps
    rw [Nat.zero_add] at hset
    simp only [Attempt.recorded, hset]
    rfl

end Plan

end SkillPlan

import Mathlib.Data.List.DropRight
import SkillPlan.Proofs.Plan.Failing
import SkillPlan.Proofs.Plan.Progress
import SkillPlan.Proofs.Plan.Step

/-!
# Cancelling during a call

A run asks whether it has been cancelled before each step and at no other time. When it is cancelled
while the function of a leaf is being called, this call is the last one. Its result is kept by every
plan above the leaf whose step it finishes, and the run fails if a plan without steps is left behind
the leaf, at whatever depth.
-/

namespace SkillPlan

variable {W : Type}

/-! ## Trimmed texts -/

namespace Text

theorem trimEnd_eq_rdropWhile (cs : List Char) : trimEnd cs = cs.rdropWhile isBlank := rfl

/-- Where no white space is at the start, none is after something was taken off the end. -/
theorem trimStart_of_isPrefix {cs ds : List Char} (h : ds <+: cs) (hcs : trimStart cs = cs) :
    trimStart ds = ds := by
  cases ds with
  | nil => rfl
  | cons d ds =>
    obtain ⟨rest, rfl⟩ := h
    have hd : ¬ isBlank d = true := List.dropWhile_eq_self_iff.mp hcs (Nat.succ_pos _)
    exact List.dropWhile_cons_of_neg hd

@[simp] theorem trim_trim (s : String) : trim (trim s) = trim s := by
  have hstart : trimStart (trimEnd (trimStart s.toList)) = trimEnd (trimStart s.toList) :=
    trimStart_of_isPrefix (List.rdropWhile_prefix _ _) (List.dropWhile_idempotent _ _)
  rw [trim, trim, String.toList_ofList, hstart, trimEnd_eq_rdropWhile, trimEnd_eq_rdropWhile,
    List.rdropWhile_idempotent]

end Text

/-! ## Plans without steps -/

namespace Plan

mutual
/-- The places of the plans without steps, from left to right, in the plan at a place. -/
def tips (place : List Nat) : Plan W → List (List Nat)
  | ⟨_, []⟩ => [place]
  | ⟨_, step :: rest⟩ => stepsTips place 0 (step :: rest)

/-- The same for the steps from position `i` on. -/
def stepsTips (place : List Nat) (i : Nat) : List (Plan W) → List (List Nat)
  | [] => []
  | step :: rest => step.tips (place ++ [i]) ++ stepsTips place (i + 1) rest
end

theorem tips_ne_nil (p : Plan W) : ∀ place, p.tips place ≠ [] := by
  induction p using Plan.induction with
  | h node steps ih =>
    intro place
    cases steps with
    | nil => exact List.cons_ne_nil place []
    | cons step rest =>
      rw [tips, stepsTips]
      exact List.append_ne_nil_of_left_ne_nil (ih step List.mem_cons_self _) _

theorem stepsTips_eq_nil_iff {place : List Nat} {i : Nat} {steps : List (Plan W)} :
    stepsTips place i steps = [] ↔ steps = [] := by
  cases steps with
  | nil => exact ⟨fun _ => rfl, fun _ => rfl⟩
  | cons step rest =>
    refine ⟨fun h => absurd ?_ (tips_ne_nil step (place ++ [i])),
      fun hnil => absurd hnil (List.cons_ne_nil step rest)⟩
    rw [stepsTips] at h
    exact (List.append_eq_nil_iff.mp h).1

theorem tips_eq_stepsTips {node : PlanNode W} {steps : List (Plan W)} (h : steps ≠ [])
    (place : List Nat) : tips place ⟨node, steps⟩ = stepsTips place 0 steps := by
  cases steps with
  | nil => exact absurd rfl h
  | cons step rest => rw [tips]

end Plan

/-! ## Calls and the worlds that they leave -/

/-- A call that has ended, and the world in which it did. -/
structure Return (W : Type) extends Call where
  world : W

namespace Plan

variable [Cancellable W] [Elapsing W]

mutual
/-- The calls of a run to the end of the plan at a place, each with the world that it left. -/
def returns (s : Services W) (b : Bag) (w : W) (place : List Nat) : Plan W → List (Return W)
  | ⟨node, steps⟩ =>
    match node.function with
    | some f => [⟨⟨place, b, (f.invoke s b w).1⟩, (f.invoke s b w).2⟩]
    | none => stepReturns s node node.cursor b w place 0 steps

/-- The same for a run of the steps from position `i` on, after the first `skip` of them. -/
def stepReturns (s : Services W) (node : PlanNode W) (skip : Nat) (b : Bag) (w : W)
    (place : List Nat) (i : Nat) : List (Plan W) → List (Return W)
  | [] => []
  | step :: rest =>
    match skip with
    | skip + 1 => stepReturns s node skip b w place (i + 1) rest
    | 0 =>
      let b := b.mergeMissing node.state
      let a := node.attempt step b w fun b w => step.invoke s b w
      let w' := Elapsing.elapse w
      (if Cancellable.isCancelled w' || step.isUnbound then []
        else step.returns s (node.stepVariables b step) w' (place ++ [i])) ++
        match a.result with
        | .error _ => []
        | .ok () =>
          stepReturns s a.node 0 (b.withInput a.node.state.input) a.world place (i + 1) rest
end

mutual
/-- Without the worlds these are the calls of the run. -/
theorem map_returns (s : Services W) (b : Bag) (w : W) (place : List Nat) :
    ∀ p : Plan W, (p.returns s b w place).map (·.toCall) = p.calls s b w place
  | ⟨node, steps⟩ => by
    rw [returns, calls]
    cases node.function with
    | some f => rfl
    | none => exact map_stepReturns s node node.cursor b w place 0 steps

theorem map_stepReturns (s : Services W) (node : PlanNode W) (skip : Nat) (b : Bag) (w : W)
    (place : List Nat) (i : Nat) :
    ∀ steps : List (Plan W),
      (stepReturns s node skip b w place i steps).map (·.toCall) =
        stepCalls s node skip b w place i steps
  | [] => by rw [stepReturns, stepCalls, List.map_nil]
  | step :: rest => by
    cases skip with
    | succ skip =>
      rw [stepReturns, stepCalls]
      exact map_stepReturns s node skip b w place (i + 1) rest
    | zero =>
      rw [stepReturns, stepCalls, List.map_append]
      congr 1
      · rw [PlanNode.attemptCalls]
        cases Cancellable.isCancelled (Elapsing.elapse w) with
        | true => rfl
        | false =>
          cases step.isUnbound with
          | true => rfl
          | false => exact map_returns s _ _ _ step
      · cases (node.attempt step (b.mergeMissing node.state) w
            fun b w => step.invoke s b w).result with
        | error e => rfl
        | ok u => exact map_stepReturns s _ 0 _ _ place (i + 1) rest
end

end Plan

/-! ## Where a cancelled run stops -/

/-- The node has taken the result `text` of the step at position `i` if nothing is left to do in the
    step, and stands before the step if something is left. -/
structure PlanNode.Commits (text : String) (n : PlanNode W) (i : Nat) (step : Plan W) : Prop where
  waits : step.hasNextStep = true → n.cursor = i
  takes : step.hasNextStep = false →
    ∃ before : PlanNode W, before.cursor = i ∧ before.Takes step.node text n

/-- A run that was cancelled stays cancelled while time passes. -/
def StaysCancelled (W : Type) [Cancellable W] [Elapsing W] : Prop :=
  ∀ w : W, Cancellable.isCancelled w = true → Cancellable.isCancelled (Elapsing.elapse w) = true

namespace Plan

/-- Every plan on the way to a leaf has taken `text`, the result of the leaf, if its step on the way
    is finished, and stands before this step if it is not. -/
def Committed (text : String) (place : List Nat) (p : Plan W) : Prop :=
  p.Along (fun q i step => q.node.Commits text i step) place

variable [Cancellable W]

/-- A run of the plan `p` at a place was cancelled during the call `c` of the leaf at `below`, and
    stopped there. The tips `after` come behind this leaf. -/
structure StopsAt (place : List Nat) (c : Return W) (below : List Nat) (after : List (List Nat))
    (p : Plan W) (r : Run W) : Prop where
  leaf : c.leaf = place ++ below
  tips : ∃ before, p.tips place = before ++ c.leaf :: after
  cancelled : Cancellable.isCancelled r.world = true
  failed : ∀ e, c.answer = .error e → ∃ e', r.result = .error e'
  finished : ∀ text, c.answer = .ok text → after = [] →
    r.result = .ok () ∧ Text.trim r.caller.input = Text.trim text ∧ r.plan.hasNextStep = false
  stopped : ∀ text, c.answer = .ok text → after ≠ [] →
    (∃ e, r.result = .error e ∧ e.kind = .cancelled) ∧ r.plan.hasNextStep = true
  committed : ∀ text, c.answer = .ok text → r.plan.Committed (Text.trim text) below

/-- The same for a run of the steps from position `i` on, when the leaf is below the one `k` places
    further on. -/
structure StepsStopAt (place : List Nat) (i : Nat) (c : Return W) (k : Nat) (below : List Nat)
    (after : List (List Nat)) (steps : List (Plan W)) (r : Run W) : Prop where
  leaf : c.leaf = place ++ (i + k) :: below
  tips : ∃ before, stepsTips place i steps = before ++ c.leaf :: after
  cancelled : Cancellable.isCancelled r.world = true
  length : r.plan.steps.length = steps.length
  failed : ∀ e, c.answer = .error e → ∃ e', r.result = .error e'
  finished : ∀ text, c.answer = .ok text → after = [] →
    r.result = .ok () ∧ Text.trim r.caller.input = Text.trim text ∧
      r.plan.node.cursor = i + steps.length
  stopped : ∀ text, c.answer = .ok text → after ≠ [] →
    (∃ e, r.result = .error e ∧ e.kind = .cancelled) ∧ r.plan.node.cursor < i + steps.length
  committed : ∀ text, c.answer = .ok text → ∃ step, r.plan.steps[k]? = some step ∧
    r.plan.node.Commits (Text.trim text) (i + k) step ∧ step.Committed (Text.trim text) below

variable {place below : List Nat} {after : List (List Nat)} {i k : Nat} {c : Return W}
  {node : PlanNode W} {step : Plan W} {rest : List (Plan W)} {r : Run W} {w : W}

/-- Where the run of the first step stopped with an error, the others are not run. -/
theorem StopsAt.of_error (h : StopsAt (place ++ [i]) c below after step r) {e : Error}
    (herror : r.result = .error e) (hcursor : node.cursor = i) (b : Bag) (rest : List (Plan W)) :
    StepsStopAt place i c 0 below (after ++ stepsTips place (i + 1) rest) (step :: rest)
      ⟨.error (node.stepFailed step.node e), ⟨node, r.plan :: rest⟩, b, r.world⟩ := by
  have hafter : ∀ text, c.answer = .ok text → after ≠ [] := by
    intro text hanswer hnil
    have hok := (h.finished text hanswer hnil).1
    rw [herror] at hok
    cases hok
  obtain ⟨before, htips⟩ := h.tips
  refine {
    leaf := by rw [h.leaf, List.append_assoc]; rfl
    tips := ⟨before, by rw [stepsTips, htips, List.append_assoc, List.cons_append]⟩
    cancelled := h.cancelled
    length := rfl
    failed := fun _ _ => ⟨_, rfl⟩
    finished := fun text hanswer hnil =>
      absurd (List.append_eq_nil_iff.mp hnil).1 (hafter text hanswer)
    stopped := fun text hanswer _ => ?_
    committed := fun text hanswer => ⟨r.plan, rfl, ?_, h.committed text hanswer⟩ }
  · obtain ⟨⟨e', herror', hkind⟩, -⟩ := h.stopped text hanswer (hafter text hanswer)
    cases herror.symm.trans herror'
    -- an error of a cancelled run is passed on as it is
    have hnames : PlanNode.namesStep e = true := by simp [PlanNode.namesStep, hkind]
    rw [PlanNode.stepFailed_of_namesStep hnames]
    refine ⟨⟨e, rfl, hkind⟩, ?_⟩
    simp only [hcursor, List.length_cons]
    omega
  · have hnext := (h.stopped text hanswer (hafter text hanswer)).2
    exact ⟨fun _ => hcursor, fun hnone => absurd hnext (by rw [hnone]; decide)⟩

/-- A step that has run stands in front of steps of which one was stopped. -/
theorem StepsStopAt.cons (h : StepsStopAt place (i + 1) c k below after rest r)
    (step step' : Plan W) :
    StepsStopAt place i c (k + 1) below after (step :: rest) (r.behind step') := by
  obtain ⟨before, htips⟩ := h.tips
  have hlength : i + 1 + rest.length = i + (step :: rest).length := by
    rw [List.length_cons, Nat.add_assoc, Nat.add_comm 1]
  exact {
    leaf := by rw [h.leaf, Nat.add_assoc, Nat.add_comm 1]
    tips := ⟨step.tips (place ++ [i]) ++ before, by rw [stepsTips, htips, List.append_assoc]⟩
    cancelled := h.cancelled
    length := congrArg (· + 1) h.length
    failed := h.failed
    finished := fun text hanswer hnil => hlength ▸ h.finished text hanswer hnil
    stopped := fun text hanswer hne => hlength ▸ h.stopped text hanswer hne
    committed := fun text hanswer => by
      obtain ⟨q, hq, hcommits, hbelow⟩ := h.committed text hanswer
      rw [Nat.add_assoc, Nat.add_comm 1] at hcommits
      exact ⟨q, hq, hcommits, hbelow⟩ }

/-- A plan whose steps are run from the first one on stops where they do. -/
theorem StepsStopAt.stopsAt (h : StepsStopAt place 0 c k below after rest r) :
    StopsAt place c (k :: below) after ⟨node, rest⟩ r := by
  obtain ⟨before, htips⟩ := h.tips
  have hne : rest ≠ [] := by
    rintro rfl
    exact List.append_ne_nil_of_right_ne_nil before (List.cons_ne_nil c.leaf after) htips.symm
  exact {
    leaf := by rw [h.leaf, Nat.zero_add]
    tips := ⟨before, (tips_eq_stepsTips hne place).trans htips⟩
    cancelled := h.cancelled
    failed := h.failed
    finished := fun text hanswer hnil => by
      obtain ⟨hresult, hinput, hcursor⟩ := h.finished text hanswer hnil
      refine ⟨hresult, hinput, decide_eq_false ?_⟩
      rw [h.length, hcursor, Nat.zero_add]
      exact Nat.lt_irrefl _
    stopped := fun text hanswer hmore => by
      obtain ⟨hresult, hcursor⟩ := h.stopped text hanswer hmore
      refine ⟨hresult, decide_eq_true ?_⟩
      rwa [h.length, ← Nat.zero_add rest.length]
    committed := fun text hanswer => by
      obtain ⟨q, hq, hcommits, hbelow⟩ := h.committed text hanswer
      rw [Nat.zero_add] at hcommits
      exact .cons hq hcommits hbelow }

/-- A leaf stops with the call of its function. -/
theorem stopsAt_call (node : PlanNode W) (f : SkillFunction W) (s : Services W) (b : Bag) (w : W)
    (place : List Nat) (hcancelled : Cancellable.isCancelled (f.invoke s b w).2 = true) :
    StopsAt place ⟨⟨place, b, (f.invoke s b w).1⟩, (f.invoke s b w).2⟩ [] [] ⟨node, []⟩
      (call ⟨node, []⟩ f s b w) := by
  rw [call]
  generalize f.invoke s b w = answered at hcancelled ⊢
  obtain ⟨answer, w'⟩ := answered
  refine {
    leaf := (List.append_nil place).symm
    tips := ⟨[], rfl⟩
    cancelled := ?_
    failed := fun e hanswer => ?_
    finished := fun text hanswer _ => ?_
    stopped := fun _ _ h => absurd rfl h
    committed := fun _ _ => .nil }
  · cases answer <;> exact hcancelled
  · cases (hanswer : answer = .error e)
    exact ⟨e, rfl⟩
  · cases (hanswer : answer = .ok text)
    exact ⟨rfl, by rw [Bag.input_withInput], rfl⟩

variable [Elapsing W]

/-- A cancelled run starts no step. -/
theorem invokeSteps_of_cancelled (hstays : StaysCancelled W)
    (hw : Cancellable.isCancelled w = true) (s : Services W) (node : PlanNode W) (b : Bag)
    (rest : List (Plan W)) :
    (invokeSteps s node 0 b w rest).plan = ⟨node, rest⟩ ∧
      Cancellable.isCancelled (invokeSteps s node 0 b w rest).world = true ∧
      (∀ place i, stepReturns s node 0 b w place i rest = []) ∧
      (rest = [] → (invokeSteps s node 0 b w rest).result = .ok () ∧
        (invokeSteps s node 0 b w rest).caller = b) ∧
      (rest ≠ [] → (invokeSteps s node 0 b w rest).result = .error node.cancelled) := by
  cases rest with
  | nil =>
    rw [invokeSteps]
    exact ⟨rfl, hw, fun _ _ => by rw [stepReturns], fun _ => ⟨rfl, rfl⟩, fun h => absurd rfl h⟩
  | cons step rest =>
    have hcancelled := hstays w hw
    have hattempt : (node.attempt step (b.mergeMissing node.state) w
        fun b w => step.invoke s b w) = ⟨.error node.cancelled, node, step, Elapsing.elapse w⟩ := by
      rw [PlanNode.attempt, if_pos hcancelled]
    rw [invokeSteps, hattempt]
    refine ⟨rfl, hcancelled, fun place i => ?_,
      fun hnil => absurd hnil (List.cons_ne_nil step rest), fun _ => rfl⟩
    simp only [stepReturns, hattempt, hcancelled, Bool.true_or, ↓reduceIte, List.append_nil]

/-- Where the run of the first step stopped with success, its result is taken, and no other step is
    started. -/
theorem StopsAt.of_ok (h : StopsAt (place ++ [i]) c below after step r) (hok : r.result = .ok ())
    (hreset : r.plan.reset = step.reset) (hstays : StaysCancelled W) (hcursor : node.cursor = i)
    (s : Services W) (b : Bag) (rest : List (Plan W)) :
    let n := node.commit step.node r.caller.input
    StepsStopAt place i c 0 below (after ++ stepsTips place (i + 1) rest) (step :: rest)
      ((invokeSteps s n 0 (b.withInput n.state.input) r.world rest).behind r.plan) := by
  intro n
  obtain ⟨hplan, hcancelled, -, hnil, hne⟩ := invokeSteps_of_cancelled hstays h.cancelled s n
    (b.withInput n.state.input) rest
  generalize invokeSteps s n 0 (b.withInput n.state.input) r.world rest = q at *
  -- the step succeeded, so nothing is left in it behind the leaf
  have hafter : ∀ text, c.answer = .ok text → after = [] := by
    intro text hanswer
    by_contra hne
    obtain ⟨⟨e, herror, -⟩, -⟩ := h.stopped text hanswer hne
    rw [hok] at herror
    cases herror
  have htrim : ∀ text, c.answer = .ok text → Text.trim r.caller.input = Text.trim text :=
    fun text hanswer => (h.finished text hanswer (hafter text hanswer)).2.1
  have hinput : n.state.input = Text.trim r.caller.input := by
    rw [Bag.input, PlanNode.input_state_commit, Option.getD_some]
  have hn : n.cursor = i + 1 := congrArg (· + 1) hcursor
  obtain ⟨before, htips⟩ := h.tips
  refine {
    leaf := by rw [h.leaf, List.append_assoc]; rfl
    tips := ⟨before, by rw [stepsTips, htips, List.append_assoc, List.cons_append]⟩
    cancelled := hcancelled
    length := by simp only [Run.behind, hplan, List.length_cons]
    failed := fun e hanswer => ?_
    finished := fun text hanswer hend => ?_
    stopped := fun text hanswer hmore => ?_
    committed := fun text hanswer => ⟨r.plan, rfl, ⟨fun hnext => ?_, fun _ => ⟨node, hcursor, ?_⟩⟩,
      h.committed text hanswer⟩ }
  · obtain ⟨e', herror⟩ := h.failed e hanswer
    rw [hok] at herror
    cases herror
  · obtain ⟨-, hrest⟩ := List.append_eq_nil_iff.mp hend
    obtain rfl := stepsTips_eq_nil_iff.mp hrest
    obtain ⟨hresult, hcaller⟩ := hnil rfl
    simp only [Run.behind, hplan, hcaller]
    exact ⟨hresult, by rw [Bag.input_withInput, hinput, Text.trim_trim, htrim text hanswer], hn⟩
  · rw [hafter text hanswer, List.nil_append, ne_eq, stepsTips_eq_nil_iff] at hmore
    have hlength := List.length_pos_of_ne_nil hmore
    simp only [Run.behind, hplan, hn, List.length_cons]
    exact ⟨⟨_, hne hmore, rfl⟩, by omega⟩
  · obtain ⟨-, -, hnone⟩ := h.finished text hanswer (hafter text hanswer)
    exact absurd hnext (by rw [hnone]; decide)
  · simp only [Run.behind, hplan, n, ← htrim text hanswer, ← commit_of_reset_eq hreset]
    exact node.takes_commit r.plan.node r.caller.input

omit [Cancellable W] [Elapsing W] in
/-- One element of two lists in a row is in the first or in the second. -/
theorem append_eq_append_cons {α : Type} {xs ys before later : List α} {x : α}
    (h : xs ++ ys = before ++ x :: later) :
    (∃ later', xs = before ++ x :: later' ∧ later = later' ++ ys) ∨
      ∃ before', ys = before' ++ x :: later := by
  rcases List.append_eq_append_iff.mp h with ⟨more, -, hys⟩ | ⟨more, hxs, hlater⟩
  · exact .inr ⟨more, hys⟩
  · cases more with
    | nil => exact .inr ⟨[], hlater.symm⟩
    | cons y more =>
      obtain ⟨rfl, rfl⟩ := List.cons.inj hlater
      exact .inl ⟨more, hxs, rfl⟩

/-- A run of steps that is cancelled during a call stops there, if the runs of the steps do. -/
theorem stepsStopAt_invokeSteps (hstays : StaysCancelled W) {s : Services W}
    {later : List (Return W)} {steps : List (Plan W)}
    (hsteps : ∀ step ∈ steps, ∀ b w place before later,
      step.returns s b w place = before ++ c :: later → later = [] ∧ ∃ below after,
        StopsAt place c below after step (step.invoke s b w)) :
    ∀ (node : PlanNode W) (b : Bag) (w : W) (i : Nat) (before : List (Return W)), node.cursor = i →
      stepReturns s node 0 b w place i steps = before ++ c :: later → later = [] ∧
        ∃ k below after, StepsStopAt place i c k below after steps
          (invokeSteps s node 0 b w steps) := by
  induction steps with
  | nil =>
    intro node b w i before _ hc
    rw [stepReturns] at hc
    exact absurd hc (List.append_ne_nil_of_right_ne_nil before (List.cons_ne_nil c later)).symm
  | cons step rest ih =>
    intro node b w i before hcursor hc
    rw [stepReturns] at hc
    rcases append_eq_append_cons hc with ⟨later', hfirst, rfl⟩ | ⟨before', hrest⟩
    · -- the call is one of the first step
      split at hfirst
      · exact absurd hfirst
          (List.append_ne_nil_of_right_ne_nil before (List.cons_ne_nil c later')).symm
      rename_i hrun
      rw [Bool.not_eq_true, Bool.or_eq_false_iff] at hrun
      obtain ⟨hlive, hbound⟩ := hrun
      obtain ⟨rfl, below, after, hstops⟩ := hsteps step List.mem_cons_self _ _ _ _ _ hfirst
      rw [invokeSteps]
      cases hresult : (step.invoke s (node.stepVariables (b.mergeMissing node.state) step)
          (Elapsing.elapse w)).result with
      | error e =>
        rw [PlanNode.attempt_of_run_error hlive hbound (fun b w => step.invoke s b w) hresult]
        exact ⟨rfl, 0, below, _, hstops.of_error hresult hcursor _ rest⟩
      | ok u =>
        rw [PlanNode.attempt_of_run_ok hlive hbound (fun b w => step.invoke s b w) hresult]
        exact ⟨(invokeSteps_of_cancelled hstays hstops.cancelled s _ _ rest).2.2.1 place (i + 1), 0,
          below, _, hstops.of_ok hresult (reset_invoke s _ _ step) hstays hcursor s _ rest⟩
    · -- the call is one of a later step, so the first one succeeded
      rw [invokeSteps]
      cases hattempt : (node.attempt step (b.mergeMissing node.state) w
          fun b w => step.invoke s b w).result with
      | error e =>
        rw [hattempt] at hrest
        exact absurd hrest
          (List.append_ne_nil_of_right_ne_nil before' (List.cons_ne_nil c later)).symm
      | ok u =>
        rw [hattempt] at hrest
        have hcursor' := (PlanNode.cursor_attempt_of_ok hattempt).trans (congrArg (· + 1) hcursor)
        obtain ⟨hlast, k, below, after, hstops⟩ :=
          ih (fun q hq => hsteps q (List.mem_cons_of_mem _ hq)) _ _ _ (i + 1) before' hcursor' hrest
        exact ⟨hlast, k + 1, below, after, hstops.cons step _⟩

/-- A run of a fresh plan that is cancelled during a call stops there. -/
theorem stopsAt_invoke (hstays : StaysCancelled W) (hcancelled : Cancellable.isCancelled c.world)
    {s : Services W} (p : Plan W) :
    p.Unmixed → p.Fresh → ∀ b w place before later,
      p.returns s b w place = before ++ c :: later → later = [] ∧ ∃ below after,
        StopsAt place c below after p (p.invoke s b w) := by
  induction p using Plan.induction with
  | h node steps ih =>
    intro hunmixed hfresh b w place before later hc
    cases hf : node.function with
    | some f =>
      obtain rfl : steps = [] :=
        (hunmixed _ List.mem_cons_self).resolve_left (hf ▸ Option.some_ne_none f)
      simp only [returns, invoke, hf] at hc ⊢
      obtain ⟨rfl, rfl, rfl⟩ : before = [] ∧ later = [] ∧
          c = ⟨⟨place, b, (f.invoke s b w).1⟩, (f.invoke s b w).2⟩ := by
        cases before with
        | nil =>
          obtain ⟨hc, hlater⟩ := List.cons.inj hc
          exact ⟨rfl, hlater.symm, hc.symm⟩
        | cons first more =>
          exact absurd (List.cons.inj hc).2.symm
            (List.append_ne_nil_of_right_ne_nil more (List.cons_ne_nil c later))
      exact ⟨rfl, [], [], stopsAt_call node f s b w place hcancelled⟩
    | none =>
      have hcursor : node.cursor = 0 := hfresh _ List.mem_cons_self
      simp only [returns, invoke, hf, hcursor] at hc ⊢
      obtain ⟨hlast, k, below, after, hstops⟩ := stepsStopAt_invokeSteps hstays
        (fun step hstep => ih step hstep (hunmixed.step hstep) (hfresh.step hstep)) node b w 0
        before hcursor hc
      exact ⟨hlast, k :: below, after, hstops.stopsAt⟩

end Plan

/-- A world in which the run is cancelled once the switch is turned. -/
structure Switch where
  turned : Bool

namespace Switch

instance : Cancellable Switch := ⟨turned⟩

/-- The function that turns the switch. -/
def turn : SkillFunction Switch where
  view := { collection := "sample", name := "turn" }
  invoke _ _ _ := (.ok " off ", ⟨true⟩)

/-- A plan in a plan, whose last step turns the switch, with an unbound step behind it. -/
def nested : Plan Switch :=
  ⟨.ofGoal "outer", [⟨.ofGoal "inner",
    [.ofFunction (.ofText { collection := "sample", name := "first" } fun _ => "one"),
      .ofFunction turn]⟩, .ofGoal "later"]⟩

end Switch

namespace Plan

variable [Cancellable W] [Elapsing W]

/-- When the run of a fresh plan is cancelled during the call of a leaf, no other function is called
    after it. If the call succeeds, its trimmed result is taken by the plan above the leaf, and by
    every plan above whose step is finished with it; the run fails as cancelled if there is a plan
    without steps behind the leaf, and succeeds if there is none. -/
theorem cancelled_during_call (hstays : StaysCancelled W) {p : Plan W} (hunmixed : p.Unmixed)
    (hfresh : p.Fresh) (s : Services W) (b : Bag) (w : W) {before later : List (Return W)}
    {c : Return W} (hc : p.returns s b w [] = before ++ c :: later)
    (hcancelled : Cancellable.isCancelled c.world = true) :
    later = [] ∧ p.journal s b w = before.map (·.toCall) ++ [c.toCall] ∧
      ∃ passed left, p.tips [] = passed ++ c.leaf :: left ∧
        ∀ text, c.answer = .ok text →
          (p.invoke s b w).plan.Committed (Text.trim text) c.leaf ∧
          (left = [] → (p.invoke s b w).result = .ok ()) ∧
          (left ≠ [] → ∃ e, (p.invoke s b w).result = .error e ∧ e.kind = .cancelled) := by
  obtain ⟨rfl, below, left, h⟩ :=
    stopsAt_invoke hstays hcancelled p hunmixed hfresh b w [] before later hc
  obtain ⟨passed, htips⟩ := h.tips
  have hleaf : c.leaf = below := h.leaf
  refine ⟨rfl, ?_, passed, left, htips, fun text hanswer => ⟨?_, fun hnil => ?_, fun hne => ?_⟩⟩
  · rw [journal_eq, ← map_returns, hc, List.map_append, List.map_cons, List.map_nil]
  · exact hleaf ▸ h.committed text hanswer
  · exact (h.finished text hanswer hnil).1
  · exact (h.stopped text hanswer hne).1

/-- The last step of the inner plan turns the switch: the inner plan and the outer one have its
    result, and the unbound step behind them is not tried. -/
theorem cancelled_during_call_nested :
    let p := Switch.nested
    let first : Return Switch := ⟨⟨[0, 0], .ofList [("input", "inner")], .ok "one"⟩, ⟨false⟩⟩
    let c : Return Switch := ⟨⟨[0, 1], .ofList [("input", "one")], .ok " off "⟩, ⟨true⟩⟩
    let r := p.invoke {} ∅ ⟨false⟩
    p.Unmixed ∧ p.Fresh ∧ p.returns {} ∅ ⟨false⟩ [] = [first] ++ c :: [] ∧
      p.tips [] = [[0, 0], [0, 1], [1]] ∧ r.plan.Committed "off" [0, 1] ∧
      ∃ e, r.result = .error e ∧ e.kind = .cancelled := by
  intro p first c r
  have hunmixed : p.Unmixed := by
    refine .ofSteps (.inl rfl) (List.forall_mem_cons.mpr ⟨.ofSteps (.inl rfl) ?_,
      List.forall_mem_singleton.mpr (.ofSteps (.inl rfl) nofun)⟩)
    exact List.forall_mem_cons.mpr ⟨.ofSteps (.inr rfl) nofun,
      List.forall_mem_singleton.mpr (.ofSteps (.inr rfl) nofun)⟩
  have hfresh : p.Fresh := by
    refine .ofSteps rfl (List.forall_mem_cons.mpr ⟨.ofSteps rfl ?_,
      List.forall_mem_singleton.mpr (.ofSteps rfl nofun)⟩)
    exact List.forall_mem_cons.mpr ⟨.ofSteps rfl nofun,
      List.forall_mem_singleton.mpr (.ofSteps rfl nofun)⟩
  have hc : p.returns {} ∅ ⟨false⟩ [] = [first] ++ c :: [] := rfl
  obtain ⟨-, -, passed, left, htips, h⟩ :=
    cancelled_during_call (fun _ h => h) hunmixed hfresh {} ∅ ⟨false⟩ hc rfl
  obtain ⟨hcommitted, -, hstopped⟩ := h " off " rfl
  have hleft : left ≠ [] := by
    rintro rfl
    have hlast : some [1] = some [0, 1] :=
      (congrArg List.getLast? htips).trans List.getLast?_concat
    exact absurd hlast (by decide)
  exact ⟨hunmixed, hfresh, hc, rfl, hcommitted, hstopped hleft⟩

end Plan

end SkillPlan

import SkillPlan.Proofs.Plan.Retry

/-!
# Failures

The error of a run names the step that failed. The step above the leaf puts the name in, and the
plans above that pass the error on as it is: what they add would only hide where it came from. The
cursors on the way down to the leaf stay, so the next run finds it again.
-/

namespace SkillPlan

variable {W : Type}

namespace Plan

/-! ## Places -/

/-- The plan at a place below a plan. -/
def at? : List Nat → Plan W → Option (Plan W)
  | [], p => some p
  | i :: below, p => p.steps[i]?.bind (at? below)

theorem at?_cons {p step : Plan W} {i : Nat} (hstep : p.steps[i]? = some step)
    (below : List Nat) : p.at? (i :: below) = step.at? below := by
  rw [at?, hstep, Option.bind_some]

/-- Every plan on the way down to a place has the property, together with the position at which the
    way goes on and the step there. -/
def Along (P : Plan W → Nat → Plan W → Prop) (place : List Nat) (p : Plan W) : Prop :=
  ∀ above i below, place = above ++ i :: below →
    ∃ q step, p.at? above = some q ∧ q.steps[i]? = some step ∧ P q i step

namespace Along

variable {P : Plan W → Nat → Plan W → Prop} {p step : Plan W}

theorem nil : p.Along P [] := by
  intro above i below h
  cases above <;> cases h

theorem cons {i : Nat} {below : List Nat} (hstep : p.steps[i]? = some step) (hp : P p i step)
    (hbelow : step.Along P below) : p.Along P (i :: below) := by
  intro above j rest h
  cases above with
  | nil =>
    obtain ⟨rfl, rfl⟩ := List.cons.inj h
    exact ⟨p, step, rfl, hstep, hp⟩
  | cons i' above =>
    obtain ⟨rfl, rfl⟩ := List.cons.inj h
    rw [at?_cons hstep]
    exact hbelow above j rest rfl

end Along

/-- The cursors on the way down to a place stand before the steps that lead to it. -/
def PointsTo (place : List Nat) (p : Plan W) : Prop :=
  p.Along (fun q i _ => q.node.cursor = i) place

end Plan

/-! ## Naming the step -/

namespace PlanNode

/-- The error of a step that failed names a step, its own or one below it. -/
theorem namesStep_stepFailed (n step : PlanNode W) (e : Error) :
    namesStep (n.stepFailed step e) = true := by
  rw [stepFailed]
  split
  · assumption
  · rfl

theorem stepFailed_of_namesStep {e : Error} (h : namesStep e = true) (n step : PlanNode W) :
    n.stepFailed step e = e :=
  if_pos h

/-- An error that names no step is wrapped into one that names this step. -/
theorem stepFailed_of_not_namesStep {e : Error} (h : namesStep e = false) (n step : PlanNode W) :
    n.stepFailed step e =
      { kind := .functionInvokeFailed
        message := "error occurred while running plan step '" ++ step.qualifiedName ++ "': " ++
          e.message
        status := .permanent
        operation := "plan::invoke_next_step"
        context := [("step", step.qualifiedName), ("step_index", toString n.cursor),
          ("cause_kind", e.kind.name)]
        source := some (.error e) } := by
  rw [stepFailed, h]
  rfl

variable [Cancellable W] [Elapsing W]

/-- An attempt in which there is a call has run the step. -/
theorem live_of_mem_attemptCalls {n : PlanNode W} {step : Plan W} {b : Bag} {w : W}
    {calls : Bag → W → List Call} {c : Call} (hc : c ∈ n.attemptCalls step b w calls) :
    Cancellable.isCancelled (Elapsing.elapse w) = false ∧ step.isUnbound = false ∧
      c ∈ calls (n.stepVariables b step) (Elapsing.elapse w) := by
  cases hlive : Cancellable.isCancelled (Elapsing.elapse w) with
  | true =>
    rw [attemptCalls_of_cancelled hlive] at hc
    cases hc
  | false =>
    cases hbound : step.isUnbound with
    | true =>
      rw [attemptCalls_of_unbound hbound] at hc
      cases hc
    | false =>
      rw [attemptCalls_of_live hlive hbound] at hc
      exact ⟨rfl, rfl, hc⟩

/-- An attempt whose step was run and failed. -/
theorem attempt_of_run_error {n : PlanNode W} {step : Plan W} {b : Bag} {w : W}
    (hlive : Cancellable.isCancelled (Elapsing.elapse w) = false)
    (hbound : step.isUnbound = false) (run : Bag → W → Run W) {e : Error}
    (hfail : (run (n.stepVariables b step) (Elapsing.elapse w)).result = .error e) :
    let r := run (n.stepVariables b step) (Elapsing.elapse w)
    n.attempt step b w run = ⟨.error (n.stepFailed step.node e), n, r.plan, r.world⟩ := by
  simp only [attempt, hlive, hbound, hfail, Bool.false_eq_true, ↓reduceIte]

/-- An attempt whose step was run with success. -/
theorem attempt_of_run_ok {n : PlanNode W} {step : Plan W} {b : Bag} {w : W}
    (hlive : Cancellable.isCancelled (Elapsing.elapse w) = false)
    (hbound : step.isUnbound = false) (run : Bag → W → Run W)
    (hok : (run (n.stepVariables b step) (Elapsing.elapse w)).result = .ok ()) :
    let r := run (n.stepVariables b step) (Elapsing.elapse w)
    n.attempt step b w run = ⟨.ok (), n.commit step.node r.caller.input, r.plan, r.world⟩ := by
  simp only [attempt, hlive, hbound, hok, Bool.false_eq_true, ↓reduceIte]

end PlanNode

/-! ## Where a run fails -/

namespace Plan

variable [Cancellable W] [Elapsing W]

/-- A run in which a call failed fails. -/
theorem exists_error_of_call {p : Plan W} {s : Services W} {b : Bag} {w : W} {place : List Nat}
    {c : Call} (hc : c ∈ p.calls s b w place) {e : Error} (hfail : c.answer = .error e) :
    ∃ e', (p.invoke s b w).result = .error e' := by
  cases hresult : (p.invoke s b w).result with
  | error e' => exact ⟨e', rfl⟩
  | ok u =>
    have hsucceeded := succeeded_of_mem_calls s b w place p hresult c hc
    rw [Call.succeeded, hfail] at hsucceeded
    cases hsucceeded

/-- A call that failed is one of the attempt at which the run stopped. -/
theorem Halt.mem_attemptCalls {s : Services W} {p : Plan W} {b : Bag} {w : W} (h : Halt s p b w)
    (hroot : p.node.function = none) {place : List Nat} {c : Call}
    (hc : c ∈ p.calls s b w place) {e : Error} (hfail : c.answer = .error e) :
    c ∈ h.node.attemptCalls h.step h.caller h.reached.world
      fun b w => h.step.calls s b w (place ++ [h.node.cursor]) := by
  rw [(h.invoke_eq hroot).2, ← h.cursor_node.1] at hc
  refine (List.mem_append.mp hc).resolve_left fun hdone => ?_
  have hsucceeded := succeeded_of_mem_stepCalls s p.node 0 b w place p.node.cursor h.done h.ran c
    hdone
  rw [Call.succeeded, hfail] at hsucceeded
  cases hsucceeded

/-- A run in which the call of a leaf failed stops there: the cursors lead to the leaf, and the
    error, if there is a plan above the leaf, is that of the step at its position. -/
theorem invoke_of_failed_call {s : Services W} {c : Call} {e : Error} (hfail : c.answer = .error e)
    (p : Plan W) :
    ∀ (b : Bag) (w : W) (place : List Nat), c ∈ p.calls s b w place →
      ∃ below, c.leaf = place ++ below ∧ (p.invoke s b w).plan.PointsTo below ∧
        (below = [] → p.node.function ≠ none ∧ (p.invoke s b w).result = .error e) ∧
        ∀ above i, below = above ++ [i] → ∃ (leaf : Plan W) (n : PlanNode W),
          p.at? below = some leaf ∧ n.cursor = i ∧
            (p.invoke s b w).result = .error (n.stepFailed leaf.node e) := by
  induction p using Plan.induction with
  | h node steps ih =>
    intro b w place hc
    cases hf : node.function with
    | some f =>
      simp only [calls, hf, List.mem_singleton] at hc
      subst hc
      refine ⟨[], (List.append_nil place).symm, .nil, fun _ => ⟨Option.some_ne_none f, ?_⟩,
        fun above i h => ?_⟩
      · simp only at hfail
        simp only [invoke, hf, call]
        cases hanswer : f.invoke s b w with
        | mk answer w' =>
          rw [hanswer] at hfail
          cases hfail
          rfl
      · cases above <;> cases h
    | none =>
      obtain ⟨e₀, herror⟩ := exists_error_of_call hc hfail
      obtain ⟨h⟩ := Halt.of_error hf herror
      obtain ⟨hlive, hbound, hcall⟩ := PlanNode.live_of_mem_attemptCalls
        (h.mem_attemptCalls hf hc hfail)
      obtain ⟨hstep, hleft⟩ := h.getElem?_cursor
      change steps[h.node.cursor]? = some h.step at hstep
      -- the step fails in the same way, one level further down
      obtain ⟨below, hleaf, hpoints, hraw, hnamed⟩ := ih h.step h.step_mem _ _ _ hcall
      obtain ⟨e₁, herror₁⟩ := exists_error_of_call hcall hfail
      have hattempt := PlanNode.attempt_of_run_error hlive hbound
        (fun b w => h.step.invoke s b w) herror₁
      change h.attempt = _ at hattempt
      rw [(h.invoke_eq hf).1]
      refine ⟨h.node.cursor :: below, ?_, .cons hleft rfl ?_,
        fun hnil => absurd hnil (List.cons_ne_nil _ below), fun above i hbelow => ?_⟩
      · rw [hleaf, List.append_assoc, List.singleton_append]
      · rwa [hattempt]
      · rw [at?_cons hstep]
        rw [herror₁] at hraw hnamed
        rw [hattempt]
        cases above with
        | nil =>
          -- the leaf is a step of this node, which names it
          obtain ⟨rfl, rfl⟩ := List.cons.inj hbelow
          cases (hraw rfl).2
          exact ⟨h.step, h.node, rfl, rfl, rfl⟩
        | cons j above =>
          -- the error has its name already
          obtain ⟨rfl, rfl⟩ := List.cons.inj hbelow
          obtain ⟨leaf, n, hat, hcursor, hresult⟩ := hnamed above i rfl
          cases hresult
          refine ⟨leaf, n, hat, hcursor, congrArg Except.error ?_⟩
          exact PlanNode.stepFailed_of_namesStep (n.namesStep_stepFailed leaf.node e) _ _

/-- When a leaf fails with an error that says nothing of steps yet, the error of the whole run is
    that of the step at the leaf, whatever the depth: it names the leaf and its position, and has
    the error of the leaf directly behind it. The cursors still lead to the leaf. -/
theorem failure_named_once {p : Plan W} (hroot : p.node.function = none) (s : Services W) (b : Bag)
    (w : W) {c : Call} (hc : c ∈ p.journal s b w) {e : Error} (hfail : c.answer = .error e)
    (hkind : e.kind ≠ .cancelled ∧ e.kind ≠ .functionNotBound ∧ e.kind ≠ .functionInvokeFailed) :
    ∃ (above : List Nat) (i : Nat) (leaf : Plan W) (error : Error),
      c.leaf = above ++ [i] ∧ p.at? c.leaf = some leaf ∧
      (p.invoke s b w).result = .error error ∧ error.kind = .functionInvokeFailed ∧
      error.message = "error occurred while running plan step '" ++
        (leaf.node.collection ++ "." ++ leaf.node.name) ++ "': " ++ e.message ∧
      error.noteValue? "step" = some (leaf.node.collection ++ "." ++ leaf.node.name) ∧
      error.noteValue? "step_index" = some (toString i) ∧
      error.noteValue? "cause_kind" = some e.kind.name ∧
      error.operation = "plan::invoke_next_step" ∧ error.source = some (.error e) ∧
      (p.invoke s b w).plan.PointsTo c.leaf := by
  rw [journal_eq] at hc
  obtain ⟨below, hleaf, hpoints, hroot', hnamed⟩ := invoke_of_failed_call hfail p b w [] hc
  rw [List.nil_append] at hleaf
  subst hleaf
  -- the root is no leaf, so there is a plan above the one that failed
  have hne : c.leaf ≠ [] := fun hnil => (hroot' hnil).1 hroot
  obtain ⟨above, i, hlast⟩ : ∃ above i, c.leaf = above ++ [i] :=
    ⟨_, _, (List.dropLast_append_getLast hne).symm⟩
  obtain ⟨leaf, n, hat, rfl, hresult⟩ := hnamed above i hlast
  have hnames : PlanNode.namesStep e = false := by
    simp [PlanNode.namesStep, hkind]
  rw [PlanNode.stepFailed_of_not_namesStep hnames] at hresult
  exact ⟨above, n.cursor, leaf, _, hlast, hat, hresult, rfl, rfl, rfl, rfl, rfl, rfl, rfl, hpoints⟩

/-- The second leaf of the inner plan fails: the error names its position there, not that of the
    inner plan. -/
theorem failure_named_once_nested :
    let cause : Error := .new .networkFailed "down"
    let c : Call := ⟨[0, 1], .ofList [("input", "one")], .error cause⟩
    let r := Fuse.nested.invoke {} ∅ ⟨true⟩
    c ∈ Fuse.nested.journal {} ∅ ⟨true⟩ ∧ ∃ error, r.result = .error error ∧
      error.message = "error occurred while running plan step 'sample.echo': down" ∧
      error.noteValue? "step_index" = some "1" ∧ error.source = some (.error cause) ∧
      r.plan.PointsTo [0, 1] := by
  intro cause c r
  have hc : c ∈ Fuse.nested.journal {} ∅ ⟨true⟩ := List.mem_of_getElem? (i := 1) rfl
  obtain ⟨above, i, leaf, error, hlast, hat, hresult, -, hmessage, -, hindex, -, -, hsource,
    hpoints⟩ :=
      failure_named_once (p := Fuse.nested) (e := cause) rfl {} ∅ ⟨true⟩ hc rfl (by decide)
  obtain ⟨rfl, rfl⟩ : above = [0] ∧ i = 1 := by
    obtain ⟨habove, hi⟩ := List.append_inj' (show [0] ++ [1] = above ++ [i] from hlast) rfl
    exact ⟨habove.symm, (List.singleton_inj.mp hi).symm⟩
  cases hat
  exact ⟨hc, error, hresult, hmessage, hindex, hsource, hpoints⟩

end Plan

end SkillPlan

import SkillPlan.Plan.Binding
import SkillPlan.Proofs.Plan.Origin

/-!
# Steps that have nothing to run

The list of unbound steps is made by a walk over the plan, without running it. It foretells what a
run does: when nothing else goes wrong, a run from the start fails exactly if the list has a name in
it, at the first of these names. Runs bind nothing, so the list stays what it is.
-/

namespace SkillPlan

variable {W : Type}

namespace Plan

/-! ## The list of unbound steps -/

mutual
/-- The steps in the list are the unbound ones among the plans below, in the same order. -/
theorem unboundSteps_eq : ∀ p : Plan W,
    p.unboundSteps = (p.descendants.filter (·.isUnbound)).map (·.node.qualifiedName)
  | ⟨_, steps⟩ => unboundAmong_eq steps

theorem unboundAmong_eq : ∀ steps : List (Plan W),
    unboundAmong steps =
      ((stepsDescendants steps).filter (·.isUnbound)).map (·.node.qualifiedName)
  | [] => rfl
  | ⟨node, []⟩ :: rest => by
    simp only [unboundAmong, stepsDescendants, descendants, isUnbound, unboundAmong_eq rest]
    cases h : node.function <;> simp [h]
  | ⟨node, step :: more⟩ :: rest => by
    have hsteps := unboundSteps_eq ⟨node, step :: more⟩
    simp only [unboundAmong, hsteps, unboundAmong_eq rest, stepsDescendants, isUnbound]
    simp
end

/-- The list does not depend on states and cursors. -/
theorem unboundSteps_of_reset_eq {p p' : Plan W} (h : p'.reset = p.reset) :
    p'.unboundSteps = p.unboundSteps := by
  have hreset : ∀ q : Plan W, q.reset.unboundSteps = q.unboundSteps := by
    intro q
    simp [unboundSteps_eq, descendants_reset, List.filter_map, Function.comp_def, node_reset,
      PlanNode.qualifiedName, PlanNode.reset]
  rw [← hreset, h, hreset]

theorem unboundSteps_eq_nil_iff {p : Plan W} :
    p.unboundSteps = [] ↔ ∀ q ∈ p.descendants, q.isUnbound = false := by
  simp [unboundSteps_eq, List.filter_eq_nil_iff]

theorem unboundAmong_cons (step : Plan W) (rest : List (Plan W)) :
    unboundAmong (step :: rest) = unboundAmong [step] ++ unboundAmong rest := by
  simp [unboundAmong]

theorem unboundAmong_of_unbound {step : Plan W} (h : step.isUnbound = true) :
    unboundAmong [step] = [step.node.qualifiedName] := by
  obtain ⟨hsteps, hfunction⟩ := Bool.and_eq_true_iff.mp h
  simp [unboundAmong, hsteps, Option.isNone_iff_eq_none.mp hfunction]

theorem unboundAmong_of_bound {step : Plan W} (h : step.isUnbound = false) :
    unboundAmong [step] = step.unboundSteps := by
  rw [unboundAmong_eq, unboundSteps_eq, stepsDescendants, stepsDescendants, List.append_nil,
    List.filter_cons_of_neg (by simp [h])]

/-! ## What a run tells -/

section

variable [Cancellable W]

/-- What the result of a run tells about steps, of which those with the given names have nothing to
    run. If it succeeded there are none. If it failed, though it was not cancelled and no call
    failed, there are some, and it failed at the first of them. -/
def Tells (names : List String) (calls : List Call) (w : W) : Except Error Unit → Prop
  | .ok () => names = []
  | .error e =>
    Cancellable.isCancelled w = false → (∀ c ∈ calls, c.succeeded = true) →
      e.kind = .functionNotBound ∧
        ∃ first rest, names = first :: rest ∧ e.noteValue? "step" = some first

namespace Tells

variable {names more : List String} {calls : List Call} {w : W} {e : Error}

/-- Steps behind the one that failed are not looked at. -/
theorem append (h : Tells names calls w (.error e)) : Tells (names ++ more) calls w (.error e) := by
  intro hlive hcalls
  obtain ⟨hkind, first, rest, rfl, hstep⟩ := h hlive hcalls
  exact ⟨hkind, first, rest ++ more, rfl, hstep⟩

theorem mono {calls' : List Call} {result : Except Error Unit} (h : Tells names calls w result)
    (hsub : ∀ c ∈ calls, c ∈ calls') : Tells names calls' w result := by
  cases result with
  | ok u => exact h
  | error e => exact fun hlive hcalls => h hlive fun c hc => hcalls c (hsub c hc)

end Tells

end

variable [Cancellable W] [Elapsing W]

/-- An attempt tells about its step, if a run of the step tells about what is below it. -/
theorem tells_attempt {n : PlanNode W} {step : Plan W} {run : Bag → W → Run W}
    {calls : Bag → W → List Call}
    (hrun : ∀ b w, Tells step.unboundSteps (calls b w) (run b w).world (run b w).result) (b : Bag)
    (w : W) :
    Tells (unboundAmong [step]) (n.attemptCalls step b w calls) (n.attempt step b w run).world
      (n.attempt step b w run).result := by
  have houtcome := n.attempt_outcome step b w run
  generalize n.attempt step b w run = a at houtcome
  cases houtcome with
  | cancelled hcancelled =>
    intro hlive
    rw [hcancelled] at hlive
    cases hlive
  | notBound hlive hunbound =>
    intro _ _
    exact ⟨rfl, _, [], unboundAmong_of_unbound hunbound, rfl⟩
  | failed hlive hbound r hr e h =>
    have htells := hrun (n.stepVariables b step) (Elapsing.elapse w)
    rw [hr, h] at htells
    rw [PlanNode.attemptCalls_of_live hlive hbound, unboundAmong_of_bound hbound]
    intro hlive' hcalls
    obtain ⟨hkind, hfirst⟩ := htells hlive' hcalls
    -- the error says already which step it is
    rw [PlanNode.stepFailed_of_namesStep (by simp [PlanNode.namesStep, hkind])]
    exact ⟨hkind, hfirst⟩
  | done hlive hbound r hr h =>
    have htells := hrun (n.stepVariables b step) (Elapsing.elapse w)
    rw [hr, h] at htells
    rw [unboundAmong_of_bound hbound]
    exact htells

mutual
/-- A run from the start tells about all the steps of the plan. -/
theorem tells_invoke (s : Services W) (b : Bag) (w : W) (place : List Nat) :
    ∀ p : Plan W, p.Unmixed → p.Fresh →
      Tells p.unboundSteps (p.calls s b w place) (p.invoke s b w).world (p.invoke s b w).result
  | ⟨node, steps⟩, hunmixed, hfresh => by
    cases hf : node.function with
    | none =>
      have hcursor : node.cursor = 0 := hfresh _ List.mem_cons_self
      simp only [invoke, calls, unboundSteps, hf, hcursor]
      exact tells_invokeSteps s node b w place 0 steps (fun step hstep => hunmixed.step hstep)
        (fun step hstep => hfresh.step hstep)
    | some f =>
      -- a leaf has no steps, and fails only if its call does
      obtain rfl : steps = [] :=
        (hunmixed _ List.mem_cons_self).resolve_left (by rw [hf]; nofun)
      simp only [invoke, calls, hf, call]
      cases hanswer : f.invoke s b w with
      | mk answer w' =>
        cases answer with
        | ok text => rfl
        | error e =>
          intro _ hcalls
          cases hcalls _ List.mem_cons_self

/-- A run of some steps tells about them. -/
theorem tells_invokeSteps (s : Services W) (node : PlanNode W) (b : Bag) (w : W) (place : List Nat)
    (i : Nat) :
    ∀ steps : List (Plan W), (∀ step ∈ steps, step.Unmixed) → (∀ step ∈ steps, step.Fresh) →
      Tells (unboundAmong steps) (stepCalls s node 0 b w place i steps)
        (invokeSteps s node 0 b w steps).world (invokeSteps s node 0 b w steps).result
  | [], _, _ => by
    rw [invokeSteps]
    rfl
  | step :: rest, hunmixed, hfresh => by
    have htells := tells_attempt (n := node)
      (fun b w => tells_invoke s b w (place ++ [i]) step (hunmixed step List.mem_cons_self)
        (hfresh step List.mem_cons_self)) (b.mergeMissing node.state) w
    rw [unboundAmong_cons, invokeSteps, stepCalls]
    generalize node.attempt step (b.mergeMissing node.state) w _ = a at htells
    cases ha : a.result with
    | error e =>
      rw [ha] at htells
      simp only [List.append_nil]
      exact htells.append
    | ok u =>
      rw [ha] at htells
      have hrest := tells_invokeSteps s a.node
        ((b.mergeMissing node.state).withInput a.node.state.input) a.world place (i + 1) rest
        (fun q hq => hunmixed q (List.mem_cons_of_mem _ hq))
        (fun q hq => hfresh q (List.mem_cons_of_mem _ hq))
      -- the step and what is below it are bound, so the first name is one of the others
      have hnil : unboundAmong [step] = [] := htells
      simp only [hnil, List.nil_append, Run.behind]
      exact hrest.mono fun c hc => List.mem_append_right _ hc
end

/-! ## Prediction -/

/-- A run from the start in which every call succeeds, and which is not cancelled, fails exactly if
    there are unbound steps, at the first of them. If there are none, however the plan stands and
    whatever has been run before, a run fails with an unbound step only if a function says so. -/
theorem unboundSteps_predicts (p : Plan W) :
    (p.Unmixed → p.Fresh → ∀ s b w, (∀ c ∈ p.journal s b w, c.succeeded = true) →
      Cancellable.isCancelled (p.invoke s b w).world = false →
        ((∃ e, (p.invoke s b w).result = .error e) ↔ p.unboundSteps ≠ []) ∧
          ∀ e, (p.invoke s b w).result = .error e →
            e.kind = .functionNotBound ∧ e.noteValue? "step" = p.unboundSteps.head?) ∧
      (p.unboundSteps = [] → ∀ (qs : List (Request W)) (q : Request W) e,
        (q.run (p.after qs)).result = .error e → e.kind = .functionNotBound →
          ∃ c ∈ q.journal (p.after qs), c.answer = .error e) := by
  constructor
  · intro hunmixed hfresh s b w hcalls hlive
    rw [journal_eq] at hcalls
    have htells := tells_invoke s b w [] p hunmixed hfresh
    cases hresult : (p.invoke s b w).result with
    | ok u =>
      rw [hresult] at htells
      have hnil : p.unboundSteps = [] := htells
      simp [hnil]
    | error e =>
      rw [hresult] at htells
      obtain ⟨hkind, first, rest, hnames, hstep⟩ := htells hlive hcalls
      simp [hnames, hkind, hstep]
  · intro hnone qs q e hfail hkind
    have hreset : (p.after qs).reset = p.reset := reset_after p qs
    rw [← unboundSteps_of_reset_eq hreset, unboundSteps_eq_nil_iff] at hnone
    obtain ⟨hother, -⟩ | ⟨-, step, hstep, hunbound⟩ | hcall :=
      (q.origin hfail).of_kind_ne (by simp [hkind])
    · rw [hkind] at hother
      cases hother
    · simp [hnone step hstep] at hunbound
    · exact hcall

/-- The first unbound step is below an inner plan, and nothing is wrong before it. In a plan whose
    steps are all bound, only a function can say that it is not. -/
theorem unboundSteps_predicts_nested :
    let p : Plan Fuse := ⟨.ofGoal "outer", [⟨.ofGoal "inner",
      [.ofFunction (.ofText { collection := "sample", name := "first" } fun _ => "one"),
        .ofGoal "second"]⟩, .ofGoal "third"]⟩
    let p' := Fuse.refused (.new .functionNotBound "gone")
    let q : Request Fuse := ⟨.runNextStep ∅, {}, ∅, ⟨false⟩⟩
    (∃ e, (p.invoke {} ∅ ⟨false⟩).result = .error e ∧ e.kind = .functionNotBound ∧
        e.noteValue? "step" = some "skillcraft.Plan.second") ∧
      ∃ e, (q.run (p'.after [q])).result = .error e ∧
        ∃ c ∈ q.journal (p'.after [q]), c.answer = .error e := by
  intro p p' q
  constructor
  · have hunmixed : p.Unmixed := by
      refine .ofSteps (.inl rfl) (List.forall_mem_cons.mpr
        ⟨.ofSteps (.inl rfl) ?_, List.forall_mem_singleton.mpr (.ofSteps (.inl rfl) nofun)⟩)
      exact List.forall_mem_cons.mpr ⟨.ofSteps (.inr rfl) nofun,
        List.forall_mem_singleton.mpr (.ofSteps (.inl rfl) nofun)⟩
    have hfresh : p.Fresh := by
      refine .ofSteps rfl (List.forall_mem_cons.mpr
        ⟨.ofSteps rfl ?_, List.forall_mem_singleton.mpr (.ofSteps rfl nofun)⟩)
      exact List.forall_mem_cons.mpr ⟨.ofSteps rfl nofun,
        List.forall_mem_singleton.mpr (.ofSteps rfl nofun)⟩
    have hcalls : ∀ c ∈ p.journal {} ∅ ⟨false⟩, c.succeeded = true := by
      have hjournal : p.journal {} ∅ ⟨false⟩ =
          [⟨[0, 0], .ofList [("input", "inner")], .ok "one"⟩] := rfl
      simp [hjournal, Call.succeeded, Except.toBool]
    have hnames : p.unboundSteps = ["skillcraft.Plan.second", "skillcraft.Plan.third"] := rfl
    obtain ⟨hfails, hfirst⟩ :=
      (unboundSteps_predicts p).1 hunmixed hfresh {} ∅ ⟨false⟩ hcalls rfl
    obtain ⟨e, hfail⟩ := hfails.mpr (by simp [hnames])
    obtain ⟨hkind, hstep⟩ := hfirst e hfail
    exact ⟨e, hfail, hkind, hstep⟩
  · exact ⟨_, rfl, (unboundSteps_predicts p').2 rfl [q] q _ rfl rfl⟩

end Plan

end SkillPlan

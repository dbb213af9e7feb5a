import SkillPlan.Proofs.Plan.Failing
import SkillPlan.Proofs.Plan.Progress

/-!
# Where errors come from

A run fails because it was cancelled, because a step has nothing to run, or because a function
failed. The step that called the function names it, unless the error is of a kind that plans make
themselves: such an error is taken for one that names its step already. So a run that nobody cancels
fails as cancelled when a function does.
-/

namespace SkillPlan

variable {W : Type}

/-- A step that fails keeps its error or wraps it into one that says so. -/
theorem PlanNode.stepFailed_eq_self {n step : PlanNode W} {e : Error}
    (hkind : (n.stepFailed step e).kind ≠ .functionInvokeFailed) : n.stepFailed step e = e := by
  cases hnames : namesStep e with
  | true => exact stepFailed_of_namesStep hnames n step
  | false =>
    rw [stepFailed_of_not_namesStep hnames] at hkind
    exact absurd rfl hkind

namespace Plan

/-! ## Origins -/

section

variable [Cancellable W]

/-- Where an error of a run of the plan comes from. The run made the given calls and left the given
    world behind. -/
inductive Origin (p : Plan W) (calls : List Call) (w : W) : Error → Prop
  | cancelled (n : PlanNode W) (h : Cancellable.isCancelled w = true) :
      Origin p calls w n.cancelled
  | notBound (n : PlanNode W) {step : Plan W} (hstep : step ∈ p.descendants)
      (h : step.isUnbound = true) : Origin p calls w (n.stepNotBound step.node)
  | failed {c : Call} (hc : c ∈ calls) {cause : Error} (h : c.answer = .error cause) {e : Error}
      (he : e = cause ∨ ∃ n step : PlanNode W, e = n.stepFailed step cause) : Origin p calls w e

namespace Origin

variable {p step : Plan W} {calls : List Call} {w : W} {e : Error}

/-- The plan above a step passes its error on, or names the step. -/
theorem above (h : Origin step calls w e) (hstep : step ∈ p.steps) (n : PlanNode W) :
    Origin p calls w (n.stepFailed step.node e) := by
  cases h with
  | cancelled n' hw =>
    rw [PlanNode.stepFailed_of_namesStep rfl]
    exact .cancelled n' hw
  | notBound n' hbelow hunbound =>
    rw [PlanNode.stepFailed_of_namesStep rfl]
    exact .notBound n' (mem_descendants.mpr ⟨step, hstep, List.mem_cons_of_mem _ hbelow⟩) hunbound
  | failed hc hanswer he =>
    refine .failed hc hanswer (.inr ?_)
    obtain rfl | ⟨n', below, rfl⟩ := he
    · exact ⟨n, step.node, rfl⟩
    · -- it has the name of a step already
      exact ⟨n', below, PlanNode.stepFailed_of_namesStep (n'.namesStep_stepFailed below _) n _⟩

theorem mono {calls' : List Call} (h : Origin p calls w e) (hsub : ∀ c ∈ calls, c ∈ calls') :
    Origin p calls' w e := by
  cases h with
  | cancelled n hw => exact .cancelled n hw
  | notBound n hstep hunbound => exact .notBound n hstep hunbound
  | failed hc hanswer he => exact .failed (hsub _ hc) hanswer he

/-- An error of which no plan says that it comes from a function is one of a plan itself, or it is
    what a function answered. -/
theorem of_kind_ne (h : Origin p calls w e) (hkind : e.kind ≠ .functionInvokeFailed) :
    (e.kind = .cancelled ∧ Cancellable.isCancelled w = true) ∨
      (e.kind = .functionNotBound ∧ ∃ step ∈ p.descendants, step.isUnbound = true) ∨
        ∃ c ∈ calls, c.answer = .error e := by
  cases h with
  | cancelled n hw => exact .inl ⟨rfl, hw⟩
  | notBound n hstep hunbound => exact .inr (.inl ⟨rfl, _, hstep, hunbound⟩)
  | failed hc hanswer he =>
    refine .inr (.inr ⟨_, hc, ?_⟩)
    obtain rfl | ⟨n, step, rfl⟩ := he
    · exact hanswer
    · rw [PlanNode.stepFailed_eq_self hkind]
      exact hanswer

end Origin

end

variable [Cancellable W] [Elapsing W]

/-- An attempt that fails was cancelled, has nothing to run, or ran a step that failed. -/
theorem origin_attempt {p step : Plan W} (hstep : step ∈ p.steps) {n : PlanNode W}
    {run : Bag → W → Run W} {calls : Bag → W → List Call}
    (hrun : ∀ b w e, (run b w).result = .error e → Origin step (calls b w) (run b w).world e)
    {b : Bag} {w : W} {e : Error} (hfail : (n.attempt step b w run).result = .error e) :
    Origin p (n.attemptCalls step b w calls) (n.attempt step b w run).world e := by
  have houtcome := n.attempt_outcome step b w run
  generalize n.attempt step b w run = a at houtcome hfail
  cases houtcome with
  | cancelled hcancelled =>
    cases hfail
    exact .cancelled n hcancelled
  | notBound hlive hunbound =>
    cases hfail
    exact .notBound n (mem_descendants.mpr ⟨step, hstep, List.mem_cons_self⟩) hunbound
  | failed hlive hbound r hr e₀ h =>
    cases hfail
    rw [PlanNode.attemptCalls_of_live hlive hbound]
    subst hr
    exact (hrun _ _ e₀ h).above hstep n
  | done => cases hfail

/-- Every error of a run has an origin. -/
theorem origin_invoke (s : Services W) (p : Plan W) :
    ∀ (b : Bag) (w : W) (place : List Nat) (e : Error), (p.invoke s b w).result = .error e →
      Origin p (p.calls s b w place) (p.invoke s b w).world e := by
  induction p using Plan.induction with
  | h node steps ih =>
    intro b w place e hfail
    cases hf : node.function with
    | some f =>
      simp only [invoke, calls, hf, call] at hfail ⊢
      cases hanswer : f.invoke s b w with
      | mk answer w' =>
        rw [hanswer] at hfail
        cases answer with
        | ok text => cases hfail
        | error cause =>
          cases hfail
          exact .failed (List.mem_singleton_self _) rfl (.inl rfl)
    | none =>
      -- the run stops with the attempt that fails
      obtain ⟨h⟩ := Halt.of_error hf hfail
      obtain ⟨hrun, hcalls⟩ := h.invoke_eq hf
      rw [hrun] at hfail
      have horigin : Origin ⟨node, steps⟩ _ h.attempt.world e :=
        origin_attempt h.step_mem (ih h.step h.step_mem · · (place ++ [node.cursor + h.done.length]))
          hfail
      rw [hrun, hcalls]
      exact horigin.mono fun c hc => List.mem_append_right _ hc

theorem origin_invokeNextStep {p : Plan W} {s : Services W} {b : Bag} {w : W} {e : Error}
    (hfail : (p.invokeNextStep s b w).result = .error e) (place : List Nat) :
    Origin p (p.nextCalls s b w place) (p.invokeNextStep s b w).world e := by
  rw [invokeNextStep] at hfail ⊢
  rw [nextCalls]
  cases hget : p.steps[p.node.cursor]? with
  | none =>
    rw [hget] at hfail
    cases hfail
  | some step =>
    rw [hget] at hfail
    exact origin_attempt (List.mem_of_getElem? hget)
      (origin_invoke s step · · (place ++ [p.node.cursor])) hfail

end Plan

/-! ## Calls that fail -/

variable [Cancellable W] [Elapsing W]

/-- When a call fails in a run of one step, the error is that of the step above the leaf. -/
theorem Plan.invokeNextStep_of_failed_call {p : Plan W} {s : Services W} {b : Bag} {w : W}
    {c : Call} (hc : c ∈ p.nextCalls s b w []) {cause : Error} (hfail : c.answer = .error cause) :
    ∃ above leaf, ∃ n : PlanNode W, c.leaf = above ++ [n.cursor] ∧ p.at? c.leaf = some leaf ∧
      (p.invokeNextStep s b w).result = .error (n.stepFailed leaf.node cause) := by
  rw [nextCalls] at hc
  cases hget : p.steps[p.node.cursor]? with
  | none =>
    rw [hget] at hc
    cases hc
  | some step =>
    rw [hget] at hc
    obtain ⟨hlive, hbound, hcall⟩ := PlanNode.live_of_mem_attemptCalls hc
    obtain ⟨below, hleaf, -, hraw, hnamed⟩ := invoke_of_failed_call hfail step _ _ _ hcall
    obtain ⟨e, herror⟩ := exists_error_of_call hcall hfail
    have hattempt := PlanNode.attempt_of_run_error hlive hbound
      (fun b w => step.invoke s b w) herror
    have hresult : (p.invokeNextStep s b w).result = .error (p.node.stepFailed step.node e) := by
      simp only [invokeNextStep, hget, hattempt]
    rw [hleaf, List.nil_append, List.singleton_append, at?_cons hget, hresult]
    rw [herror] at hraw hnamed
    obtain rfl | ⟨above, i, rfl⟩ := below.eq_nil_or_concat'
    · -- the leaf is the step itself
      obtain ⟨-, hsame⟩ := hraw rfl
      cases hsame
      exact ⟨[], step, p.node, rfl, rfl, rfl⟩
    · obtain ⟨leaf, n, hat, rfl, hsame⟩ := hnamed above i rfl
      cases hsame
      refine ⟨p.node.cursor :: above, leaf, n, rfl, hat, congrArg Except.error ?_⟩
      exact PlanNode.stepFailed_of_namesStep (n.namesStep_stepFailed leaf.node cause) _ _

namespace Request

/-- Every error of a run that is asked for has an origin. -/
theorem origin (q : Request W) {p : Plan W} {e : Error} (hfail : (q.run p).result = .error e) :
    p.Origin (q.journal p) (q.run p).world e := by
  rw [journal_eq_calls]
  obtain ⟨entry, s, b, w⟩ := q
  cases entry with
  | invoke => exact p.origin_invoke s b w [] e hfail
  | invokeWithInput input => exact p.origin_invoke s (b.withInput input) w [] e hfail
  | invokeNextStep => exact Plan.origin_invokeNextStep hfail []
  | runNextStep given => exact Plan.origin_invokeNextStep (b := given) hfail []

/-- When a call fails in a run of a plan that calls no function itself, the error is that of the
    step above the leaf, at the position of the leaf. -/
theorem error_of_failed_call (q : Request W) {p : Plan W} (hroot : p.node.function = none)
    {c : Call} (hc : c ∈ q.journal p) {cause : Error} (hfail : c.answer = .error cause) :
    ∃ above leaf, ∃ n : PlanNode W, c.leaf = above ++ [n.cursor] ∧ p.at? c.leaf = some leaf ∧
      (q.run p).result = .error (n.stepFailed leaf.node cause) := by
  have htoEnd : ∀ s b w, c ∈ p.calls s b w [] → ∃ above leaf, ∃ n : PlanNode W,
      c.leaf = above ++ [n.cursor] ∧ p.at? c.leaf = some leaf ∧
        (p.invoke s b w).result = .error (n.stepFailed leaf.node cause) := by
    intro s b w hc
    obtain ⟨below, hleaf, -, hraw, hnamed⟩ := Plan.invoke_of_failed_call hfail p b w [] hc
    rw [List.nil_append] at hleaf
    subst hleaf
    obtain hnil | ⟨above, i, hlast⟩ := c.leaf.eq_nil_or_concat'
    · exact absurd hroot (hraw hnil).1
    · obtain ⟨leaf, n, hat, rfl, hresult⟩ := hnamed above i hlast
      exact ⟨above, leaf, n, hlast, hat, hresult⟩
  rw [journal_eq_calls] at hc
  obtain ⟨entry, s, b, w⟩ := q
  cases entry with
  | invoke => exact htoEnd s b w hc
  | invokeWithInput input => exact htoEnd s (b.withInput input) w hc
  | invokeNextStep => exact Plan.invokeNextStep_of_failed_call hc hfail
  | runNextStep given => exact Plan.invokeNextStep_of_failed_call (b := given) hc hfail

end Request

/-! ## Runs that nobody cancels -/

/-- A function that answers with an error. -/
def Fuse.refusing (e : Error) : SkillFunction Fuse where
  view := { collection := "sample", name := "refuse" }
  invoke _ _ w := (.error e, w)

/-- A plan whose second step answers with an error. -/
def Fuse.refused (e : Error) : Plan Fuse :=
  ⟨.ofGoal "outer",
    [.ofFunction (.ofText { collection := "sample", name := "first" } fun _ => "one"),
      .ofFunction (refusing e)]⟩

namespace Plan

/-- Where the run was not cancelled, it fails as cancelled exactly when a function does. A function
    that fails is named by the step above it, with its position, unless its error is of a kind that
    plans make themselves, which is passed on as it is. -/
theorem kind_eq_cancelled_iff {p : Plan W} (hroot : p.node.function = none) (q : Request W)
    (hlive : Cancellable.isCancelled (q.run p).world = false) {e : Error}
    (hfail : (q.run p).result = .error e) :
    (e.kind = .cancelled ↔
        ∃ c ∈ q.journal p, ∃ cause, c.answer = .error cause ∧ cause.kind = .cancelled) ∧
      ∀ c ∈ q.journal p, ∀ cause, c.answer = .error cause →
        if cause.kind = .cancelled ∨ cause.kind = .functionNotBound ∨
            cause.kind = .functionInvokeFailed then e = cause
        else ∃ above i leaf, c.leaf = above ++ [i] ∧ p.at? c.leaf = some leaf ∧
          e.kind = .functionInvokeFailed ∧
          e.noteValue? "step" = some (leaf.node.collection ++ "." ++ leaf.node.name) ∧
          e.noteValue? "step_index" = some (toString i) ∧ e.source = some (.error cause) := by
  have hnamed : ∀ c ∈ q.journal p, ∀ cause, c.answer = .error cause →
      ∃ above leaf, ∃ n : PlanNode W, c.leaf = above ++ [n.cursor] ∧ p.at? c.leaf = some leaf ∧
        e = n.stepFailed leaf.node cause := by
    intro c hc cause hanswer
    obtain ⟨above, leaf, n, hleaf, hat, hresult⟩ := q.error_of_failed_call hroot hc hanswer
    exact ⟨above, leaf, n, hleaf, hat, Except.error.inj (hfail.symm.trans hresult)⟩
  refine ⟨⟨fun hkind => ?_, ?_⟩, ?_⟩
  · obtain ⟨-, hcancelled⟩ | ⟨hother, -⟩ | ⟨c, hc, hanswer⟩ :=
      (q.origin hfail).of_kind_ne (by rw [hkind]; decide)
    · rw [hlive] at hcancelled
      cases hcancelled
    · rw [hkind] at hother
      cases hother
    · exact ⟨c, hc, e, hanswer, hkind⟩
  · rintro ⟨c, hc, cause, hanswer, hkind⟩
    obtain ⟨above, leaf, n, -, -, rfl⟩ := hnamed c hc cause hanswer
    have hnames : PlanNode.namesStep cause = true := by simp [PlanNode.namesStep, hkind]
    rw [PlanNode.stepFailed_of_namesStep hnames, hkind]
  · intro c hc cause hanswer
    obtain ⟨above, leaf, n, hleaf, hat, rfl⟩ := hnamed c hc cause hanswer
    split
    · rename_i hkind
      have hnames : PlanNode.namesStep cause = true := by
        simpa [PlanNode.namesStep, or_assoc] using hkind
      exact PlanNode.stepFailed_of_namesStep hnames n leaf.node
    · rename_i hkind
      have hnames : PlanNode.namesStep cause = false := by
        simpa [PlanNode.namesStep, not_or, and_assoc] using hkind
      rw [PlanNode.stepFailed_of_not_namesStep hnames]
      exact ⟨above, n.cursor, leaf, hleaf, hat, rfl, rfl, rfl, rfl⟩

/-- The second leaf of the inner plan fails in a run of the outer plan. -/
theorem kind_eq_cancelled_iff_nested :
    let q : Request Fuse := ⟨.invoke, {}, ∅, ⟨true⟩⟩
    let cause : Error := .new .networkFailed "down"
    let c : Call := ⟨[0, 1], .ofList [("input", "one")], .error cause⟩
    Fuse.nested.node.function = none ∧ Cancellable.isCancelled (q.run Fuse.nested).world = false ∧
      c ∈ q.journal Fuse.nested ∧ ∃ e, (q.run Fuse.nested).result = .error e ∧
        e.kind ≠ .cancelled ∧ e.noteValue? "step" = some "sample.echo" ∧
        e.noteValue? "step_index" = some "1" ∧ e.source = some (.error cause) := by
  intro q cause c
  have hc : c ∈ Fuse.nested.journal {} ∅ ⟨true⟩ := List.mem_of_getElem? (i := 1) rfl
  obtain ⟨e, hfail⟩ : ∃ e, (q.run Fuse.nested).result = .error e := ⟨_, rfl⟩
  have hlive : Cancellable.isCancelled (q.run Fuse.nested).world = false := rfl
  obtain ⟨-, hnamed⟩ := kind_eq_cancelled_iff rfl q hlive hfail
  obtain ⟨above, i, leaf, hlast, hat, hkind, hstep, hindex, hsource⟩ := hnamed c hc cause rfl
  obtain rfl : i = 1 := by
    obtain ⟨-, hi⟩ := List.append_inj' (show [0] ++ [1] = above ++ [i] from hlast) rfl
    exact (List.singleton_inj.mp hi).symm
  cases hat
  refine ⟨rfl, hlive, hc, e, hfail, ?_, hstep, hindex, hsource⟩
  rw [hkind]
  decide

/-- A run that nobody can cancel fails as cancelled, and its error does not say which step
    failed. -/
theorem cancelled_by_function :
    let p := Fuse.refused (.new .cancelled "the caller hung up")
    (∀ w : Fuse, Cancellable.isCancelled w = false) ∧ p.node.function = none ∧
      ∃ e, (p.invoke {} ∅ ⟨false⟩).result = .error e ∧ e.kind = .cancelled ∧
        e.noteValue? "step" = none ∧ e.noteValue? "step_index" = none :=
  ⟨fun _ => rfl, rfl, _, rfl, rfl, rfl, rfl⟩

end Plan

end SkillPlan

import SkillPlan.Proofs.Plan.Failing
import SkillPlan.Proofs.Plan.Rebinding

/-!
# Plans that can come up

A plan is put together from goals, functions and plans that are there already, or it is read from a
record; then it is run and bound, in any order and with any outcome. Its cursors stay within the
steps and only move on, at every depth, so whatever has happened to a plan, its record is read back.
-/

namespace SkillPlan

variable {W : Type}

/-- An attempt does not move the cursor of its node back. -/
theorem PlanNode.cursor_le_attempt [Cancellable W] [Elapsing W] (n : PlanNode W) (step : Plan W)
    (b : Bag) (w : W) (run : Bag → W → Run W) :
    n.cursor ≤ (n.attempt step b w run).node.cursor := by
  cases hresult : (n.attempt step b w run).result with
  | error e => simp [node_attempt_of_error hresult]
  | ok u => simp [cursor_attempt_of_ok hresult]

namespace Plan

/-! ## Cursors that move on -/

/-- Wherever `p` has a plan, `p'` has one too, with its cursor at the same step or further on. -/
def Ahead (p p' : Plan W) : Prop :=
  ∀ place q, p.at? place = some q → ∃ q', p'.at? place = some q' ∧ q.node.cursor ≤ q'.node.cursor

/-- The same for the steps at each position. -/
def StepsAhead (steps steps' : List (Plan W)) : Prop :=
  ∀ (i : Nat) (step : Plan W), steps[i]? = some step →
    ∃ step', steps'[i]? = some step' ∧ step.Ahead step'

namespace Ahead

theorem refl (p : Plan W) : p.Ahead p := fun _ q hq => ⟨q, hq, Nat.le_refl _⟩

theorem trans {p₁ p₂ p₃ : Plan W} (h : p₁.Ahead p₂) (h' : p₂.Ahead p₃) : p₁.Ahead p₃ := by
  intro place q₁ hq₁
  obtain ⟨q₂, hq₂, hle⟩ := h place q₁ hq₁
  obtain ⟨q₃, hq₃, hle'⟩ := h' place q₂ hq₂
  exact ⟨q₃, hq₃, Nat.le_trans hle hle'⟩

theorem ofSteps {p p' : Plan W} (hcursor : p.node.cursor ≤ p'.node.cursor)
    (hsteps : StepsAhead p.steps p'.steps) : p.Ahead p' := by
  intro place q hq
  cases place with
  | nil =>
    cases hq
    exact ⟨p', rfl, hcursor⟩
  | cons i below =>
    obtain ⟨step, hstep, hq⟩ := Option.bind_eq_some_iff.mp hq
    obtain ⟨step', hstep', hahead⟩ := hsteps i step hstep
    rw [at?_cons hstep']
    exact hahead below q hq

end Ahead

namespace StepsAhead

theorem refl (steps : List (Plan W)) : StepsAhead steps steps :=
  fun _ step hstep => ⟨step, hstep, .refl step⟩

theorem cons {step step' : Plan W} {rest rest' : List (Plan W)} (hstep : step.Ahead step')
    (hrest : StepsAhead rest rest') : StepsAhead (step :: rest) (step' :: rest') := by
  intro i q hq
  cases i with
  | zero =>
    cases hq
    exact ⟨step', rfl, hstep⟩
  | succ i => exact hrest i q hq

theorem map {f : Plan W → Plan W} {steps : List (Plan W)}
    (h : ∀ step ∈ steps, step.Ahead (f step)) : StepsAhead steps (steps.map f) := by
  intro i step hstep
  refine ⟨f step, ?_, h step (List.mem_of_getElem? hstep)⟩
  simp [hstep]

theorem set {steps : List (Plan W)} {i : Nat} {step step' : Plan W} (hget : steps[i]? = some step)
    (hstep : step.Ahead step') : StepsAhead steps (steps.set i step') := by
  intro j q hq
  by_cases hij : i = j
  · subst hij
    obtain rfl : step = q := Option.some.inj (hget.symm.trans hq)
    exact ⟨step', List.getElem?_set_self (List.getElem?_eq_some_iff.mp hget).1, hstep⟩
  · exact ⟨q, by rwa [List.getElem?_set_ne hij], .refl q⟩

end StepsAhead

/-! ## Binding -/

section Binding

variable (r : Registry W)

theorem cursor_bindNode (n : PlanNode W) : (bindNode r n).cursor = n.cursor := by
  unfold bindNode
  cases r.get? n.collection n.name <;> rfl

theorem cursor_bind (p : Plan W) : (p.bind r).node.cursor = p.node.cursor := by
  obtain ⟨node, steps⟩ := p
  cases steps with
  | nil => exact cursor_bindNode r node
  | cons step rest => rfl

theorem steps_bind (p : Plan W) : (p.bind r).steps = p.steps.map (bind r) := by
  obtain ⟨node, steps⟩ := p
  cases steps with
  | nil => rfl
  | cons step rest => exact bindSteps_eq_map _

theorem ahead_bind (p : Plan W) : p.Ahead (p.bind r) := by
  induction p using Plan.induction with
  | h node steps ih =>
    refine .ofSteps (by simp [cursor_bind]) ?_
    rw [steps_bind]
    exact .map ih

/-- What binding keeps of every plan it keeps of all the plans in a plan. -/
theorem Everywhere.bind {P : Plan W → Prop} (hP : ∀ q, P q → P (q.bind r)) {p : Plan W}
    (h : p.Everywhere P) : (p.bind r).Everywhere P := by
  induction p using Plan.induction with
  | h node steps ih =>
    apply Everywhere.ofSteps (hP _ (h _ List.mem_cons_self))
    rw [steps_bind]
    intro step' hstep'
    obtain ⟨step, hstep, rfl⟩ := List.mem_map.mp hstep'
    exact ih step hstep (Everywhere.step h hstep)

theorem CursorsWithin.bind {p : Plan W} (h : p.CursorsWithin) : (p.bind r).CursorsWithin := by
  refine Everywhere.bind r (fun q hq => ?_) h
  rwa [cursor_bind, steps_bind, List.length_map]

theorem WordCursors.bind {p : Plan W} (h : p.WordCursors) : (p.bind r).WordCursors := by
  refine Everywhere.bind r (fun q hq => ?_) h
  rwa [cursor_bind]

end Binding

/-! ## Running -/

section Running

variable [Cancellable W] [Elapsing W]

mutual
theorem ahead_invoke (s : Services W) (b : Bag) (w : W) :
    ∀ p : Plan W, p.Ahead (p.invoke s b w).plan
  | ⟨node, steps⟩ => by
    rw [invoke]
    cases node.function with
    | none =>
      obtain ⟨hcursor, hsteps⟩ := ahead_invokeSteps s node node.cursor b w steps
      exact .ofSteps hcursor hsteps
    | some f =>
      rw [plan_call]
      exact .refl _

theorem ahead_invokeSteps (s : Services W) (node : PlanNode W) (skip : Nat) (b : Bag) (w : W) :
    ∀ steps : List (Plan W),
      node.cursor ≤ (invokeSteps s node skip b w steps).plan.node.cursor ∧
        StepsAhead steps (invokeSteps s node skip b w steps).plan.steps
  | [] => by
    rw [invokeSteps]
    exact ⟨Nat.le_refl _, .refl _⟩
  | step :: rest => by
    cases skip with
    | succ skip =>
      rw [invokeSteps]
      obtain ⟨hcursor, hrest⟩ := ahead_invokeSteps s node skip b w rest
      exact ⟨hcursor, .cons (.refl step) hrest⟩
    | zero =>
      have hnode := node.cursor_le_attempt step (b.mergeMissing node.state) w
        fun b w => step.invoke s b w
      have hstep : step.Ahead (node.attempt step (b.mergeMissing node.state) w
          fun b w => step.invoke s b w).step :=
        PlanNode.step_attempt (.refl step) (fun b w => ahead_invoke s b w step) _ _
      rw [invokeSteps]
      generalize node.attempt step (b.mergeMissing node.state) w _ = a at hnode hstep
      cases a.result with
      | error e => exact ⟨hnode, .cons hstep (.refl rest)⟩
      | ok u =>
        obtain ⟨hcursor, hrest⟩ := ahead_invokeSteps s a.node 0
          ((b.mergeMissing node.state).withInput a.node.state.input) a.world rest
        exact ⟨Nat.le_trans hnode hcursor, .cons hstep hrest⟩
end

theorem ahead_invokeNextStep (p : Plan W) (s : Services W) (b : Bag) (w : W) :
    p.Ahead (p.invokeNextStep s b w).plan := by
  rw [invokeNextStep]
  cases hget : p.steps[p.node.cursor]? with
  | none => exact .refl p
  | some step =>
    have hstep : step.Ahead (p.node.attempt step b w fun b w => step.invoke s b w).step :=
      PlanNode.step_attempt (.refl step) (fun b w => ahead_invoke s b w step) _ _
    exact .ofSteps (p.node.cursor_le_attempt step b w _) (.set hget hstep)

theorem ahead_run (q : Request W) (p : Plan W) : p.Ahead (q.run p).plan := by
  obtain ⟨entry, s, b, w⟩ := q
  cases entry with
  | invoke => exact ahead_invoke s b w p
  | invokeWithInput input => exact ahead_invoke s (b.withInput input) w p
  | invokeNextStep => exact ahead_invokeNextStep p s b w
  | runNextStep given => exact ahead_invokeNextStep p s given w

end Running

/-! ## Plans that can come up -/

variable [Cancellable W] [Elapsing W]

/-- The plans that can come up: those that are built, whose nodes may be given any description,
    state, parameters, outputs and rationale, those that are read from a record, and what runs and
    binding make of them. -/
inductive Reachable : Plan W → Prop
  | ofGoal (goal : String) : Reachable (Plan.ofGoal goal)
  | ofFunction (f : SkillFunction W) : Reachable (Plan.ofFunction f)
  | addStep {p step : Plan W} (hp : Reachable p) (hstep : Reachable step) :
      Reachable (p.addStep step)
  | edit {n : PlanNode W} {steps : List (Plan W)} (hp : Reachable ⟨n, steps⟩)
      (description : String) (state parameters outputs : Bag) (rationale : Option String) :
      Reachable ⟨{ n with description, state, parameters, outputs, rationale }, steps⟩
  | read {x p : Plan W} (h : x.withoutFunctions.checkCursors = .ok p) : Reachable p
  | run {p : Plan W} (hp : Reachable p) (q : Request W) : Reachable (q.run p).plan
  | bind {p : Plan W} (hp : Reachable p) (r : Registry W) : Reachable (p.bind r)

theorem Reachable.cursorsWithin {p : Plan W} (h : p.Reachable) : p.CursorsWithin := by
  induction h with
  | ofGoal goal => exact .ofSteps (Nat.le_refl 0) nofun
  | ofFunction f => exact .ofSteps (Nat.le_refl 0) nofun
  | addStep hp hstep ihp ihstep =>
    apply Everywhere.ofSteps
    · -- there is room for one more
      have hcursor := ihp _ List.mem_cons_self
      simp only [Plan.addStep, List.length_append]
      omega
    · intro q hq
      obtain hq | hq := List.mem_append.mp hq
      · exact Everywhere.step ihp hq
      · rw [List.mem_singleton.mp hq]
        exact ihstep
  | edit hp description state parameters outputs rationale ih =>
    have hcursor := ih _ List.mem_cons_self
    exact .ofSteps hcursor fun step hstep => Everywhere.step ih hstep
  | read h =>
    obtain ⟨rfl, hwithin⟩ := checkCursors_of_ok h
    exact hwithin
  | run hp q ih => exact ih.run q
  | bind hp r ih => exact CursorsWithin.bind r ih

/-- What can be done to a plan: it is run, or it is bound. -/
inductive Act (W : Type) where
  | run (q : Request W)
  | bind (r : Registry W)

/-- The plan after something has been done to it. -/
def Act.apply (p : Plan W) : Act W → Plan W
  | run q => (q.run p).plan
  | bind r => p.bind r

/-- The plan after some things have been done to it, one after the other. -/
def afterActs (p : Plan W) (acts : List (Act W)) : Plan W := acts.foldl Act.apply p

theorem Reachable.afterActs {p : Plan W} (h : p.Reachable) (acts : List (Act W)) :
    (p.afterActs acts).Reachable := by
  induction acts generalizing p with
  | nil => exact h
  | cons a rest ih =>
    cases a with
    | run q => exact ih (h.run q)
    | bind r => exact ih (h.bind r)

theorem ahead_afterActs (p : Plan W) (acts : List (Act W)) : p.Ahead (p.afterActs acts) := by
  induction acts generalizing p with
  | nil => exact .refl p
  | cons a rest ih =>
    cases a with
    | run q => exact (ahead_run q p).trans (ih _)
    | bind r => exact (ahead_bind r p).trans (ih _)

/-- Whatever is done to a plan that can come up, its cursors stay within the steps and only move on,
    a further run changes nothing but states and cursors, and its record is read back as the same
    record. A record is refused exactly if some node in it has its cursor beyond its steps, and then
    as an invalid plan. -/
theorem Reachable.stays_saveable {p : Plan W} (h : p.Reachable) (acts : List (Act W)) :
    let p' := p.afterActs acts
    p'.CursorsWithin ∧ p.Ahead p' ∧ (∀ q : Request W, (q.run p').plan.reset = p'.reset) ∧
      (∃ x, p'.withoutFunctions.checkCursors = .ok x ∧ x.withoutFunctions = p'.withoutFunctions ∧
        x.toJson = p'.toJson) ∧
      ∀ x : Plan W, ((∃ e, x.checkCursors = .error e) ↔
          ∃ q ∈ x :: x.descendants, q.steps.length < q.node.cursor) ∧
        ∀ e, x.checkCursors = .error e → e.kind = .invalidPlan := by
  intro p'
  have hwithin : p'.CursorsWithin := (h.afterActs acts).cursorsWithin
  refine ⟨hwithin, ahead_afterActs p acts, fun q => q.reset_run p', ?_, fun x => ⟨?_, ?_⟩⟩
  · exact ⟨_, checkCursors_withoutFunctions hwithin, withoutFunctions_withoutFunctions p',
      toJson_withoutFunctions p'⟩
  · exact checkCursors_error_iff
  · intro e herror
    obtain ⟨q, -, -, rfl⟩ := checkCursors_eq_error herror
    rfl

/-- A plan in a plan: the inner one fails at its second step in a first run, then everything is bound
    again, and a second run finishes. A record whose inner plan has its cursor beyond its steps is
    refused. -/
theorem Reachable.stays_saveable_nested :
    let q : Request Fuse := ⟨.invoke, {}, ∅, ⟨true⟩⟩
    let acts : List (Act Fuse) := [.run q, .bind ∅, .run { q with world := ⟨false⟩ }]
    let p' := Fuse.nested.afterActs acts
    let refused : Plan Fuse :=
      ⟨.ofGoal "outer", [⟨{ PlanNode.ofGoal "inner" with cursor := 1 }, []⟩]⟩
    Fuse.nested.Ahead p' ∧ p'.node.cursor = 1 ∧
      (∃ x, p'.withoutFunctions.checkCursors = .ok x ∧ x.toJson = p'.toJson) ∧
      ∃ e, refused.checkCursors = .error e ∧ e.kind = .invalidPlan := by
  intro q acts p' refused
  have hinner : (Plan.ofGoal "inner" : Plan Fuse).Reachable := .ofGoal _
  have hreachable : Fuse.nested.Reachable :=
    (Reachable.ofGoal "outer").addStep ((hinner.addStep (.ofFunction _)).addStep (.ofFunction _))
  obtain ⟨-, hahead, -, ⟨x, hread, -, hsame⟩, hrefused⟩ := hreachable.stays_saveable acts
  obtain ⟨hiff, hkind⟩ := hrefused refused
  obtain ⟨e, herror⟩ := hiff.mpr ⟨_, List.mem_cons_of_mem _ List.mem_cons_self, Nat.one_pos⟩
  exact ⟨hahead, rfl, ⟨x, hread, hsame⟩, e, herror, hkind e herror⟩

end Plan

end SkillPlan

import SkillPlan.Plan.Binding
import SkillPlan.Proofs.Plan.Progress
import SkillPlan.Proofs.Plan.Record

/-!
# Saving does not show

A plan that was saved has lost its functions, and a registry gives them back. Where every node
without steps carries just the function that the registry has under its name, the plan that is read
and bound again is the plan that was saved (`rebound_eq`). Runs keep it that way, so it makes no
difference when and how often a plan is saved between them.
-/

namespace SkillPlan

variable {W : Type}

/-- The node carries the function that the registry has under its collection and name, and is called
    and described as that function is; or the registry has none and the node carries none. -/
structure PlanNode.BoundBy (r : Registry W) (n : PlanNode W) : Prop where
  function_eq : n.function = r.get? n.collection n.name
  named : ∀ f, n.function = some f →
    n.name = f.view.name ∧ n.collection = f.view.collection ∧ n.description = f.view.description

theorem PlanNode.BoundBy.bind_eq {r : Registry W} {n : PlanNode W} (h : n.BoundBy r)
    {f : SkillFunction W} (hf : n.function = some f) : n.bind f = n := by
  obtain ⟨hname, hcollection, hdescription⟩ := h.named f hf
  cases n
  simp_all [PlanNode.bind]

namespace Plan

/-! ## Binding -/

section Binding

variable {r : Registry W} {p : Plan W}

/-- Every node without steps carries what the registry has for it. -/
def BoundBy (r : Registry W) (p : Plan W) : Prop :=
  p.Everywhere fun q => q.steps = [] → q.node.BoundBy r

theorem bindSteps_eq_map (steps : List (Plan W)) : bindSteps r steps = steps.map (bind r) := by
  induction steps with
  | nil => rfl
  | cons step rest ih => rw [bindSteps, ih, List.map_cons]

theorem bindNode_eq {n : PlanNode W} (h : n.BoundBy r) : bindNode r n = n := by
  unfold bindNode
  rw [← h.function_eq]
  cases hf : n.function with
  | none => rfl
  | some f => exact h.bind_eq hf

theorem bindNode_withoutFunction {n : PlanNode W} (h : n.BoundBy r) :
    bindNode r { n with function := none } = n := by
  unfold bindNode
  simp only [← h.function_eq]
  cases hf : n.function with
  | none => simp only [← hf]
  | some f => exact h.bind_eq hf

/-- Binding finds every function again. -/
theorem bind_withoutFunctions (hunmixed : p.Unmixed) (hbound : p.BoundBy r) :
    p.withoutFunctions.bind r = p := by
  induction p using Plan.induction with
  | h node steps ih =>
    cases steps with
    | nil =>
      have hnode : node.BoundBy r := hbound _ List.mem_cons_self rfl
      rw [withoutFunctions, stepsWithoutFunctions, bind, bindNode_withoutFunction hnode]
    | cons step rest =>
      have hfunction : node.function = none := by
        cases hunmixed _ List.mem_cons_self with
        | inl h => exact h
        | inr h => cases h
      have hsteps : ∀ q ∈ step :: rest, q.withoutFunctions.bind r = q := fun q hq =>
        ih q hq (Everywhere.step hunmixed hq) (Everywhere.step hbound hq)
      have hmap : bindSteps r (stepsWithoutFunctions (step :: rest)) = step :: rest := by
        rw [stepsWithoutFunctions_eq_map, bindSteps_eq_map, List.map_map]
        exact (List.map_congr_left (g := id) hsteps).trans (List.map_id _)
      rw [withoutFunctions, ← hfunction]
      rw [stepsWithoutFunctions] at hmap ⊢
      rw [bind, hmap]

/-- Binding a bound plan changes nothing. -/
theorem bind_eq_self (hbound : p.BoundBy r) : p.bind r = p := by
  induction p using Plan.induction with
  | h node steps ih =>
    cases steps with
    | nil => rw [bind, bindNode_eq (hbound _ List.mem_cons_self rfl)]
    | cons step rest =>
      have hsteps : ∀ q ∈ step :: rest, q.bind r = q := fun q hq =>
        ih q hq (Everywhere.step hbound hq)
      have hmap : bindSteps r (step :: rest) = step :: rest := by
        rw [bindSteps_eq_map]
        exact (List.map_congr_left (g := id) hsteps).trans (List.map_id _)
      rw [bind, hmap]

mutual
/-- How many functions are found does not depend on those that are there. -/
theorem bindCount_withoutFunctions : ∀ p : Plan W, p.withoutFunctions.bindCount r = p.bindCount r
  | ⟨_, []⟩ => rfl
  | ⟨_, step :: rest⟩ => stepsBindCount_withoutFunctions (step :: rest)

theorem stepsBindCount_withoutFunctions : ∀ steps : List (Plan W),
    stepsBindCount r (stepsWithoutFunctions steps) = stepsBindCount r steps
  | [] => rfl
  | step :: rest => by
    rw [stepsWithoutFunctions, stepsBindCount, stepsBindCount, bindCount_withoutFunctions step,
      stepsBindCount_withoutFunctions rest]
end

theorem BoundBy.of_reset_eq {p' : Plan W} (h : p.BoundBy r) (heq : p'.reset = p.reset) :
    p'.BoundBy r := by
  refine Everywhere.of_reset_eq h (fun q => ?_) heq
  -- the name, the collection, the description and the function are not reset
  have hnode : q.reset.node.BoundBy r ↔ q.node.BoundBy r := by
    rw [node_reset]
    exact ⟨fun h => ⟨h.function_eq, h.named⟩, fun h => ⟨h.function_eq, h.named⟩⟩
  rw [hnode, ← List.isEmpty_iff, ← List.isEmpty_iff, steps_isEmpty_reset]

end Binding

/-! ## Cursors -/

section Cursors

variable [Cancellable W] [Elapsing W]

/-- A run of the steps that are left moves the cursor by no more than their number. -/
theorem cursor_invokeSteps_le {s : Services W} {steps : List (Plan W)}
    (hwithin : ∀ step ∈ steps, step.CursorsWithin)
    (hinvoke : ∀ step ∈ steps, ∀ b w, (step.invoke s b w).plan.CursorsWithin) (node : PlanNode W)
    (b : Bag) (w : W) :
    (∀ step ∈ (invokeSteps s node 0 b w steps).plan.steps, step.CursorsWithin) ∧
      (invokeSteps s node 0 b w steps).plan.node.cursor ≤ node.cursor + steps.length := by
  induction steps generalizing node b w with
  | nil =>
    rw [invokeSteps]
    exact ⟨nofun, Nat.le_refl _⟩
  | cons step rest ih =>
    have hstep : (node.attempt step (b.mergeMissing node.state) w
        fun b w => step.invoke s b w).step.CursorsWithin :=
      PlanNode.step_attempt (hwithin step List.mem_cons_self) (hinvoke step List.mem_cons_self) _ _
    have hrest : ∀ q ∈ rest, q.CursorsWithin := fun q hq => hwithin q (List.mem_cons_of_mem _ hq)
    rw [invokeSteps]
    cases hresult : (node.attempt step (b.mergeMissing node.state) w
        fun b w => step.invoke s b w).result with
    | error e =>
      simp only [PlanNode.node_attempt_of_error hresult, List.length_cons]
      exact ⟨List.forall_mem_cons.mpr ⟨hstep, hrest⟩, Nat.le_add_right _ _⟩
    | ok u =>
      obtain ⟨hsteps, hcursor⟩ := ih hrest
        (fun q hq => hinvoke q (List.mem_cons_of_mem _ hq)) _ _ _
      rw [PlanNode.cursor_attempt_of_ok hresult] at hcursor
      simp only [Run.behind, List.length_cons]
      exact ⟨List.forall_mem_cons.mpr ⟨hstep, hsteps⟩, by omega⟩

theorem CursorsWithin.invoke {p : Plan W} (h : p.CursorsWithin) (s : Services W) (b : Bag) (w : W) :
    (p.invoke s b w).plan.CursorsWithin := by
  induction p using Plan.induction generalizing b w with
  | h node steps ih =>
    cases hfunction : node.function with
    | some f =>
      rw [invoke_of_function hfunction, plan_call]
      exact h
    | none =>
      have hcursor : node.cursor ≤ steps.length := h _ List.mem_cons_self
      have hlength := length_steps_of_reset_eq (reset_invoke s b w ⟨node, steps⟩)
      have hleft : ∀ step ∈ steps.drop node.cursor, step.CursorsWithin := fun step hstep =>
        Everywhere.step h (List.mem_of_mem_drop hstep)
      have hinvoke : ∀ step ∈ steps.drop node.cursor, ∀ b w,
          (step.invoke s b w).plan.CursorsWithin := fun step hstep =>
        ih step (List.mem_of_mem_drop hstep) (hleft step hstep)
      obtain ⟨hsteps, hle⟩ := cursor_invokeSteps_le hleft hinvoke node b w
      rw [invoke_eq_behindAll hfunction] at hlength ⊢
      apply Everywhere.ofSteps
      · rw [hlength]
        rw [List.length_drop] at hle
        exact Nat.le_trans hle (by simp only; omega)
      · intro step hstep
        cases List.mem_append.mp hstep with
        | inl hdone => exact Everywhere.step h (List.mem_of_mem_take hdone)
        | inr hleft => exact hsteps step hleft

theorem CursorsWithin.invokeNextStep {p : Plan W} (h : p.CursorsWithin) (s : Services W) (b : Bag)
    (w : W) : (p.invokeNextStep s b w).plan.CursorsWithin := by
  cases hget : p.steps[p.node.cursor]? with
  | none =>
    rw [Plan.invokeNextStep, hget]
    exact h
  | some step =>
    obtain ⟨done, rest, hsteps, hcursor⟩ := exists_steps_eq hget
    obtain ⟨node, steps⟩ := p
    simp only at hsteps hcursor
    subst hsteps
    have hwithin : ∀ q ∈ done ++ step :: rest, q.CursorsWithin := fun q => Everywhere.step h
    have hstep : (node.attempt step b w fun b w => step.invoke s b w).step.CursorsWithin := by
      have hold : step.CursorsWithin := hwithin step (by simp)
      exact PlanNode.step_attempt hold (fun b w => hold.invoke s b w) _ _
    rw [invokeNextStep_append hcursor]
    apply Everywhere.ofSteps
    · -- the cursor moves only if there was a step under it
      simp only [List.length_append, List.length_cons]
      cases hresult : (node.attempt step b w fun b w => step.invoke s b w).result with
      | error e =>
        rw [PlanNode.node_attempt_of_error hresult]
        omega
      | ok u =>
        rw [PlanNode.cursor_attempt_of_ok hresult]
        omega
    · intro q hq
      simp only [List.mem_append, List.mem_cons] at hq hwithin
      obtain hq | rfl | hq := hq
      · exact hwithin q (.inl hq)
      · exact hstep
      · exact hwithin q (.inr (.inr hq))

theorem CursorsWithin.run {p : Plan W} (h : p.CursorsWithin) (q : Request W) :
    (q.run p).plan.CursorsWithin := by
  obtain ⟨entry, s, b, w⟩ := q
  cases entry with
  | invoke => exact h.invoke s b w
  | invokeWithInput input => exact h.invoke s (b.withInput input) w
  | invokeNextStep => exact h.invokeNextStep s b w
  | runNextStep given => exact h.invokeNextStep s given w

end Cursors

/-! ## Saving between runs -/

/-- A plan of which nothing is lost for good when it is saved, as long as the registry is there. -/
structure Restorable (r : Registry W) (p : Plan W) : Prop where
  unmixed : p.Unmixed
  bound : p.BoundBy r
  cursors : p.CursorsWithin

namespace Restorable

variable {r : Registry W}

theorem ofSteps {p : Plan W} (hunmixed : p.node.function = none ∨ p.steps = [])
    (hbound : p.steps = [] → p.node.BoundBy r) (hcursor : p.node.cursor ≤ p.steps.length)
    (hsteps : ∀ step ∈ p.steps, step.Restorable r) : p.Restorable r where
  unmixed := .ofSteps hunmixed fun step hstep => (hsteps step hstep).unmixed
  bound := .ofSteps hbound fun step hstep => (hsteps step hstep).bound
  cursors := .ofSteps hcursor fun step hstep => (hsteps step hstep).cursors

/-- A plan that calls a registered function. -/
theorem ofFunction {f : SkillFunction W} (h : r.get? f.view.collection f.view.name = some f) :
    (Plan.ofFunction f).Restorable r := by
  refine ofSteps (.inr rfl) (fun _ => ⟨h.symm, ?_⟩) (Nat.le_refl 0) (List.forall_mem_nil _)
  intro g hg
  cases hg
  exact ⟨rfl, rfl, rfl⟩

/-- A goal that no registered function is named after. -/
theorem ofGoal {goal : String} (h : r.get? planCollection goal = none) :
    (Plan.ofGoal goal : Plan W).Restorable r :=
  ofSteps (.inr rfl) (fun _ => ⟨h.symm, nofun⟩) (Nat.le_refl 0) (List.forall_mem_nil _)

end Restorable

/-- The plan that is read from the record of a plan and bound again. -/
def rebound (r : Registry W) (p : Plan W) : Except Error (Plan W) :=
  p.withoutFunctions.checkCursors.map (·.bind r)

theorem rebound_eq {r : Registry W} {p : Plan W} (h : p.Restorable r) : p.rebound r = .ok p := by
  rw [rebound, checkCursors_withoutFunctions h.cursors]
  exact congrArg Except.ok (bind_withoutFunctions h.unmixed h.bound)

/-- What happens to a plan: a run that is asked for, or that it is saved and bound again. -/
inductive Event (W : Type) where
  | run (q : Request W)
  | save

/-- The runs among some events. -/
def Event.requests : List (Event W) → List (Request W)
  | [] => []
  | run q :: rest => q :: requests rest
  | save :: rest => requests rest

variable [Cancellable W] [Elapsing W]

theorem Restorable.run {r : Registry W} {p : Plan W} (h : p.Restorable r) (q : Request W) :
    (q.run p).plan.Restorable r where
  unmixed := h.unmixed.of_reset_eq (q.reset_run p)
  bound := h.bound.of_reset_eq (q.reset_run p)
  cursors := h.cursors.run q

/-- What some runs, one after the other, leave behind, and the calls that each of them makes. -/
def trace (p : Plan W) : List (Request W) → List (Run W × List Call)
  | [] => []
  | q :: rest => (q.run p, q.journal p) :: (q.run p).plan.trace rest

/-- The plan after some events, and what the runs among them leave behind and call. -/
def replay (r : Registry W) (p : Plan W) :
    List (Event W) → Except Error (Plan W × List (Run W × List Call))
  | [] => .ok (p, [])
  | .run q :: rest => do
    let (p', runs) ← (q.run p).plan.replay r rest
    return (p', (q.run p, q.journal p) :: runs)
  | .save :: rest => do
    let p' ← p.rebound r
    p'.replay r rest

/-- Where the registry has what the nodes carry, saving a plan and binding it again gives it back,
    binding it once more changes nothing and finds as many functions, and whenever it is saved
    between runs, they make the same calls and leave the same behind. -/
theorem saving_does_not_show {r : Registry W} {p : Plan W} (h : p.Restorable r)
    (es : List (Event W)) :
    p.rebound r = .ok p ∧ p.bind r = p ∧ p.bindCount r = p.withoutFunctions.bindCount r ∧
      p.replay r es = .ok (p.after (Event.requests es), p.trace (Event.requests es)) := by
  refine ⟨rebound_eq h, bind_eq_self h.bound, (bindCount_withoutFunctions p).symm, ?_⟩
  induction es generalizing p with
  | nil => rfl
  | cons e rest ih =>
    cases e with
    | run q =>
      rw [replay, ih (h.run q)]
      rfl
    | save =>
      rw [replay, rebound_eq h]
      exact ih h

/-- A plan in a plan, whose leaves are a function of a collection, one without a collection, and one
    that is not registered; it is saved before, between and after two runs. -/
theorem saving_does_not_show_nested :
    let first : SkillFunction Fuse :=
      .ofText { collection := "Sample", name := "First", description := "says one" } fun _ => "one"
    let second : SkillFunction Fuse := .ofText { collection := "", name := "Second" } Bag.input
    let r : Registry Fuse := .ofList [first, second]
    let inner : Plan Fuse := ⟨.ofGoal "inner", [.ofFunction first, .ofFunction second]⟩
    let p : Plan Fuse := ⟨.ofGoal "outer", [inner, .ofGoal "third"]⟩
    let q : Request Fuse := ⟨.runNextStep ∅, {}, ∅, ⟨false⟩⟩
    let es : List (Event Fuse) := [.save, .run q, .save, .run q, .save]
    p.rebound r = .ok p ∧ p.bind r = p ∧ p.bindCount r = p.withoutFunctions.bindCount r ∧
      p.replay r es = .ok (p.after (Event.requests es), p.trace (Event.requests es)) := by
  intro first second r inner p q es
  have hfirst : r.get? "Sample" "First" = some first := by
    change ((∅ : Registry Fuse).add first |>.add second).get? _ _ = _
    rw [Registry.get?_add, if_neg (by decide), Registry.get?_add, if_pos (by decide)]
  have hsecond : r.get? "" "Second" = some second := by
    change ((∅ : Registry Fuse).add first |>.add second).get? _ _ = _
    rw [Registry.get?_add, if_pos (by decide)]
  have hthird : r.get? planCollection "third" = none := by
    change ((∅ : Registry Fuse).add first |>.add second).get? _ _ = _
    rw [Registry.get?_add, if_neg (by decide), Registry.get?_add, if_neg (by decide)]
    rfl
  have hinner : inner.Restorable r := by
    refine Restorable.ofSteps (.inl rfl) (fun h => by cases h) (Nat.zero_le _) ?_
    exact List.forall_mem_cons.mpr
      ⟨.ofFunction hfirst, List.forall_mem_singleton.mpr (.ofFunction hsecond)⟩
  have hp : p.Restorable r := by
    refine Restorable.ofSteps (.inl rfl) (fun h => by cases h) (Nat.zero_le _) ?_
    exact List.forall_mem_cons.mpr ⟨hinner, List.forall_mem_singleton.mpr (.ofGoal hthird)⟩
  exact saving_does_not_show hp es

end Plan

end SkillPlan

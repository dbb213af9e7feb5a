import SkillPlan.Machine
import SkillPlan.Proofs.Plan.Shape

/-!
# Runs that cannot fail

When no function of a plan fails, every step below it has something to run and the run is not
cancelled, the plan runs to its end. What "no function fails" and "not cancelled" mean is said by a
property of worlds that lasts: functions may fail before it holds.
-/

namespace SkillPlan

variable {W : Type} {good : W → Prop}

/-- In good worlds the function succeeds, and what it leaves behind is good. -/
def SkillFunction.SucceedsIn (good : W → Prop) (f : SkillFunction W) : Prop :=
  ∀ s b w, good w → (∃ text, (f.invoke s b w).1 = .ok text) ∧ good (f.invoke s b w).2

/-- What the function answers when it succeeds depends on its variables only. -/
def SkillFunction.Steady (f : SkillFunction W) : Prop :=
  ∃ answer : Bag → String, ∀ s b w text, (f.invoke s b w).1 = .ok text → text = answer b

/-- Good worlds are not cancelled, and stay good while time passes. -/
structure Calm [Cancellable W] [Elapsing W] (good : W → Prop) : Prop where
  live : ∀ w, good w → Cancellable.isCancelled w = false
  lasts : ∀ w, good w → good (Elapsing.elapse w)

/-- Running machines are those on which runs are not cancelled. -/
def Machine.IsRunning (m : Machine) : Prop := m.cancelled = false

theorem Machine.calm_isRunning : Calm Machine.IsRunning where
  live _ h := h
  lasts _ h := h

namespace SkillFunction

/-- Functions of texts cannot fail. -/
theorem succeedsIn_ofText (view : FunctionView) (handler : Bag → String) :
    (SkillFunction.ofText view handler).SucceedsIn good :=
  fun _ _ _ hw => ⟨⟨_, rfl⟩, hw⟩

theorem steady_ofText (view : FunctionView) (handler : Bag → String) :
    (SkillFunction.ofText (W := W) view handler).Steady :=
  ⟨fun b => handler (view.applyDefaults b), fun _ _ _ _ h => (Except.ok.inj h).symm⟩

end SkillFunction

namespace Plan

/-- Every step below the plan has something to run, and no function fails in good worlds. -/
structure Reliable (good : W → Prop) (p : Plan W) : Prop where
  bound : ∀ step ∈ p.steps, step.Everywhere fun q => q.isUnbound = false
  succeeds : p.Everywhere fun q => ∀ f, q.node.function = some f → f.SucceedsIn good

/-- What the functions of the plan answer when they succeed depends on their variables only. -/
def Steady (p : Plan W) : Prop := p.Everywhere fun q => ∀ f, q.node.function = some f → f.Steady

/-- A leaf that calls a function of texts. -/
theorem Steady.ofText {node : PlanNode W} {view : FunctionView} {handler : Bag → String}
    (h : node.function = some (.ofText view handler)) : Steady ⟨node, []⟩ := by
  refine .ofSteps (fun f hf => ?_) (fun step hstep => by cases hstep)
  cases h.symm.trans hf
  exact SkillFunction.steady_ofText view handler

namespace Reliable

variable {p p' : Plan W}

theorem isUnbound_step (h : p.Reliable good) {step : Plan W} (hstep : step ∈ p.steps) :
    step.isUnbound = false :=
  h.bound step hstep step List.mem_cons_self

theorem step (h : p.Reliable good) {step : Plan W} (hstep : step ∈ p.steps) :
    step.Reliable good where
  bound _ hbelow := (h.bound step hstep).step hbelow
  succeeds := h.succeeds.step hstep

theorem ofSteps (hfunction : ∀ f, p.node.function = some f → f.SucceedsIn good)
    (hsteps : ∀ step ∈ p.steps, step.isUnbound = false ∧ step.Reliable good) :
    p.Reliable good where
  bound step hstep := .ofSteps (hsteps step hstep).1 (hsteps step hstep).2.bound
  succeeds := .ofSteps hfunction fun step hstep => (hsteps step hstep).2.succeeds

/-- A leaf that calls a function of texts. -/
theorem ofText {node : PlanNode W} {view : FunctionView} {handler : Bag → String}
    (h : node.function = some (.ofText view handler)) : Reliable good ⟨node, []⟩ := by
  refine ofSteps (fun f hf => ?_) (fun step hstep => by cases hstep)
  cases h.symm.trans hf
  exact SkillFunction.succeedsIn_ofText view handler

/-- Reliability does not depend on states and cursors. -/
theorem of_reset_eq (h : p.Reliable good) (heq : p'.reset = p.reset) : p'.Reliable good where
  bound step' hstep' := by
    have hmap : p'.steps.map reset = p.steps.map reset := by
      rw [← resetSteps_eq_map, ← resetSteps_eq_map, ← steps_reset, ← steps_reset, heq]
    -- the step has a counterpart in `p` that differs from it in states and cursors only
    have hmem : step'.reset ∈ p.steps.map reset := hmap ▸ List.mem_map_of_mem hstep'
    obtain ⟨step, hstep, hsame⟩ := List.mem_map.mp hmem
    exact (h.bound step hstep).of_reset_eq (fun q => by rw [isUnbound_reset]) hsame.symm
  succeeds := h.succeeds.of_reset_eq (fun q => by rw [node_reset]; exact Iff.rfl) heq

end Reliable

variable [Cancellable W] [Elapsing W]

theorem attempt_reliable (hcalm : Calm good) {n : PlanNode W} {step : Plan W}
    {run : Bag → W → Run W}
    (hrun : ∀ b w, good w → (run b w).result = .ok () ∧ good (run b w).world)
    (hbound : step.isUnbound = false) (b : Bag) {w : W} (hw : good w) :
    (n.attempt step b w run).result = .ok () ∧ good (n.attempt step b w run).world := by
  have hgood := hcalm.lasts w hw
  have houtcome := n.attempt_outcome step b w run
  generalize n.attempt step b w run = a at houtcome
  cases houtcome with
  | cancelled h => exact absurd (hcalm.live _ hgood) (by rw [h]; decide)
  | notBound _ h => exact absurd hbound (by rw [h]; decide)
  | failed _ _ r hr e h =>
    have hok := (hrun (n.stepVariables b step) _ hgood).1
    rw [hr, h] at hok
    cases hok
  | done _ _ r hr h => exact ⟨rfl, hr ▸ (hrun _ _ hgood).2⟩

mutual
/-- A reliable plan runs to its end. -/
theorem invoke_reliable (hcalm : Calm good) (s : Services W) (b : Bag) {w : W} (hw : good w) :
    ∀ p : Plan W, p.Reliable good →
      (p.invoke s b w).result = .ok () ∧ good (p.invoke s b w).world
  | ⟨node, steps⟩, h => by
    rw [invoke]
    cases hf : node.function with
    | none =>
      exact invokeSteps_reliable hcalm s node node.cursor b hw steps fun step hstep =>
        ⟨h.step hstep, h.isUnbound_step hstep⟩
    | some f =>
      obtain ⟨⟨text, htext⟩, hgood⟩ := h.succeeds _ List.mem_cons_self f hf s b w hw
      simp only [call]
      cases hanswer : f.invoke s b w with
      | mk answer w' =>
        rw [hanswer] at htext hgood
        cases htext
        exact ⟨rfl, hgood⟩

theorem invokeSteps_reliable (hcalm : Calm good) (s : Services W) (node : PlanNode W) (skip : Nat)
    (b : Bag) {w : W} (hw : good w) :
    ∀ steps : List (Plan W), (∀ step ∈ steps, step.Reliable good ∧ step.isUnbound = false) →
      (invokeSteps s node skip b w steps).result = .ok () ∧
        good (invokeSteps s node skip b w steps).world
  | [], _ => by
    rw [invokeSteps]
    exact ⟨rfl, hw⟩
  | step :: rest, h => by
    have hrest : ∀ step ∈ rest, step.Reliable good ∧ step.isUnbound = false :=
      fun step hstep => h step (List.mem_cons_of_mem _ hstep)
    cases skip with
    | succ skip =>
      rw [invokeSteps]
      exact invokeSteps_reliable hcalm s node skip b hw rest hrest
    | zero =>
      obtain ⟨hstep, hbound⟩ := h step List.mem_cons_self
      obtain ⟨hok, hgood⟩ := attempt_reliable hcalm (n := node)
        (fun b w hw => invoke_reliable hcalm s b hw step hstep) hbound
        (b.mergeMissing node.state) hw
      simp only [invokeSteps, hok]
      exact invokeSteps_reliable hcalm s _ 0 _ hgood rest hrest
end

end Plan

/-! ## A function that fails once -/

/-- A world in which the next call of a fragile function fails when the fuse is lit. -/
structure Fuse where
  lit : Bool

namespace Fuse

instance : Cancellable Fuse := ⟨fun _ => false⟩

/-- Functions cannot fail while the fuse is not lit. -/
def IsOut (w : Fuse) : Prop := w.lit = false

theorem calm_isOut : Calm IsOut where
  live _ _ := rfl
  lasts _ h := h

/-- The function that answers its main value, or fails and puts the fuse out. -/
def fragile : SkillFunction Fuse where
  view := { collection := "sample", name := "echo" }
  invoke _ b w :=
    if w.lit then (.error (.new .networkFailed "down"), ⟨false⟩) else (.ok b.input, w)

theorem succeedsIn_fragile : fragile.SucceedsIn IsOut := by
  intro s b w hw
  have hanswer : fragile.invoke s b w = (.ok b.input, w) :=
    if_neg (by rw [show w.lit = false from hw]; decide)
  rw [hanswer]
  exact ⟨⟨_, rfl⟩, hw⟩

theorem steady_fragile : fragile.Steady := by
  refine ⟨Bag.input, fun s b w text h => ?_⟩
  cases w with
  | mk lit => cases lit <;> cases h; rfl

/-- A plan in a plan: its first step answers a text, its second one is fragile. -/
def nested : Plan Fuse :=
  ⟨.ofGoal "outer", [⟨.ofGoal "inner",
    [.ofFunction (.ofText { collection := "sample", name := "first" } fun _ => "one"),
      .ofFunction fragile]⟩]⟩

theorem reliable_nested : nested.Reliable IsOut := by
  have hfragile : (Plan.ofFunction fragile).Reliable IsOut :=
    .ofSteps (fun f hf => by cases hf; exact succeedsIn_fragile) nofun
  refine .ofSteps nofun (List.forall_mem_singleton.mpr ⟨rfl, .ofSteps nofun ?_⟩)
  exact List.forall_mem_cons.mpr ⟨⟨rfl, .ofText rfl⟩, List.forall_mem_singleton.mpr ⟨rfl, hfragile⟩⟩

theorem steady_nested : nested.Steady := by
  have hfragile : (Plan.ofFunction fragile).Steady :=
    .ofSteps (fun f hf => by cases hf; exact steady_fragile) nofun
  refine .ofSteps nofun (List.forall_mem_singleton.mpr (.ofSteps nofun ?_))
  exact List.forall_mem_cons.mpr ⟨Plan.Steady.ofText rfl, List.forall_mem_singleton.mpr hfragile⟩

end Fuse

end SkillPlan

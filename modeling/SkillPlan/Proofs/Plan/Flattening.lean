import SkillPlan.Proofs.Plan.Cancelling
import SkillPlan.Proofs.Plan.Succeeding

/-!
# Nested plans and flat ones

Where the nodes of a plan hold no variables of their own, only main values pass from step to step.
Such a plan is run like its leaves one after the other: each is handed the text that the one before
it answered, without white space at its ends, and how deeply it is nested does not matter. `Thread`
says what the leaves of a list answer in this way, and every run follows it.
-/

namespace SkillPlan

variable {W : Type} {good : W → Prop}

/-! ## Plans without variables -/

/-- A node before its first step that holds no variables of its own. -/
structure PlanNode.Bare (n : PlanNode W) : Prop where
  state : n.state = ∅
  parameters : n.parameters = ∅
  outputs : n.outputs = ∅
  cursor : n.cursor = 0

/-- A function that declares no parameters and does not answer blank texts. -/
structure SkillFunction.Speaks (f : SkillFunction W) : Prop where
  parameters : f.view.parameters = []
  notBlank : ∀ s b w text, (f.invoke s b w).1 = .ok text → Text.trim text ≠ ""

namespace Plan

/-- Only main values pass through the plan: its nodes hold no variables, and the texts that its
    functions answer depend on what they are handed only. -/
structure Threading (good : W → Prop) (p : Plan W) : Prop where
  reliable : p.Reliable good
  steady : p.Steady
  unmixed : p.Unmixed
  bare : p.Everywhere fun q => q.node.Bare
  speaks : p.Everywhere fun q => ∀ f, q.node.function = some f → f.Speaks

namespace Threading

variable {p : Plan W}

theorem step (h : p.Threading good) {step : Plan W} (hstep : step ∈ p.steps) :
    step.Threading good where
  reliable := h.reliable.step hstep
  steady := Everywhere.step h.steady hstep
  unmixed := Everywhere.step h.unmixed hstep
  bare := h.bare.step hstep
  speaks := h.speaks.step hstep

theorem ofSteps (hnode : p.node.Bare) (hunmixed : p.node.function = none ∨ p.steps = [])
    (hfunction : ∀ f, p.node.function = some f → f.SucceedsIn good ∧ f.Steady ∧ f.Speaks)
    (hsteps : ∀ step ∈ p.steps, step.isUnbound = false ∧ step.Threading good) :
    p.Threading good where
  reliable := .ofSteps (fun f hf => (hfunction f hf).1) fun step hstep =>
    ⟨(hsteps step hstep).1, (hsteps step hstep).2.reliable⟩
  steady := .ofSteps (fun f hf => (hfunction f hf).2.1) fun step hstep =>
    (hsteps step hstep).2.steady
  unmixed := .ofSteps hunmixed fun step hstep => (hsteps step hstep).2.unmixed
  bare := .ofSteps hnode fun step hstep => (hsteps step hstep).2.bare
  speaks := .ofSteps (fun f hf => (hfunction f hf).2.2) fun step hstep =>
    (hsteps step hstep).2.speaks

theorem descendant (h : p.Threading good) {q : Plan W} (hq : q ∈ p :: p.descendants) :
    q.Threading good := by
  induction p using Plan.induction with
  | h node steps ih =>
    cases hq with
    | head => exact h
    | tail _ hq =>
      obtain ⟨step, hstep, hq⟩ := mem_descendants.mp hq
      exact ih step hstep (h.step hstep) hq

theorem bare_node (h : p.Threading good) : p.node.Bare := h.bare p List.mem_cons_self

theorem parameters_view (h : p.Threading good) : p.node.view.parameters = [] := by
  unfold PlanNode.view
  cases hf : p.node.function with
  | none => rfl
  | some f => exact (h.speaks p List.mem_cons_self f hf).parameters

theorem isLeaf_of_some (h : p.Threading good) {f : SkillFunction W}
    (hf : p.node.function = some f) : p.isLeaf = true := by
  obtain hnone | hsteps := h.unmixed p List.mem_cons_self
  · cases hnone.symm.trans hf
  · rw [isLeaf, hsteps, hf]
    rfl

end Threading

theorem isUnbound_of_isLeaf {p : Plan W} (h : p.isLeaf = true) : p.isUnbound = false := by
  obtain ⟨f, hf⟩ := Option.isSome_iff_exists.mp (Bool.and_eq_true_iff.mp h).2
  rw [isUnbound, hf]
  exact Bool.and_false _

theorem steps_ne_nil_of_none {p : Plan W} (hbound : p.isUnbound = false)
    (hf : p.node.function = none) : p.steps ≠ [] := by
  intro hsteps
  rw [isUnbound, hsteps, hf] at hbound
  cases hbound

/-! ## Leaves in a row -/

/-- The leaves of the plan, from left to right. -/
def leafPlans (p : Plan W) : List (Plan W) := (p :: p.descendants).filter isLeaf

theorem leafPlans_of_isLeaf {p : Plan W} (h : p.isLeaf = true) : p.leafPlans = [p] := by
  have hsteps : p.steps = [] := List.isEmpty_iff.mp (Bool.and_eq_true_iff.mp h).1
  rw [leafPlans, descendants_eq, hsteps, stepsDescendants, List.filter_singleton, h]
  rfl

theorem leafPlans_of_none {p : Plan W} (h : p.node.function = none) :
    p.leafPlans = p.steps.flatMap leafPlans := by
  have hleaf : ¬ p.isLeaf = true := by simp [isLeaf, h]
  have hsteps : ∀ steps : List (Plan W),
      (stepsDescendants steps).filter isLeaf = steps.flatMap leafPlans := by
    intro steps
    induction steps with
    | nil => rfl
    | cons step rest ih =>
      rw [stepsDescendants, List.filter_append, ih, List.flatMap_cons, leafPlans]
  rw [leafPlans, List.filter_cons_of_neg hleaf, descendants_eq, hsteps]

theorem Threading.leafPlans_ne_nil {p : Plan W} (h : p.Threading good)
    (hbound : p.isUnbound = false) : p.leafPlans ≠ [] := by
  induction p using Plan.induction with
  | h node steps ih =>
    cases hf : node.function with
    | some f =>
      rw [leafPlans_of_isLeaf (h.isLeaf_of_some hf)]
      exact List.cons_ne_nil _ _
    | none =>
      rw [leafPlans_of_none hf]
      obtain ⟨first, rest, hsteps⟩ := List.exists_cons_of_ne_nil (steps_ne_nil_of_none hbound hf)
      have hfirst : first ∈ steps := by
        change first ∈ (⟨node, steps⟩ : Plan W).steps
        rw [hsteps]
        exact List.mem_cons_self
      have hne := ih first hfirst (h.step hfirst) (h.reliable.isUnbound_step hfirst)
      rw [hsteps, List.flatMap_cons]
      exact List.append_ne_nil_of_left_ne_nil hne _

/-- A call without its place: which plan was called, with which variables and with what answer. -/
abbrev Sight (W : Type) := Option (Plan W) × Bag × Except Error String

/-- The call of a leaf of the plan, without its place. -/
def sight (p : Plan W) (c : Call) : Sight W := (p.at? c.leaf, c.given, c.answer)

/-- The leaves, called one after the other from the main value `v` on, come to the main value `u`.
    Each is handed the main value alone, and `said` tells what it answered. -/
inductive Thread (good : W → Prop) : String → List (Plan W) → List (Sight W) → String → Prop
  | nil (v : String) : Thread good v [] [] v
  | cons {v text u : String} {leaf : Plan W} {rest : List (Plan W)} {said} {f : SkillFunction W}
      (hf : leaf.node.function = some f)
      (hanswer : ∀ s w, good w → (f.invoke s ((∅ : Bag).withInput v) w).1 = .ok text)
      (hne : Text.trim text ≠ "") (hrest : Thread good (Text.trim text) rest said u) :
      Thread good v (leaf :: rest) ((some leaf, (∅ : Bag).withInput v, .ok text) :: said) u

namespace Thread

variable {v u : String} {leaves : List (Plan W)} {said : List (Sight W)}

theorem main_ne (h : Thread good v leaves said u) (hv : v ≠ "") : u ≠ "" := by
  induction h with
  | nil => exact hv
  | cons _ _ hne _ ih => exact ih hne

/-- Leaves are called after the ones in front of them. -/
theorem split {more : List (Plan W)} (h : Thread good v (leaves ++ more) said u) :
    ∃ before between after, Thread good v leaves before between ∧
      Thread good between more after u ∧ said = before ++ after := by
  induction leaves generalizing v said with
  | nil => exact ⟨[], v, said, .nil v, h, rfl⟩
  | cons leaf rest ih =>
    cases h with
    | cons hf hanswer hne hrest =>
      obtain ⟨before, between, after, hbefore, hafter, rfl⟩ := ih hrest
      exact ⟨_, between, after, .cons hf hanswer hne hbefore, hafter, rfl⟩

/-- Leaves that speak come to some main value. -/
theorem exists_of_threading (hleaves : ∀ leaf ∈ leaves, leaf.isLeaf = true ∧ leaf.Threading good)
    {w : W} (hw : good w) (v : String) : ∃ said u, Thread good v leaves said u := by
  induction leaves generalizing v with
  | nil => exact ⟨[], v, .nil v⟩
  | cons leaf rest ih =>
    obtain ⟨⟨hleaf, hthreading⟩, hrest⟩ := List.forall_mem_cons.mp hleaves
    obtain ⟨f, hf⟩ := Option.isSome_iff_exists.mp (Bool.and_eq_true_iff.mp hleaf).2
    have hsucceeds := hthreading.reliable.succeeds leaf List.mem_cons_self f hf
    obtain ⟨answer, hsteady⟩ := hthreading.steady leaf List.mem_cons_self f hf
    have hanswer : ∀ s w, good w →
        (f.invoke s ((∅ : Bag).withInput v) w).1 = .ok (answer ((∅ : Bag).withInput v)) := by
      intro s w hw
      obtain ⟨⟨text, htext⟩, -⟩ := hsucceeds s ((∅ : Bag).withInput v) w hw
      rw [htext, hsteady s _ w text htext]
    have hne := (hthreading.speaks leaf List.mem_cons_self f hf).notBlank {} _ w _ (hanswer {} w hw)
    obtain ⟨said, u, h⟩ := ih hrest (Text.trim (answer ((∅ : Bag).withInput v)))
    exact ⟨_, u, .cons hf hanswer hne h⟩

end Thread

end Plan

/-! ## One step -/

namespace PlanNode

/-- The state holds a main value at most. -/
def HoldsMain (n : PlanNode W) : Prop := n.state = ∅ ∨ ∃ v, n.state = (∅ : Bag).withInput v

variable {n : PlanNode W} {b : Bag}

/-- A caller that has a main value lacks nothing that such a state holds. -/
theorem HoldsMain.mergeMissing_eq (h : n.HoldsMain) (hb : b.input ≠ "") :
    b.mergeMissing n.state = b := by
  obtain hstate | ⟨v, hstate⟩ := h
  · rw [hstate]
    rfl
  · refine Bag.mergeMissing_eq_self fun name hname => ?_
    rw [hstate] at hname
    obtain rfl := List.mem_singleton.mp hname
    refine Bag.mem_names_iff.mpr fun hnone => hb ?_
    rw [Bag.input, hnone, Option.getD_none]

/-- A step without parameters is handed the main value alone. -/
theorem stepVariables_bare {step : Plan W} (hstep : step.node.Bare)
    (hview : step.node.view.parameters = []) (hb : b.input ≠ "") :
    n.stepVariables b step = (∅ : Bag).withInput b.input := by
  rw [stepVariables, hview, hstep.parameters, stepInput, if_pos hb]
  rfl

/-- After a step without output names the state holds the main value alone. -/
theorem HoldsMain.state_commit (h : n.HoldsMain) {step : PlanNode W} (hstep : step.Bare)
    (result : String) :
    (n.commit step result).state = (∅ : Bag).withInput (Text.trim result) := by
  rw [commit, hstep.outputs]
  change n.state.withInput (Text.trim result) = _
  obtain hstate | ⟨v, hstate⟩ := h
  · rw [hstate]
  · rw [hstate, Bag.withInput_withInput]

end PlanNode

/-! ## Runs -/

/-- A run of steps has come to the main value `u`. -/
structure Run.ComesTo (b : Bag) (u : String) (r : Run W) : Prop where
  caller : r.caller = b.withInput u
  state : r.plan.node.state = (∅ : Bag).withInput u
  trimmed : Text.trim u = u

/-- The main value of the step in front is replaced. -/
theorem Run.ComesTo.behind {b : Bag} {m u : String} {r : Run W} (h : r.ComesTo (b.withInput m) u)
    (step : Plan W) : (r.behind step).ComesTo b u where
  caller := h.caller.trans (Bag.withInput_withInput b m u)
  state := h.state
  trimmed := h.trimmed

namespace Plan

variable [Cancellable W] [Elapsing W]

mutual
/-- A run of a plan follows the thread of its leaves. -/
theorem invoke_threads (hcalm : Calm good) (s : Services W) (root : Plan W) :
    ∀ p : Plan W, p.Threading good → p.isUnbound = false → ∀ {v u : String} {said},
      v ≠ "" → Thread good v p.leafPlans said u → ∀ {w : W}, good w →
        ∀ place : List Nat, (∀ below, root.at? (place ++ below) = p.at? below) →
          Text.trim (p.invoke s ((∅ : Bag).withInput v) w).caller.input = u ∧
            (p.calls s ((∅ : Bag).withInput v) w place).map root.sight = said
  | ⟨node, steps⟩, h, hbound, v, u, said, hv, hthread, w, hw, place, hat => by
    cases hf : node.function with
    | some f =>
      rw [leafPlans_of_isLeaf (h.isLeaf_of_some hf)] at hthread
      cases hthread with
      | cons hf' hanswer _ hrest =>
        cases hrest
        obtain rfl := Option.some.inj (hf.symm.trans hf')
        -- the only call is that of the plan itself, which is the leaf at its place
        have hplace := hat []
        rw [List.append_nil] at hplace
        have hsays := hanswer s w hw
        simp only [invoke, calls, hf, call, List.map_cons, List.map_nil, sight, hplace, hsays]
        cases hinvoke : f.invoke s ((∅ : Bag).withInput v) w with
        | mk answer w' =>
          rw [hinvoke] at hsays
          cases hsays
          exact ⟨congrArg Text.trim (Bag.input_withInput _ _), rfl⟩
    | none =>
      have hne : steps ≠ [] := steps_ne_nil_of_none hbound hf
      have hinput : ((∅ : Bag).withInput v).input = v := Bag.input_withInput _ _
      rw [leafPlans_of_none hf] at hthread
      obtain ⟨hcomes, hcalls⟩ := invokeSteps_threads hcalm s root steps hne
        (fun step hstep => ⟨h.step hstep, h.reliable.isUnbound_step hstep⟩)
        (.inl h.bare_node.state) (hinput.symm ▸ hv) (hinput.symm ▸ hthread) hw place 0
        (fun k below => by rw [Nat.zero_add, hat (k :: below)]; rfl)
      have hcursor : node.cursor = 0 := h.bare_node.cursor
      have hcaller : (invokeSteps s node 0 _ w steps).caller = _ := hcomes.caller
      simp only [invoke, calls, hf, hcursor, hcaller, Bag.input_withInput]
      exact ⟨hcomes.trimmed, hcalls⟩

/-- A run of some steps follows the thread of their leaves. -/
theorem invokeSteps_threads (hcalm : Calm good) (s : Services W) (root : Plan W) :
    ∀ steps : List (Plan W), steps ≠ [] →
      (∀ step ∈ steps, step.Threading good ∧ step.isUnbound = false) →
      ∀ {n : PlanNode W} {b : Bag} {u : String} {said}, n.HoldsMain → b.input ≠ "" →
        Thread good b.input (steps.flatMap leafPlans) said u → ∀ {w : W}, good w →
          ∀ (place : List Nat) (i : Nat),
            (∀ k below, root.at? (place ++ (i + k) :: below) = steps[k]?.bind (at? below)) →
            (invokeSteps s n 0 b w steps).ComesTo b u ∧
              (stepCalls s n 0 b w place i steps).map root.sight = said
  | [], hne, _, _, _, _, _, _, _, _, _, _, _, _, _ => absurd rfl hne
  | step :: rest, _, hsteps, n, b, u, said, hn, hb, hthread, w, hw, place, i, hat => by
    obtain ⟨⟨hstep, hbound⟩, hrest⟩ := List.forall_mem_cons.mp hsteps
    rw [List.flatMap_cons] at hthread
    obtain ⟨before, between, after, hbefore, hafter, rfl⟩ := hthread.split
    have hgood := hcalm.lasts w hw
    have hhanded : n.stepVariables b step = (∅ : Bag).withInput b.input :=
      PlanNode.stepVariables_bare hstep.bare_node hstep.parameters_view hb
    have hok := invoke_reliable hcalm s ((∅ : Bag).withInput b.input) hgood step hstep.reliable
    obtain ⟨hinput, hcalls⟩ := invoke_threads hcalm s root step hstep hbound hb hbefore hgood
      (place ++ [i]) (fun below => by rw [List.append_assoc]; exact hat 0 below)
    have hattempt := PlanNode.attempt_of_run_ok (n := n) (hcalm.live _ hgood) hbound
      (fun b w => step.invoke s b w) (by rw [hhanded]; exact hok.1)
    rw [hhanded] at hattempt
    generalize step.invoke s ((∅ : Bag).withInput b.input) (Elapsing.elapse w) = r
      at hok hinput hattempt
    -- the step leaves its main value in the state, and the others go on from there
    have hstate := hn.state_commit hstep.bare_node r.caller.input
    rw [hinput] at hstate
    have hmerged := hn.mergeMissing_eq hb
    rw [← hmerged] at hattempt
    rw [invokeSteps_cons hattempt, stepCalls_cons hattempt,
      PlanNode.attemptCalls_of_live (hcalm.live _ hgood) hbound, hmerged, hhanded, hstate,
      Bag.input_withInput, List.map_append, hcalls]
    by_cases hlast : rest = []
    · subst hlast
      cases hafter
      rw [invokeSteps, stepCalls]
      exact ⟨⟨rfl, hstate, hinput ▸ Text.trim_trim _⟩, rfl⟩
    · have hmain : (b.withInput between).input = between := Bag.input_withInput b between
      obtain ⟨hcomes, hlater⟩ := invokeSteps_threads hcalm s root rest hlast hrest
        (.inr ⟨between, hstate⟩) (hmain.symm ▸ hbefore.main_ne hb) (hmain.symm ▸ hafter) hok.2
        place (i + 1) (fun k below => by rw [Nat.add_right_comm]; exact hat (k + 1) below)
      exact ⟨hcomes.behind r.plan, by rw [hlater]⟩
end

/-- A plan without a function, whose steps thread a main value, comes to what its leaves come
    to. -/
theorem invoke_comesTo (hcalm : Calm good) {p : Plan W} (hroot : p.node.function = none)
    (hbare : p.node.Bare) (hne : p.steps ≠ [])
    (hsteps : ∀ step ∈ p.steps, step.Threading good ∧ step.isUnbound = false) (s : Services W)
    {b : Bag} (hb : b.input ≠ "") {u : String} {said}
    (hthread : Thread good b.input p.leafPlans said u) {w : W} (hw : good w) :
    (p.invoke s b w).result = .ok () ∧ (p.invoke s b w).ComesTo b u ∧
      (p.journal s b w).map p.sight = said := by
  rw [leafPlans_of_none hroot] at hthread
  obtain ⟨hcomes, hcalls⟩ := invokeSteps_threads hcalm s p p.steps hne hsteps
    (.inl hbare.state) hb hthread hw [] 0 (fun k below => by rw [Nat.zero_add]; rfl)
  have hok := (invokeSteps_reliable hcalm s p.node 0 b hw p.steps fun step hstep =>
    ⟨(hsteps step hstep).1.reliable, (hsteps step hstep).2⟩).1
  rw [journal_eq]
  obtain ⟨node, steps⟩ := p
  have hcursor : node.cursor = 0 := hbare.cursor
  simp only [invoke, calls, show node.function = none from hroot, hcursor]
  exact ⟨hok, hcomes, hcalls⟩

/-- Nesting does not show. A plan through which only main values pass makes the same calls in the
    same order as the flat plan of its leaves, with the same variables and answers, and both leave
    the same variables to the caller and the same state. -/
theorem nested_runs_as_flat (hcalm : Calm good) {p flat : Plan W} (hp : p.Threading good)
    (hroot : p.node.function = none) (hne : p.steps ≠ []) (hflat : flat.node.function = none)
    (hbare : flat.node.Bare) (hsteps : flat.steps = p.leafPlans) (s : Services W) {b : Bag}
    (hb : b.input ≠ "") {w : W} (hw : good w) :
    let r := p.invoke s b w
    let r' := flat.invoke s b w
    r.result = .ok () ∧ r'.result = .ok () ∧ r.caller = r'.caller ∧
      r.plan.node.state = r'.plan.node.state ∧
      (p.journal s b w).map p.sight = (flat.journal s b w).map flat.sight := by
  intro r r'
  have hleaves : ∀ leaf ∈ p.leafPlans, leaf.isLeaf = true ∧ leaf.Threading good := by
    intro leaf hleaf
    obtain ⟨hmem, hisLeaf⟩ := List.mem_filter.mp hleaf
    exact ⟨hisLeaf, hp.descendant hmem⟩
  have hbelow : ∀ step ∈ p.steps, step.Threading good ∧ step.isUnbound = false :=
    fun step hstep => ⟨hp.step hstep, hp.reliable.isUnbound_step hstep⟩
  have hflatSteps : ∀ step ∈ flat.steps, step.Threading good ∧ step.isUnbound = false := by
    rw [hsteps]
    exact fun leaf hleaf => ⟨(hleaves leaf hleaf).2, isUnbound_of_isLeaf (hleaves leaf hleaf).1⟩
  have hflatLeaves : flat.leafPlans = p.leafPlans := by
    rw [leafPlans_of_none hflat, hsteps]
    exact (List.flatMap_congr fun leaf hleaf => leafPlans_of_isLeaf (hleaves leaf hleaf).1).trans
      (List.flatMap_singleton' _)
  have hflatNe : flat.steps ≠ [] := by
    rw [hsteps]
    refine hp.leafPlans_ne_nil ?_
    rw [isUnbound, List.isEmpty_eq_false_iff.mpr hne]
    rfl
  obtain ⟨said, u, hthread⟩ := Thread.exists_of_threading hleaves hw b.input
  obtain ⟨hok, hcomes, hjournal⟩ :=
    invoke_comesTo hcalm hroot hp.bare_node hne hbelow s hb hthread hw
  obtain ⟨hok', hcomes', hjournal'⟩ :=
    invoke_comesTo hcalm hflat hbare hflatNe hflatSteps s hb (hflatLeaves ▸ hthread) hw
  exact ⟨hok, hok', hcomes.caller.trans hcomes'.caller.symm, hcomes.state.trans hcomes'.state.symm,
    hjournal.trans hjournal'.symm⟩

/-- The function that answers the next of three letters. -/
def nextLetter : SkillFunction Machine :=
  .ofText { collection := "sample", name := "next" } fun b =>
    if b.input = "a" then " b " else if b.input = "b" then "c" else "a"

theorem threading_nextLetter : (ofFunction nextLetter).Threading Machine.IsRunning := by
  have hspeaks : nextLetter.Speaks := by
    refine ⟨rfl, fun s b w text h => ?_⟩
    obtain rfl := Except.ok.inj h
    change Text.trim (if b.input = "a" then _ else if b.input = "b" then _ else _) ≠ ""
    split
    · decide +kernel
    · split <;> decide +kernel
  refine .ofSteps ⟨rfl, rfl, rfl, rfl⟩ (.inr rfl) (fun f hf => ?_) nofun
  cases hf
  exact ⟨SkillFunction.succeedsIn_ofText _ _, SkillFunction.steady_ofText _ _, hspeaks⟩

/-- Three calls, two of them in a plan of their own. -/
theorem nested_runs_as_flat_letters :
    let p : Plan Machine := ⟨.ofGoal "outer",
      [⟨.ofGoal "inner", [.ofFunction nextLetter, .ofFunction nextLetter]⟩, .ofFunction nextLetter]⟩
    let flat : Plan Machine := ⟨.ofGoal "flat",
      [.ofFunction nextLetter, .ofFunction nextLetter, .ofFunction nextLetter]⟩
    let b := (∅ : Bag).withInput "a"
    (p.journal {} b {}).map p.sight = (flat.journal {} b {}).map flat.sight ∧
      (p.invoke {} b {}).caller = (flat.invoke {} b {}).caller ∧
      (p.invoke {} b {}).plan.node.state = (flat.invoke {} b {}).plan.node.state ∧
      (flat.journal {} b {}).map (·.given.input) = ["a", "b", "c"] := by
  intro p flat b
  have hleaf := And.intro (show (ofFunction nextLetter).isUnbound = false from rfl)
    threading_nextLetter
  have hinner : Threading Machine.IsRunning
      ⟨.ofGoal "inner", [.ofFunction nextLetter, .ofFunction nextLetter]⟩ :=
    .ofSteps ⟨rfl, rfl, rfl, rfl⟩ (.inl rfl) nofun <|
      List.forall_mem_cons.mpr ⟨hleaf, List.forall_mem_singleton.mpr hleaf⟩
  have hp : p.Threading Machine.IsRunning :=
    .ofSteps ⟨rfl, rfl, rfl, rfl⟩ (.inl rfl) nofun <|
      List.forall_mem_cons.mpr ⟨⟨rfl, hinner⟩, List.forall_mem_singleton.mpr hleaf⟩
  have hbare : flat.node.Bare := ⟨rfl, rfl, rfl, rfl⟩
  have hsteps : flat.steps = p.leafPlans := rfl
  have hb : b.input ≠ "" := by decide
  have hrunning : Machine.IsRunning {} := rfl
  obtain ⟨-, -, hcaller, hstate, hcalls⟩ := nested_runs_as_flat Machine.calm_isRunning hp rfl
    (List.cons_ne_nil _ _) rfl hbare hsteps {} hb hrunning
  exact ⟨hcalls, hcaller, hstate, by decide +kernel⟩

end Plan

end SkillPlan

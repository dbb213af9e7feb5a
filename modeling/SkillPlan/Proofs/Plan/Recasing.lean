import Mathlib.Data.List.Forall2
import SkillPlan.Proofs.Plan.Failing
import SkillPlan.Proofs.Plan.Step
import SkillPlan.Proofs.Plan.Variables

/-!
# Plans in another case

Names are the same in any case, so a plan may be written in another case throughout: the keys of its
bags, its placeholders and the parameters that its functions declare. It runs as before, whatever
casings its caller uses. The two runs are compared step by step: what a step is handed differs in
the case of names only, and so does what it leaves behind.
-/

namespace SkillPlan

open Text (fold)

variable {W : Type}

/-! ## Bags -/

namespace Bag.AgreeOff

variable {b b' : Bag}

/-- Bags that agree throughout hold the same value under a name in any case. -/
theorem get?_eq (h : b.AgreeOff [] b') {key key' : String} (hkey : fold key = fold key') :
    b.get? key = b'.get? key' :=
  (get?_congr hkey).trans (h key' List.not_mem_nil)

theorem nonEmpty?_eq (h : b.AgreeOff [] b') {key key' : String} (hkey : fold key = fold key') :
    b.nonEmpty? key = b'.nonEmpty? key' :=
  congrArg (Option.filter _) (h.get?_eq hkey)

theorem set (h : b.AgreeOff [] b') {key key' : String} (hkey : fold key = fold key')
    (value : String) : (b.set key value).AgreeOff [] (b'.set key' value) := by
  intro k hk
  rw [get?_set, get?_set, hkey, h k hk]

theorem mergeMissing_both (h : b.AgreeOff [] b') {other other' : Bag}
    (hother : other.AgreeOff [] other') :
    (b.mergeMissing other).AgreeOff [] (b'.mergeMissing other') := by
  intro key hkey
  rw [get?_mergeMissing, get?_mergeMissing, h key hkey, hother key hkey]

end Bag.AgreeOff

/-! ## Templates -/

namespace Template

/-- The same character, or placeholders whose names differ in case only. -/
inductive Piece.Recased : Piece → Piece → Prop
  | literal (c : Char) : Recased (.literal c) (.literal c)
  | hole {name name' : String} (h : fold name = fold name') : Recased (.hole name) (.hole name')

/-- Templates that differ in the case of their placeholders only. -/
def Recased (t t' : String) : Prop :=
  List.Forall₂ Piece.Recased (parameterPieces t.toList) (parameterPieces t'.toList)

theorem Recased.refl (t : String) : Recased t t := by
  refine List.forall₂_same.mpr fun piece _ => ?_
  cases piece with
  | literal c => exact .literal c
  | hole name => exact .hole rfl

theorem parameterPieces_eq_nil_iff {cs : List Char} : parameterPieces cs = [] ↔ cs = [] := by
  cases cs with
  | nil => simp [parameterPieces]
  | cons c rest =>
    rw [parameterPieces]
    split
    · split <;> simp
    · simp

theorem Recased.eq_empty_iff {t t' : String} (h : Recased t t') : t = "" ↔ t' = "" := by
  have hnil : parameterPieces t.toList = [] ↔ parameterPieces t'.toList = [] := by
    rw [← List.length_eq_zero_iff, ← List.length_eq_zero_iff, h.length_eq]
  rwa [parameterPieces_eq_nil_iff, parameterPieces_eq_nil_iff, String.toList_eq_nil_iff,
    String.toList_eq_nil_iff] at hnil

theorem fill_recased {value value' : String → String} {ps ps' : List Piece}
    (h : List.Forall₂ Piece.Recased ps ps')
    (hvalue : ∀ {name name'}, fold name = fold name' → value name = value' name') :
    fill value ps = fill value' ps' := by
  unfold fill
  congr 1
  induction h with
  | nil => rfl
  | cons hpiece _ ih =>
    rw [List.flatMap_cons, List.flatMap_cons, ih]
    cases hpiece with
    | literal c => rfl
    | hole hname => simp only [hvalue hname]

/-- Templates in different cases stand for the same text. -/
theorem Recased.expand_eq {t t' : String} (h : Recased t t') {b b' state state' : Bag}
    (hb : b.AgreeOff [] b') (hstate : state.AgreeOff [] state') :
    expand t b state = expand t' b' state' :=
  fill_recased h fun hname => by rw [hb.get?_eq hname, hstate.get?_eq hname]

end Template

/-! ## Nodes -/

/-- Functions that declare parameters of the same names and give the same answers to bags that
    agree, so that they see these through names in any case. -/
structure SkillFunction.Recased (f f' : SkillFunction W) : Prop where
  names : f.view.names = f'.view.names
  invoke : ∀ s {b b' : Bag}, b.AgreeOff [] b' → ∀ w, f.invoke s b w = f'.invoke s b' w

/-- A view in another case fills in the same defaults. -/
theorem FunctionView.applyDefaults_recased {v v' : FunctionView}
    (h : List.Forall₂ (fun q q' => fold q.name = fold q'.name ∧ q.default = q'.default)
      v.parameters v'.parameters) {b b' : Bag} (hb : b.AgreeOff [] b') :
    (v.applyDefaults b).AgreeOff [] (v'.applyDefaults b') := by
  rw [applyDefaults_eq, applyDefaults_eq]
  refine List.rel_foldl (P := Bag.AgreeOff []) (fun b b' hb q q' hq => ?_) hb h
  obtain ⟨hname, hdefault⟩ := hq
  unfold ParameterView.fill
  rw [hdefault, hb.nonEmpty?_eq hname]
  cases q'.default with
  | none => exact hb
  | some d =>
    dsimp only
    split
    · exact hb.set hname d
    · exact hb

/-- Native functions, declared in different cases, whose handlers see their variables through names
    in any case. -/
theorem SkillFunction.recased_native {v v' : FunctionView}
    (h : List.Forall₂ (fun q q' => fold q.name = fold q'.name ∧ q.default = q'.default)
      v.parameters v'.parameters) {handler handler' : Bag → W → Except Error String × W}
    (hhandler : ∀ {b b'}, b.AgreeOff [] b' → ∀ w, handler b w = handler' b' w) :
    (native v handler).Recased (native v' handler') where
  names := by
    change v.parameters.map _ = v'.parameters.map _
    rw [← List.forall₂_eq_eq_eq, List.forall₂_map_left_iff, List.forall₂_map_right_iff]
    exact h.imp fun _ _ hq => hq.1
  invoke _ _ _ hb w := hhandler (FunctionView.applyDefaults_recased h hb) w

/-- Nodes that differ in the case of the keys of their bags, of the placeholders in their parameters
    and of what their functions declare. -/
structure PlanNode.Recased (n n' : PlanNode W) : Prop where
  name : n.name = n'.name
  collection : n.collection = n'.collection
  description : n.description = n'.description
  state : n.state.AgreeOff [] n'.state
  parameters : List.Forall₂ (fun e e' => fold e.1 = fold e'.1 ∧ Template.Recased e.2 e'.2)
    n.parameters.entries n'.parameters.entries
  outputs : n.outputs.names = n'.outputs.names
  cursor : n.cursor = n'.cursor
  function : Option.Rel SkillFunction.Recased n.function n'.function
  rationale : n.rationale = n'.rationale

namespace PlanNode.Recased

variable {n n' : PlanNode W} {b b' : Bag}

theorem names_view (h : n.Recased n') : n.view.names = n'.view.names := by
  have hfunction := h.function
  unfold PlanNode.view
  generalize n.function = f, n'.function = f' at hfunction
  cases hfunction with
  | some hf => exact hf.names
  | none => rfl

theorem isNone_function_eq (h : n.Recased n') : n.function.isNone = n'.function.isNone := by
  have hfunction := h.function
  generalize n.function = f, n'.function = f' at hfunction
  cases hfunction <;> rfl

theorem qualifiedName_eq (h : n.Recased n') : n.qualifiedName = n'.qualifiedName := by
  rw [qualifiedName, qualifiedName, h.collection, h.name]

theorem value?_eq (h : n.Recased n') (hb : b.AgreeOff [] b') {key key' : String}
    (hkey : fold key = fold key') : n.value? b key = n'.value? b' key' := by
  rw [value?, value?, hb.nonEmpty?_eq hkey, h.state.nonEmpty?_eq hkey]

theorem stepInput_eq (h : n.Recased n') (hb : b.AgreeOff [] b') {step step' : Plan W}
    (hempty : step.steps.isEmpty = step'.steps.isEmpty) :
    n.stepInput b step = n'.stepInput b' step' := by
  rw [stepInput, stepInput, hb.input_eq List.not_mem_nil, h.state.input_eq List.not_mem_nil, hempty,
    h.description]

/-- A parameter of the step is handed over in another case. -/
theorem handNamed (h : n.Recased n') (hb : b.AgreeOff [] b') {handed handed' : Bag}
    (hhanded : handed.AgreeOff [] handed') {e e' : String × String} (hkey : fold e.1 = fold e'.1)
    (htemplate : Template.Recased e.2 e'.2) :
    (n.handNamed b handed e).AgreeOff [] (n'.handNamed b' handed' e') := by
  unfold PlanNode.handNamed
  by_cases hempty : e.2 = ""
  · have hempty' : e'.2 = "" := htemplate.eq_empty_iff.mp hempty
    rw [if_neg (not_not_intro hempty), if_neg (not_not_intro hempty'), h.value?_eq hb hkey]
    cases n'.value? b' e'.1 with
    | none => exact hhanded
    | some value => exact hhanded.set hkey value
  · have hempty' : e'.2 ≠ "" := fun h => hempty (htemplate.eq_empty_iff.mpr h)
    rw [if_pos hempty, if_pos hempty', htemplate.expand_eq hb h.state]
    exact hhanded.set hkey _

/-- A step is handed the same values, under names in another case. -/
theorem stepVariables (h : n.Recased n') (hb : b.AgreeOff [] b') {step step' : Plan W}
    (hstep : step.node.Recased step'.node) (hempty : step.steps.isEmpty = step'.steps.isEmpty) :
    (n.stepVariables b step).AgreeOff [] (n'.stepVariables b' step') := by
  unfold PlanNode.stepVariables
  refine List.rel_foldl (P := Bag.AgreeOff [])
    (fun _ _ hhanded _ _ he => h.handNamed hb hhanded he.1 he.2) ?_ hstep.parameters
  intro key _
  rw [get?_foldl_handDeclared, get?_foldl_handDeclared, h.stepInput_eq hb hempty]
  change (if fold key ∈ step.node.view.names then _ else _) =
    if fold key ∈ step'.node.view.names then _ else _
  rw [hstep.names_view, h.value?_eq hb rfl]

/-- Nodes in different cases take up a result alike. -/
theorem commit (h : n.Recased n') {step step' : PlanNode W} (hstep : step.Recased step')
    (result : String) : (n.commit step result).Recased (n'.commit step' result) := by
  refine { h with state := fun key hkey => ?_, cursor := congrArg (· + 1) h.cursor }
  have hwritten : step.outputs.contains key = step'.outputs.contains key := by
    rw [Bool.eq_iff_iff, Bag.contains_iff, Bag.contains_iff]
    change fold key ∈ step.outputs.names ↔ fold key ∈ step'.outputs.names
    rw [hstep.outputs]
  rw [(takes_commit n step result).value, (takes_commit n' step' result).value, hwritten,
    h.state key hkey]

end PlanNode.Recased

/-! ## Plans -/

namespace Plan

mutual
/-- Plans of the same shape whose nodes differ in case only. -/
inductive Recased : Plan W → Plan W → Prop
  | mk {node node' : PlanNode W} {steps steps' : List (Plan W)} (hnode : node.Recased node')
      (hsteps : StepsRecased steps steps') : Recased ⟨node, steps⟩ ⟨node', steps'⟩

/-- The same for the steps of a plan. -/
inductive StepsRecased : List (Plan W) → List (Plan W) → Prop
  | nil : StepsRecased [] []
  | cons {step step' : Plan W} {rest rest' : List (Plan W)} (hstep : Recased step step')
      (hrest : StepsRecased rest rest') : StepsRecased (step :: rest) (step' :: rest')
end

namespace Recased

variable {p p' : Plan W}

theorem node (h : p.Recased p') : p.node.Recased p'.node := by
  cases h with
  | mk hnode _ => exact hnode

theorem steps (h : p.Recased p') : StepsRecased p.steps p'.steps := by
  cases h with
  | mk _ hsteps => exact hsteps

theorem getElem? {steps steps' : List (Plan W)} (h : StepsRecased steps steps') (i : Nat) :
    Option.Rel Recased steps[i]? steps'[i]? := by
  induction i generalizing steps steps' with
  | zero =>
    cases h with
    | nil => exact .none
    | cons hstep _ => exact .some hstep
  | succ i ih =>
    cases h with
    | nil => exact .none
    | cons _ hrest => exact ih hrest

/-- There are plans in different cases at every place. -/
theorem at? (h : p.Recased p') (place : List Nat) :
    Option.Rel Recased (p.at? place) (p'.at? place) := by
  induction place generalizing p p' with
  | nil => exact .some h
  | cons i below ih =>
    have hstep := getElem? h.steps i
    rw [Plan.at?, Plan.at?]
    generalize p.steps[i]? = step, p'.steps[i]? = step' at hstep ⊢
    cases hstep with
    | none => exact .none
    | some hstep => exact ih hstep

theorem isEmpty_steps (h : p.Recased p') : p.steps.isEmpty = p'.steps.isEmpty := by
  cases h with
  | mk _ hsteps => cases hsteps <;> rfl

theorem isUnbound_eq (h : p.Recased p') : p.isUnbound = p'.isUnbound := by
  rw [isUnbound, isUnbound, h.isEmpty_steps, h.node.isNone_function_eq]

end Recased

end Plan

/-! ## Runs -/

/-- Runs that come to the same and leave behind what differs in case only. -/
structure Run.Recased (r r' : Run W) : Prop where
  result : r.result = r'.result
  plan : r.plan.Recased r'.plan
  caller : r.caller.AgreeOff [] r'.caller
  world : r.world = r'.world

/-- The same for attempts to run one step. -/
structure Attempt.Recased (a a' : Attempt W) : Prop where
  result : a.result = a'.result
  node : a.node.Recased a'.node
  step : a.step.Recased a'.step
  world : a.world = a'.world

theorem Run.Recased.behind {r r' : Run W} (h : r.Recased r') {step step' : Plan W}
    (hstep : step.Recased step') : (r.behind step).Recased (r'.behind step') :=
  { h with plan := .mk h.plan.node (.cons hstep h.plan.steps) }

/-- Functions in different cases are called alike. -/
theorem Plan.Recased.call {p p' : Plan W} (h : p.Recased p') {f f' : SkillFunction W}
    (hf : f.Recased f') (s : Services W) {b b' : Bag} (hb : b.AgreeOff [] b') (w : W) :
    (p.call f s b w).Recased (p'.call f' s b' w) := by
  unfold Plan.call
  rw [hf.invoke s hb w]
  cases f'.invoke s b' w with
  | mk answer w' =>
    cases answer with
    | ok text => exact ⟨rfl, h, hb.set rfl text, rfl⟩
    | error e => exact ⟨rfl, h, hb, rfl⟩

variable [Cancellable W] [Elapsing W]

/-- A step in another case is attempted with the same result, if its runs come to the same. -/
theorem PlanNode.Recased.attempt {n n' : PlanNode W} (hn : n.Recased n') {step step' : Plan W}
    (hstep : step.Recased step') {b b' : Bag} (hb : b.AgreeOff [] b') {run run' : Bag → W → Run W}
    (hrun : ∀ {b b'}, b.AgreeOff [] b' → ∀ w, (run b w).Recased (run' b' w)) (w : W) :
    (n.attempt step b w run).Recased (n'.attempt step' b' w run') := by
  have hran := hrun (hn.stepVariables hb hstep.node hstep.isEmpty_steps) (Elapsing.elapse w)
  unfold PlanNode.attempt
  simp only [hstep.isUnbound_eq]
  generalize run (n.stepVariables b step) (Elapsing.elapse w) = r at hran ⊢
  generalize run' (n'.stepVariables b' step') (Elapsing.elapse w) = r' at hran ⊢
  split
  · have herror : n.cancelled = n'.cancelled := by
      rw [cancelled, cancelled, hn.cursor, hn.name]
    exact ⟨congrArg Except.error herror, hn, hstep, rfl⟩
  · split
    · have herror : n.stepNotBound step.node = n'.stepNotBound step'.node := by
        rw [stepNotBound, stepNotBound, hstep.node.qualifiedName_eq, hn.cursor]
      exact ⟨congrArg Except.error herror, hn, hstep, rfl⟩
    · rw [hran.result]
      cases r'.result with
      | error e =>
        have herror : n.stepFailed step.node e = n'.stepFailed step'.node e := by
          rw [stepFailed, stepFailed, hstep.node.qualifiedName_eq, hn.cursor]
        exact ⟨congrArg Except.error herror, hn, hran.plan, hran.world⟩
      | ok u =>
        refine ⟨rfl, ?_, hran.plan, hran.world⟩
        rw [hran.caller.input_eq List.not_mem_nil]
        exact hn.commit hstep.node _

namespace Plan

mutual
/-- A plan in another case runs as before. -/
theorem Recased.invoke (s : Services W) :
    ∀ {p p' : Plan W}, p.Recased p' → ∀ {b b' : Bag}, b.AgreeOff [] b' → ∀ w : W,
      (p.invoke s b w).Recased (p'.invoke s b' w)
  | ⟨node, steps⟩, ⟨node', steps'⟩, h, b, b', hb, w => by
    have hfunction := h.node.function
    rw [Plan.invoke, Plan.invoke]
    simp only at hfunction
    generalize node.function = f, node'.function = f' at hfunction
    cases hfunction with
    | some hf => exact h.call hf s hb w
    | none => exact h.node.cursor ▸ StepsRecased.invoke s h.steps h.node _ hb w

theorem StepsRecased.invoke (s : Services W) :
    ∀ {steps steps' : List (Plan W)}, StepsRecased steps steps' → ∀ {n n' : PlanNode W},
      n.Recased n' → ∀ (skip : Nat) {b b' : Bag}, b.AgreeOff [] b' → ∀ w : W,
        (invokeSteps s n skip b w steps).Recased (invokeSteps s n' skip b' w steps')
  | [], [], .nil, n, n', hn, skip, b, b', hb, w => by
    rw [invokeSteps, invokeSteps]
    exact ⟨rfl, .mk hn .nil, hb, rfl⟩
  | step :: rest, step' :: rest', .cons hstep hrest, n, n', hn, skip, b, b', hb, w => by
    cases skip with
    | succ skip =>
      rw [invokeSteps, invokeSteps]
      exact (StepsRecased.invoke s hrest hn skip hb w).behind hstep
    | zero =>
      have hmerged := hb.mergeMissing_both hn.state
      have hattempt := hn.attempt hstep hmerged (fun hb w => Recased.invoke s hstep hb w) w
      rw [invokeSteps, invokeSteps]
      generalize n.attempt step (b.mergeMissing n.state) w _ = a at hattempt ⊢
      generalize n'.attempt step' (b'.mergeMissing n'.state) w _ = a' at hattempt ⊢
      rw [hattempt.result, hattempt.world]
      cases a'.result with
      | error e => exact ⟨rfl, .mk hattempt.node (.cons hattempt.step hrest), hmerged, rfl⟩
      | ok u =>
        have hcaller := hmerged.set (Eq.refl (fold Bag.inputKey)) a.node.state.input
        rw [hattempt.node.state.input_eq List.not_mem_nil] at hcaller ⊢
        exact (StepsRecased.invoke s hrest hattempt.node 0 hcaller a'.world).behind hattempt.step
end

/-- A plan in another case, run with variables in another case, comes to the same result, be it an
    error that names a step, and stops before the same step at every place. The states and the
    variables of the caller hold the same values, under names that differ in case only. -/
theorem invoke_in_another_case (s : Services W) {p p' : Plan W} (h : p.Recased p') {b b' : Bag}
    (hb : b.AgreeOff [] b') (w : W) :
    let r := p.invoke s b w
    let r' := p'.invoke s b' w
    r.result = r'.result ∧ r.caller.AgreeOff [] r'.caller ∧ ∀ place, Option.Rel
      (fun q q' => q.node.cursor = q'.node.cursor ∧ q.node.state.AgreeOff [] q'.node.state)
      (r.plan.at? place) (r'.plan.at? place) := by
  intro r r'
  have hrun := h.invoke s hb w
  refine ⟨hrun.result, hrun.caller, fun place => ?_⟩
  have hplace := hrun.plan.at? place
  change Option.Rel _ (r.plan.at? place) (r'.plan.at? place) at hplace
  generalize r.plan.at? place = q, r'.plan.at? place = q' at hplace ⊢
  cases hplace with
  | none => exact .none
  | some hq => exact .some ⟨hq.node.cursor, hq.node.state⟩

/-- A function of one parameter. -/
def mention (topic : String) : SkillFunction Machine :=
  .ofText { collection := "sample", name := "mention", parameters := [⟨topic, "", none⟩] }
    fun b => "of " ++ (b.get? topic).getD "nothing"

/-- A step that is given its topic. -/
def mentionStep (topic value result : String) : Plan Machine :=
  ⟨(((PlanNode.ofGoal "").bind (mention topic)).withParameter topic value).withOutput result, []⟩

/-- A plan in a plan, written with the given names. -/
def mentions (name topic result : String) : Plan Machine :=
  ⟨(PlanNode.ofGoal "outer").withState name "Ada",
    [⟨((PlanNode.ofGoal "inner").withParameter topic "").withOutput result,
      [mentionStep topic ("$" ++ topic) result]⟩, mentionStep topic ("$" ++ name) result]⟩

section

variable {name name' topic topic' result result' value value' : String}

theorem recased_mentionStep (htopic : fold topic = fold topic')
    (hresult : fold result = fold result') (hvalue : Template.Recased value value') :
    (mentionStep topic value result).Recased (mentionStep topic' value' result') := by
  have hmention : (mention topic).Recased (mention topic') := by
    unfold mention SkillFunction.ofText
    refine SkillFunction.recased_native (.cons ⟨htopic, rfl⟩ .nil) fun hb w => ?_
    simp only [hb.get?_eq htopic]
  exact .mk {
    name := rfl
    collection := rfl
    description := rfl
    state := .refl _ _
    parameters := .cons ⟨htopic, hvalue⟩ .nil
    outputs := congrArg (· :: []) hresult
    cursor := rfl
    function := .some hmention
    rationale := rfl } .nil

theorem recased_mentions (hname : fold name = fold name') (htopic : fold topic = fold topic')
    (hresult : fold result = fold result')
    (hnames : Template.Recased ("$" ++ name) ("$" ++ name'))
    (htopics : Template.Recased ("$" ++ topic) ("$" ++ topic')) :
    (mentions name topic result).Recased (mentions name' topic' result') := by
  have hinner : PlanNode.Recased (W := Machine)
      (((PlanNode.ofGoal "inner").withParameter topic "").withOutput result)
      (((PlanNode.ofGoal "inner").withParameter topic' "").withOutput result') := {
    name := rfl
    collection := rfl
    description := rfl
    state := .refl _ _
    parameters := .cons ⟨htopic, .refl _⟩ .nil
    outputs := congrArg (· :: []) hresult
    cursor := rfl
    function := .none
    rationale := rfl }
  have houter : PlanNode.Recased (W := Machine) ((PlanNode.ofGoal "outer").withState name "Ada")
      ((PlanNode.ofGoal "outer").withState name' "Ada") := {
    name := rfl
    collection := rfl
    description := rfl
    state := Bag.AgreeOff.set (.refl [] ∅) hname "Ada"
    parameters := .nil
    outputs := rfl
    cursor := rfl
    function := .none
    rationale := rfl }
  have hbelow := Plan.StepsRecased.cons (recased_mentionStep htopic hresult htopics) .nil
  exact .mk houter <| .cons (.mk hinner hbelow) <|
    .cons (recased_mentionStep htopic hresult hnames) .nil

end

/-- Two writings of a plan whose names are passed on from a plan to one below it and back. -/
theorem invoke_in_another_case_nested :
    let lower := mentions "name" "topic" "result"
    let mixed := mentions "NAME" "Topic" "reSult"
    let b := (∅ : Bag).set "topic" "winter"
    let b' := (∅ : Bag).set "TOPIC" "winter"
    lower.Recased mixed ∧ b.AgreeOff [] b' ∧ b ≠ b' ∧
      (lower.invoke {} b {}).result = (mixed.invoke {} b' {}).result ∧
      (mixed.invoke {} b' {}).caller.get? "result" = some "of winter" := by
  intro lower mixed b b'
  have hb : b.AgreeOff [] b' := Bag.AgreeOff.set (.refl [] ∅) (by decide) "winter"
  have hplaceholder : ∀ {name name' : String},
      Template.parameterPieces ("$" ++ name).toList = [.hole name] →
      Template.parameterPieces ("$" ++ name').toList = [.hole name'] → fold name = fold name' →
      Template.Recased ("$" ++ name) ("$" ++ name') := by
    intro name name' hname hname' hfold
    rw [Template.Recased, hname, hname']
    exact .cons (.hole hfold) .nil
  have hplan : lower.Recased mixed := recased_mentions (by decide) (by decide) (by decide)
    (hplaceholder (by decide +kernel) (by decide +kernel) (by decide))
    (hplaceholder (by decide +kernel) (by decide +kernel) (by decide))
  exact ⟨hplan, hb, by decide +kernel, (invoke_in_another_case {} hplan hb {}).1, by decide +kernel⟩

end Plan

end SkillPlan

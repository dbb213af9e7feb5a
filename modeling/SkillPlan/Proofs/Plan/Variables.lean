import SkillPlan.Proofs.Plan.Handing

/-!
# The variables of a step, name by name

Three passes write to the variables that a step is handed: the main value, the declared parameters
and the parameters of the step itself. Under each name the last pass that has a value for it decides,
and under a name that none of them writes there is nothing, whatever the caller and the state of the
plan hold there.
-/

namespace SkillPlan

open Text (fold)

variable {W : Type}

namespace PlanNode

/-! ## Declared parameters -/

theorem value?_congr (n : PlanNode W) (b : Bag) {j k : String} (h : fold j = fold k) :
    n.value? b j = n.value? b k := by
  rw [value?, value?, Bag.nonEmpty?, Bag.nonEmpty?, Bag.nonEmpty?, Bag.nonEmpty?, Bag.get?_congr h,
    Bag.get?_congr h]

theorem get?_handDeclared (n : PlanNode W) (b handed : Bag) (p : ParameterView) (key : String) :
    (n.handDeclared b handed p).get? key =
      if fold key = fold p.name then (n.value? b key).or (handed.get? key)
      else handed.get? key := by
  unfold handDeclared
  by_cases hkey : fold key = fold p.name
  · rw [if_pos hkey, ← n.value?_congr b hkey]
    cases n.value? b key with
    | none => rfl
    | some value => rw [Bag.get?_set, if_pos hkey, Option.some_or]
  · rw [if_neg hkey]
    cases n.value? b p.name with
    | none => rfl
    | some value => rw [Bag.get?_set, if_neg hkey]

theorem get?_foldl_handDeclared (n : PlanNode W) (b : Bag) (ps : List ParameterView) (handed : Bag)
    (key : String) :
    (ps.foldl (n.handDeclared b) handed).get? key =
      if fold key ∈ ps.map (fun p => fold p.name) then (n.value? b key).or (handed.get? key)
      else handed.get? key := by
  induction ps generalizing handed with
  | nil => rfl
  | cons p rest ih =>
    rw [List.foldl_cons, ih, get?_handDeclared, List.map_cons]
    by_cases hrest : fold key ∈ rest.map fun p => fold p.name
    · rw [if_pos hrest, if_pos (List.mem_cons_of_mem _ hrest)]
      split
      · rw [← Option.or_assoc, Option.or_self]
      · rfl
    · rw [if_neg hrest]
      by_cases hkey : fold key = fold p.name
      · rw [if_pos hkey, if_pos (hkey ▸ List.mem_cons_self)]
      · rw [if_neg hkey, if_neg fun h => (List.mem_cons.mp h).elim hkey hrest]

/-! ## Parameters of the step -/

/-- What a parameter of the step makes of its name: the expanded template, or for an empty one the
    value that is there. -/
def named? (n : PlanNode W) (b : Bag) (key template : String) : Option String :=
  if template ≠ "" then some (Template.expand template b n.state) else n.value? b key

theorem get?_handNamed (n : PlanNode W) (b handed : Bag) (e : String × String) (key : String) :
    (n.handNamed b handed e).get? key =
      if fold key = fold e.1 then (n.named? b key e.2).or (handed.get? key)
      else handed.get? key := by
  unfold handNamed named?
  split
  · rw [Bag.get?_set, Option.some_or]
  · exact n.get?_handDeclared b handed { name := e.1 } key

/-- Parameters with different names are handed over without regard to one another. -/
theorem get?_foldl_handNamed (n : PlanNode W) (b : Bag) {es : List (String × String)}
    (hdistinct : (Pairs.keys es).Nodup) (handed : Bag) (key : String) :
    (es.foldl (n.handNamed b) handed).get? key =
      ((Pairs.find key es).bind (n.named? b key)).or (handed.get? key) := by
  induction es generalizing handed with
  | nil => rfl
  | cons e rest ih =>
    obtain ⟨k, template⟩ := e
    obtain ⟨hk, hrest⟩ := List.nodup_cons.mp hdistinct
    rw [List.foldl_cons, ih hrest, get?_handNamed, Pairs.find]
    by_cases hkey : fold k = fold key
    · -- no later parameter has the name
      have hnone : Pairs.find key rest = none := by
        rw [Pairs.find_eq_none_iff, ← hkey]
        exact hk
      rw [hnone, if_pos hkey.symm, if_pos hkey, Option.bind_none, Option.none_or, Option.bind_some]
    · rw [if_neg (Ne.symm hkey), if_neg hkey]

/-! ## All three passes -/

/-- The main value of a step is the first that is not empty. -/
theorem stepInput_eq (n : PlanNode W) (b : Bag) (step : Plan W) :
    n.stepInput b step =
      ([b.input, n.state.input, if step.steps.isEmpty then n.description else ""].find?
        (· ≠ "")).getD "" := by
  have hfirst : ∀ x y z : String, ([x, y, z].find? (· ≠ "")).getD "" =
      if x ≠ "" then x else if y ≠ "" then y else z := by
    intro x y z
    by_cases hx : x = ""
    · by_cases hy : y = ""
      · by_cases hz : z = "" <;> simp [hx, hy, hz]
      · simp [hx, hy]
    · simp [hx]
  rw [hfirst]
  rfl

theorem get?_stepVariables_or (n : PlanNode W) (b : Bag) (step : Plan W) (key : String) :
    (n.stepVariables b step).get? key =
      ((step.node.parameters.get? key).bind (n.named? b key)).or
        ((if fold key ∈ step.node.view.names then n.value? b key else none).or
          (if fold key = Bag.inputKey then some (n.stepInput b step) else none)) := by
  have hdeclared : ∀ p, (if fold key ∈ step.node.view.names then (n.value? b key).or p else p) =
      (if fold key ∈ step.node.view.names then n.value? b key else none).or p := by
    intro p
    split
    · rfl
    · rw [Option.none_or]
  rw [stepVariables]
  change Bag.get? (List.foldl (n.handNamed b) _ _) key = _
  rw [get?_foldl_handNamed n b step.node.parameters.distinct, get?_foldl_handDeclared,
    Bag.get?_withInput]
  exact congrArg _ (hdeclared _)

/-- A step without parameters of its own is handed the main value and the declared parameters that
    have a value. -/
theorem get?_stepVariables (n : PlanNode W) (b : Bag) {step : Plan W}
    (hown : step.node.parameters = ∅) (key : String) :
    let main := if fold key = Bag.inputKey then some (n.stepInput b step) else none
    (n.stepVariables b step).get? key =
      if fold key ∈ step.node.view.names then (n.value? b key).or main else main := by
  have hnone : step.node.parameters.get? key = none := by rw [hown]; rfl
  rw [get?_stepVariables_or, hnone, Option.bind_none, Option.none_or]
  dsimp only
  split
  · rfl
  · rw [Option.none_or]

/-- What a step finds under a name. A parameter of the step with a template gives the expanded
    template. Under another name that the step or its function declares there is the value of the
    caller, else that of the state, where empty values do not count. The main value is there in any
    case, and nothing else is. So variables under other names do not show, be they the caller's or
    in the state. -/
theorem variables_by_name (n : PlanNode W) (b : Bag) (step : Plan W) :
    (∀ key, (n.stepVariables b step).get? key =
      match step.node.parameters.nonEmpty? key with
      | some template => some (Template.expand template b n.state)
      | none =>
        (if step.node.parameters.contains key ∨ fold key ∈ step.node.view.names then
            (b.nonEmpty? key).or (n.state.nonEmpty? key)
          else none).or
        (if Bag.isInput key then
            some (([b.input, n.state.input, if step.steps.isEmpty then n.description else ""].find?
              (· ≠ "")).getD "")
          else none)) ∧
    ∀ (n' : PlanNode W) (b' : Bag), n'.description = n.description →
      (∀ key, fold key ∈ Bag.inputKey :: step.node.reads →
        b'.get? key = b.get? key ∧ n'.state.get? key = n.state.get? key) →
      n'.stepVariables b' step = n.stepVariables b step := by
  refine ⟨fun key => ?_, fun n' b' => stepVariables_of_reads⟩
  rw [get?_stepVariables_or, ← stepInput_eq, Bag.nonEmpty?, Bag.contains]
  simp only [Bag.isInput_iff]
  cases step.node.parameters.get? key with
  | none => simp [value?]
  | some template =>
    by_cases htemplate : template = ""
    · by_cases hdeclared : fold key ∈ step.node.view.names
      · -- a name that is declared twice over is looked up once
        simp [named?, htemplate, hdeclared, value?, Option.filter, ← Option.or_assoc]
      · simp [named?, htemplate, hdeclared, value?, Option.filter]
    · simp [named?, htemplate, Option.filter]

/-- A function that declares a name twice, in two cases. The caller has the name without a value, and
    the state in a third case; for the main value there is only the description. -/
theorem variables_by_name_declared_twice :
    let f : SkillFunction Unit := .ofText { collection := "files", name := "move", parameters :=
      [{ name := "path" }, { name := "Path" }] } fun _ => ""
    let step : Plan Unit :=
      ⟨(((ofGoal "").bind f).withParameter "target" "$Dir/a").withParameter "Input" "", []⟩
    let n : PlanNode Unit := { ofGoal "tidy up" with
      state := .ofList [("PATH", "a.txt"), ("secret", "x")] }
    let b : Bag := .ofList [("path", ""), ("dir", "tmp")]
    let handed := n.stepVariables b step
    handed.get? "path" = some "a.txt" ∧ handed.get? "target" = some "tmp/a" ∧
      handed.get? "input" = some "tidy up" ∧ handed.get? "secret" = none ∧
      { n with state := n.state.set "secret" "y" }.stepVariables (b.set "secret" "z") step =
        handed := by
  intro f step n b handed
  obtain ⟨hvalues, hothers⟩ := n.variables_by_name b step
  refine ⟨(hvalues _).trans ?_, (hvalues _).trans ?_, (hvalues _).trans ?_, (hvalues _).trans ?_,
    hothers _ _ rfl fun key hkey => ?_⟩
  case refine_5 =>
    -- the step does not read the name
    have hne : fold key ≠ fold "secret" := by
      intro h
      rw [h] at hkey
      revert hkey
      decide +kernel
    simp only [Bag.get?_set, if_neg hne, and_self]
  all_goals decide +kernel

end PlanNode

end SkillPlan

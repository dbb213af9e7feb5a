import SkillPlan.Planner.Choice
import SkillPlan.Proofs.Plan.Calls
import SkillPlan.Proofs.Plan.Reliable
import SkillPlan.Proofs.Plan.Variables
import SkillPlan.Proofs.Planner.Answer

/-!
# What a planner chooses is called as it was chosen

An answer names a function and gives it arguments. They become the state of the plan, the step is
handed them under the names that the function declares, and the function fills in what is missing.
On the whole way no text is expanded or changed: the handler finds every argument that it declares
and that is not empty as it stands in the answer.
-/

namespace SkillPlan

open Text (fold)

variable {W : Type}

/-! ## Calls of handlers -/

/-- The handler that writes down with which variables it is called. -/
def Journal.watch (handler : Bag → W → Except Error String × W) (b : Bag) (j : Journal W) :
    Except Error String × Journal W :=
  let (answer, w) := handler b j.world
  (answer, ⟨w, j.calls ++ [⟨[0], b, answer⟩]⟩)

section

variable [Cancellable W] [Elapsing W]

/-- A run of a plan whose only step calls a function does what this function does to the world. -/
theorem Plan.world_invoke_ofFunction {node : PlanNode W} (hnode : node.function = none)
    (hcursor : node.cursor = 0) (f : SkillFunction W) (s : Services W) (b : Bag) {w : W}
    (hlive : Cancellable.isCancelled (Elapsing.elapse w) = false) :
    (Plan.invoke s b w ⟨node, [.ofFunction f]⟩).world =
      (f.invoke s (node.stepVariables b (.ofFunction f)) (Elapsing.elapse w)).2 := by
  have hcall : ∀ b w, (Plan.ofFunction f).invoke s b w = Plan.call (.ofFunction f) f s b w :=
    fun _ _ => rfl
  rw [invoke]
  simp only [hnode, hcursor, invokeSteps, PlanNode.attempt, hlive, hcall, call,
    PlanNode.stepVariables_mergeMissing]
  cases f.invoke s (node.stepVariables b (.ofFunction f)) (Elapsing.elapse w) with
  | mk answer w' => cases answer <;> rfl

end

namespace Planner

namespace Answer

/-! ## Answers that choose a function -/

/-- The value names a function and gives it texts as its arguments. -/
inductive Chooses (function : String) (args : Bag) : Json → Prop
  | intro {root fields : List (String × Json)} {rationale : String}
      (hplan : field? root "plan" = some (.obj fields))
      (hrationale : textField fields "rationale" = .ok rationale)
      (hfunction : textField fields "function" = .ok function)
      (hparameters : field? fields "parameters" = some (.obj (textFields args.entries))) :
      Chooses function args (.obj root)

theorem Chooses.ofJson_eq {function : String} {args : Bag} {v : Json}
    (h : Chooses function args v) : ∃ rationale, ofJson v = .ok ⟨rationale, function, args⟩ := by
  obtain @⟨root, fields, rationale, hplan, hrationale, hfunction, hparameters⟩ := h
  have hargs : (textFields args.entries).foldl addParameter ∅ = args :=
    foldl_addParameter args.entries ∅ args.distinct
  refine ⟨rationale, ?_⟩
  simp only [ofJson, hplan, ofFields, hrationale, hfunction, parametersField, hparameters, hargs]
  rfl

/-- Without the mark, nothing is cut off. -/
theorem untilStop_eq_self {completion stop : String}
    (h : stop = "" ∨ ¬ stop.toList <:+: completion.toList) :
    untilStop completion stop = completion := by
  rw [untilStop]
  split
  · rfl
  · rename_i hne
    rw [Text.before?_eq_none (h.resolve_left hne)]

/-- The reader may go as deep as the text is long, and every pair takes part of the text. -/
theorem length_le_answer (rationale function : String) (pairs : List (String × String)) :
    pairs.length + 3 ≤ (answerOpening ++ continuation rationale function pairs).toList.length := by
  have hfields := length_le_compactFields pairs
  rw [toList_answer]
  simp only [List.length_cons, List.length_append, List.length_nil]
  omega

/-- An answer without a mistake is decoded as the value that was meant. -/
theorem firstOfText_continuation (rationale function : String) (args : Bag) :
    Json.firstOfText (withoutFinalCommas
      (answerOpening ++ continuation rationale function args.entries)) =
        .value (meant rationale function args.entries) := by
  obtain ⟨fuel, hfuel⟩ :=
    Nat.exists_eq_add_of_le' (length_le_answer rationale function args.entries)
  have hfirst : Json.Raw.first?
      (answerOpening ++ continuation rationale function args.entries).toList =
        some (Json.toRaw (meant rationale function args.entries), []) := by
    have hpairs : args.entries.length ≤ fuel + args.entries.length + 2 := by omega
    rw [Json.Raw.first?, hfuel]
    exact value?_answer rationale function hpairs
  rw [toList_answer] at hfirst
  rw [withoutFinalCommas_answer, Json.firstOfText, toList_answer]
  simp only [Json.Raw.skipSpace, List.dropWhile, show Json.Raw.isSpace '\x7b' = false from rfl,
    List.isEmpty_cons, hfirst, ofRaw?_meant rationale function args.distinct, Bool.false_eq_true,
    ↓reduceIte]
  rfl

theorem chooses_meant (rationale function : String) (args : Bag) :
    Chooses function args (meant rationale function args.entries) :=
  .intro rfl rfl rfl rfl

end Answer

/-! ## What the handler finds -/

/-- The main value with which a function is called: the argument of this name, else the goal. -/
def mainArgument (goal : String) (args : Bag) : String :=
  (args.nonEmpty? Bag.inputKey).getD goal

theorem mainArgument_ne {goal : String} (hgoal : goal ≠ "") (args : Bag) :
    mainArgument goal args ≠ "" := by
  rw [mainArgument]
  cases hgiven : args.nonEmpty? Bag.inputKey with
  | none => exact hgoal
  | some value => exact (Bag.nonEmpty?_eq_some_iff.mp hgiven).2

/-- The variables with which a function of the view `v` is called when it was chosen for a goal with
    some arguments. -/
structure Delivered (goal : String) (args : Bag) (v : FunctionView) (b : Bag) : Prop where
  main : b.get? Bag.inputKey = some (mainArgument goal args)
  declared : ∀ p ∈ v.parameters, Bag.isInput p.name = false →
    b.get? p.name = (args.nonEmpty? p.name).or p.default
  others : ∀ key, Bag.isInput key = false → fold key ∉ v.names → b.get? key = none

section

variable {n : PlanNode W} {f : SkillFunction W}

theorem stepInput_ofFunction :
    n.stepInput ∅ (.ofFunction f) = mainArgument n.description n.state := by
  change (if n.state.input ≠ "" then n.state.input else n.description) = _
  rw [Bag.input, mainArgument, Bag.nonEmpty?]
  cases n.state.get? Bag.inputKey with
  | none => rfl
  | some value => by_cases hempty : value = "" <;> simp [Option.filter, hempty]

/-- A step that calls a function is handed the main value, and those arguments in the state that the
    function declares. -/
theorem get?_stepVariables_ofFunction (key : String) :
    (n.stepVariables ∅ (.ofFunction f)).get? key =
      if fold key = Bag.inputKey then some (mainArgument n.description n.state)
      else if fold key ∈ f.view.names then n.state.nonEmpty? key else none := by
  have hvalue : n.value? ∅ key = n.state.nonEmpty? key := rfl
  rw [n.get?_stepVariables ∅ rfl, hvalue, stepInput_ofFunction]
  change (if fold key ∈ f.view.names then _ else _) = _
  by_cases hinput : fold key = Bag.inputKey
  · -- where the main value is declared, it is handed over twice
    have hsame : n.state.nonEmpty? key = n.state.nonEmpty? Bag.inputKey :=
      congrArg (Option.filter _) (n.state.get?_inputKey key hinput)
    rw [if_pos hinput, if_pos hinput, hsame, mainArgument]
    cases n.state.nonEmpty? Bag.inputKey <;> simp
  · rw [if_neg hinput, if_neg hinput, Option.or_none]

/-- A function that is handed the arguments fills in what is missing. -/
theorem delivered_applyDefaults (hgoal : n.description ≠ "") (hdistinct : f.view.names.Nodup) :
    Delivered n.description n.state f.view
      (f.view.applyDefaults (n.stepVariables ∅ (.ofFunction f))) := by
  have hget := get?_stepVariables_ofFunction (n := n) (f := f)
  generalize n.stepVariables ∅ (.ofFunction f) = handed at hget
  have hother : ∀ {key}, Bag.isInput key = false → fold key ≠ Bag.inputKey := by
    intro key hkey hinput
    rw [Bag.isInput_iff.mpr hinput] at hkey
    cases hkey
  rw [FunctionView.applyDefaults_eq]
  refine { main := ?_, declared := fun p hp hname => ?_, others := fun key hname hnew => ?_ }
  · have hmain : handed.get? Bag.inputKey = some (mainArgument n.description n.state) := by
      rw [hget, if_pos Bag.fold_inputKey]
    by_cases hdeclared : fold Bag.inputKey ∈ f.view.names
    · -- a default of the main value is not used, since the value is not empty
      obtain ⟨p, hp, hname⟩ := List.mem_map.mp hdeclared
      have hfull : handed.nonEmpty? p.name = some (mainArgument n.description n.state) :=
        Bag.nonEmpty?_eq_some_iff.mpr
          ⟨(Bag.get?_congr hname).trans hmain, mainArgument_ne hgoal n.state⟩
      rw [← Bag.get?_congr hname, ParameterView.get?_foldl_fill hdistinct handed hp, hfull,
        Option.some_or, Option.some_or]
    · rw [ParameterView.get?_foldl_fill_of_not_mem hdeclared, hmain]
  · have hdeclared : fold p.name ∈ f.view.names := List.mem_map.mpr ⟨p, hp, rfl⟩
    have hgiven : handed.get? p.name = n.state.nonEmpty? p.name := by
      rw [hget, if_neg (hother hname), if_pos hdeclared]
    rw [ParameterView.get?_foldl_fill hdistinct handed hp, Bag.nonEmpty?_of_get?_eq hgiven, hgiven]
    cases n.state.nonEmpty? p.name with
    | none => rw [Option.or_none]
    | some value => rfl
  · rw [ParameterView.get?_foldl_fill_of_not_mem hnew, hget, if_neg (hother hname), if_neg hnew]

end

/-! ## The plan -/

/-- An answer that names a registered function makes a plan whose only step calls it. -/
theorem createPlan_of_chooses {o : Options} {r : Registry W} {backend : Completion.Backend W}
    {goal completion : String} {w w' : W} (hgoal : Text.isAllBlank goal = false)
    (hcomplete : backend.completeText (promptFor o r goal) o.settings w = (.ok completion, w'))
    (hstop : o.stop = "" ∨ ¬ o.stop.toList <:+: completion.toList) {answer : Json}
    (hread : Json.firstOfText (Answer.withoutFinalCommas (answerOpening ++ completion)) =
      .value answer)
    {function : String} {args : Bag} (hchooses : Answer.Chooses function args answer)
    {collection : Option String} {name : String}
    (hparts : Answer.functionParts? function = some (collection, name)) {f : SkillFunction W}
    (hresolve : r.resolve? collection name = some f) :
    ∃ rationale, createPlan o r backend goal w = (.ok
      { node := { PlanNode.ofGoal goal with state := args, rationale := rationale }
        steps := [.ofFunction f] }, w') := by
  obtain ⟨rationale, hjson⟩ := hchooses.ofJson_eq
  have hanswer : Answer.ofCompletion completion o.stop = .ok ⟨rationale, function, args⟩ := by
    rw [Answer.ofCompletion, Answer.untilStop_eq_self hstop, Answer.ofText, hread]
    exact hjson
  have hstep : stepOf r ⟨rationale, function, args⟩ = .ok (some (.ofFunction f)) := by
    simp only [stepOf, hparts, Registry.resolve, hresolve]
  have hplan : planOfCompletion o r goal completion =
      planOf r goal ⟨rationale, function, args⟩ := by
    -- its equations would be proved by evaluating the opening of the answer
    delta planOfCompletion
    rw [hanswer]
  refine ⟨if rationale = "" then none else some rationale, ?_⟩
  rw [createPlan, if_neg (Bool.eq_false_iff.mp hgoal), hcomplete]
  simp only [hplan, planOf, hstep]
  rfl

/-- When an answer names a registered native function, the plan calls its handler once. The handler
    finds every declared argument that is not empty as it stands in the answer, the defaults of the
    others, the goal where the answer gives no main value, and nothing else. The call is seen in the
    journal, in which the handler writes what it finds. -/
theorem chosen_handler_called_once [Cancellable W] [Elapsing W] {o : Options}
    {r : Registry (Journal W)} {backend : Completion.Backend (Journal W)}
    {goal completion : String} {j j' : Journal W} (hgoal : Text.isAllBlank goal = false)
    (hcomplete : backend.completeText (promptFor o r goal) o.settings j = (.ok completion, j'))
    (hstop : o.stop = "" ∨ ¬ o.stop.toList <:+: completion.toList) {answer : Json}
    (hread : Json.firstOfText (Answer.withoutFinalCommas (answerOpening ++ completion)) =
      .value answer)
    {function : String} {args : Bag} (hchooses : Answer.Chooses function args answer)
    {collection : Option String} {name : String}
    (hparts : Answer.functionParts? function = some (collection, name)) {view : FunctionView}
    {handler : Bag → W → Except Error String × W}
    (hresolve : r.resolve? collection name = some (.native view (Journal.watch handler)))
    (hdistinct : view.names.Nodup) :
    ∃ plan, createPlan o r backend goal j = (.ok plan, j') ∧
      ∀ (s : Services (Journal W)) (w : W) (calls : List Call),
        Cancellable.isCancelled (Elapsing.elapse w) = false →
          ∃ b, Delivered goal args view b ∧ (plan.invoke s ∅ ⟨w, calls⟩).world.calls =
            calls ++ [⟨[0], b, (handler b (Elapsing.elapse w)).1⟩] := by
  obtain ⟨rationale, hplan⟩ :=
    createPlan_of_chooses hgoal hcomplete hstop hread hchooses hparts hresolve
  have hne : goal ≠ "" := by
    rintro rfl
    cases hgoal
  refine ⟨_, hplan, fun s w calls hlive => ?_⟩
  have hdelivered := delivered_applyDefaults (f := .native view (Journal.watch handler))
    (n := { PlanNode.ofGoal goal with state := args, rationale := rationale }) hne hdistinct
  refine ⟨_, hdelivered, ?_⟩
  rw [Plan.world_invoke_ofFunction rfl rfl _ s ∅ hlive]
  rfl

/-- An argument that looks like a placeholder, an empty one with a default, and one that is not
    given. -/
theorem chosen_handler_called_once_placeholder :
    let view : FunctionView :=
      { collection := "Files", name := "Write"
        parameters := [⟨"path", "", none⟩, ⟨"content", "", some "nothing"⟩, ⟨"mode", "", none⟩] }
    let r : Registry (Journal Fuse) :=
      .ofList [.native view (Journal.watch fun b w => (.ok b.input, w))]
    let args : Bag := ⟨[("Path", "$input"), ("content", ""), ("other", "x")], by decide +kernel⟩
    let completion := Answer.continuation "r" "files.WRITE" args.entries
    let backend : Completion.Backend (Journal Fuse) :=
      ⟨"scripted", "", fun _ j => (.ok ⟨"", "", some completion, .stop, {}⟩, j)⟩
    let j : Journal Fuse := ⟨⟨false⟩, []⟩
    ∃ plan b, createPlan {} r backend "note it" j = (.ok plan, j) ∧
      (plan.invoke {} ∅ j).world.calls = [⟨[0], b, .ok "note it"⟩] ∧
      b.get? "path" = some "$input" ∧ b.get? "content" = some "nothing" ∧
      b.get? "mode" = none ∧ b.get? "other" = none := by
  intro view r args completion backend j
  have hstop : ¬ defaultStop.toList <:+: completion.toList := fun h =>
    absurd (h.subset (show '#' ∈ defaultStop.toList by decide)) (by decide +kernel)
  have hresolve : r.resolve? (some "files") "WRITE" =
      some (.native view (Journal.watch fun b w => (.ok b.input, w))) :=
    (Registry.get?_add _ _ _ _).trans (if_pos (by decide +kernel))
  have hcomplete : backend.completeText (promptFor {} r "note it") ({} : Options).settings j =
      (.ok completion, j) := rfl
  obtain ⟨plan, hplan, hcalls⟩ := chosen_handler_called_once (by decide +kernel) hcomplete
    (.inr hstop) (Answer.firstOfText_continuation "r" "files.WRITE" args)
    (Answer.chooses_meant "r" "files.WRITE" args) (by decide +kernel) hresolve (by decide +kernel)
  obtain ⟨b, hdelivered, hcall⟩ := hcalls {} ⟨false⟩ [] rfl
  have hmain : b.input = "note it" := by
    rw [Bag.input, hdelivered.main]
    decide +kernel
  refine ⟨plan, b, hplan, hmain ▸ hcall, ?_, ?_, ?_, ?_⟩
  · exact hdelivered.declared _ (.head _) (by decide +kernel)
  · exact hdelivered.declared _ (.tail _ (.head _)) (by decide +kernel)
  · exact hdelivered.declared _ (.tail _ (.tail _ (.head _))) (by decide +kernel)
  · exact hdelivered.others "other" (by decide +kernel) (by decide +kernel)

end Planner

end SkillPlan

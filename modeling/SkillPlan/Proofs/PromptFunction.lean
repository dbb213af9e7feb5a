import SkillPlan.Proofs.Plan.History
import SkillPlan.Proofs.Plan.Reliable
import SkillPlan.Proofs.Plan.Variables
import SkillPlan.Proofs.Template
import SkillPlan.PromptFunction

/-!
# Prompts reach the backend

A step is handed the values of declared parameters only, so a prompt function has to declare every
name that its prompt asks for. It does, whatever the prompt is and however its parameters are
described afterwards. So the backend is sent the prompt as if all the variables of the caller and of
the plan had been there to fill it in.
-/

namespace SkillPlan

open Text (fold)

variable {W : Type}

/-! ## What a prompt function declares -/

namespace PromptFunction

theorem names_describeFirst (name description : String) (ps : List ParameterView) :
    (describeFirst name description ps).map (fun p => fold p.name) =
      if fold name ∈ ps.map fun p => fold p.name then ps.map fun p => fold p.name
      else ps.map (fun p => fold p.name) ++ [fold name] := by
  induction ps with
  | nil => simp [describeFirst]
  | cons p rest ih =>
    unfold describeFirst
    by_cases hp : fold p.name = fold name
    · simp [hp]
    · have hp' : ¬ fold name = fold p.name := fun h => hp h.symm
      by_cases hrest : fold name ∈ rest.map fun p => fold p.name
      · simp_all
      · simp_all

theorem default_describeFirst (name description : String) {ps : List ParameterView}
    (h : ∀ p ∈ ps, p.default = none) :
    ∀ p ∈ describeFirst name description ps, p.default = none := by
  induction ps with
  | nil => simp [describeFirst]
  | cons p rest ih =>
    obtain ⟨hp, hrest⟩ := List.forall_mem_cons.mp h
    unfold describeFirst
    split
    · exact List.forall_mem_cons.mpr ⟨hp, hrest⟩
    · exact List.forall_mem_cons.mpr ⟨hp, ih hrest⟩

/-- The function has this prompt, declares every name that the prompt asks for beside the main
    value, no name twice, and has no defaults. -/
structure Declares (template : String) (f : PromptFunction W) : Prop where
  template_eq : f.template = template
  names : ∀ name ∈ Template.holes (Template.promptPieces template.toList),
    Bag.isInput name = false → fold name ∈ f.view.names
  nodup : f.view.names.Nodup
  noDefaults : ∀ p ∈ f.view.parameters, p.default = none

theorem names_ofTemplate (collection name template : String) :
    (ofTemplate collection name template : PromptFunction W).view.names =
      ((Template.promptNames template).filter (!Bag.isInput ·)).map fold := by
  simp [ofTemplate, FunctionView.names, Function.comp_def]

namespace Declares

variable {template : String} {f : PromptFunction W}

theorem ofTemplate (collection name template : String) :
    Declares template (.ofTemplate collection name template : PromptFunction W) where
  template_eq := rfl
  names := by
    intro hole hhole hinput
    have hmem : fold hole ∈ (Template.promptNames template).map fold :=
      (Template.mem_distinctNames _ _).mpr (List.mem_map_of_mem hhole)
    obtain ⟨name, hname, hsame⟩ := List.mem_map.mp hmem
    rw [names_ofTemplate, ← hsame]
    refine List.mem_map_of_mem (List.mem_filter.mpr ⟨hname, ?_⟩)
    simpa [Bag.isInput, Text.sameName, hsame] using hinput
  nodup := by
    rw [names_ofTemplate]
    exact (Template.nodup_distinctNames _).sublist (List.filter_sublist.map fold)
  noDefaults := by
    intro p hp
    obtain ⟨name, -, rfl⟩ := List.mem_map.mp hp
    rfl

theorem withParameter (h : Declares template f) (name description : String) :
    Declares template (f.withParameter name description) := by
  have hnames : (f.withParameter name description).view.names =
      if fold name ∈ f.view.names then f.view.names else f.view.names ++ [fold name] :=
    names_describeFirst name description f.view.parameters
  refine ⟨h.template_eq, ?_, ?_, default_describeFirst name description h.noDefaults⟩
  · intro hole hhole hinput
    rw [hnames]
    split
    · exact h.names hole hhole hinput
    · exact List.mem_append_left _ (h.names hole hhole hinput)
  · rw [hnames]
    split
    · exact h.nodup
    · rename_i hnew
      refine List.nodup_append.mpr ⟨h.nodup, by simp, ?_⟩
      intro key hkey key' hkey' heq
      rw [heq, List.mem_singleton.mp hkey'] at hkey
      exact hnew hkey

/-- Without defaults the prompt is rendered against the variables as they are. -/
theorem prompt_eq (h : Declares template f) (b : Bag) :
    f.prompt b = Template.render template b := by
  have hfill : ∀ ps : List ParameterView, (∀ p ∈ ps, p.default = none) →
      ps.foldl ParameterView.fill b = b := by
    intro ps hnone
    induction ps with
    | nil => rfl
    | cons p rest ih =>
      obtain ⟨hp, hrest⟩ := List.forall_mem_cons.mp hnone
      have hfirst : ParameterView.fill b p = b := by simp [ParameterView.fill, hp]
      rw [List.foldl_cons, hfirst, ih hrest]
  rw [prompt, h.template_eq, FunctionView.applyDefaults_eq, hfill _ h.noDefaults]

end Declares

/-- The functions that are made from a prompt, with any number of parameters described. -/
inductive BuiltFrom (template : String) : PromptFunction W → Prop
  | ofTemplate (collection name : String) :
      BuiltFrom template (.ofTemplate collection name template)
  | withParameter {f : PromptFunction W} (h : BuiltFrom template f) (name description : String) :
      BuiltFrom template (f.withParameter name description)
  | withDescription {f : PromptFunction W} (h : BuiltFrom template f) (description : String) :
      BuiltFrom template (f.withDescription description)
  | withSettings {f : PromptFunction W} (h : BuiltFrom template f)
      (settings : Completion.Settings) : BuiltFrom template { f with settings }
  | withBackend {f : PromptFunction W} (h : BuiltFrom template f) (c : Completion.Backend W) :
      BuiltFrom template { f with backend := some c }

theorem BuiltFrom.declares {template : String} {f : PromptFunction W} (h : BuiltFrom template f) :
    Declares template f := by
  induction h with
  | ofTemplate collection name => exact .ofTemplate collection name template
  | withParameter _ name description ih => exact ih.withParameter name description
  | withDescription _ description ih => exact ⟨ih.template_eq, ih.names, ih.nodup, ih.noDefaults⟩
  | withSettings _ settings ih => exact ⟨ih.template_eq, ih.names, ih.nodup, ih.noDefaults⟩
  | withBackend _ c ih => exact ⟨ih.template_eq, ih.names, ih.nodup, ih.noDefaults⟩

end PromptFunction

/-! ## What backends are sent -/

/-- A world together with the requests for completions that were sent in it. -/
structure Outbox (W : Type) where
  world : W
  requests : List Completion.Request

instance [Cancellable W] : Cancellable (Outbox W) := ⟨fun o => Cancellable.isCancelled o.world⟩

instance [Elapsing W] : Elapsing (Outbox W) :=
  ⟨fun o => { o with world := Elapsing.elapse o.world }⟩

/-- The backend that writes down what it is sent, and then does what it did before. -/
def Completion.Backend.watched (c : Completion.Backend W) : Completion.Backend (Outbox W) where
  name := c.name
  defaultModel := c.defaultModel
  complete r o :=
    let (answer, w) := c.complete r o.world
    (answer, ⟨w, o.requests ++ [r]⟩)

/-- The completion of a prompt changes the world as its request does. -/
theorem Completion.Backend.world_completeText (c : Completion.Backend W) (prompt : String)
    (s : Completion.Settings) (w : W) :
    (c.completeText prompt s w).2 = (c.complete (s.request prompt) w).2 := by
  unfold completeText
  cases c.complete (s.request prompt) w with
  | mk answer w' =>
    cases answer with
    | error e => rfl
    | ok r =>
      dsimp only
      cases r.content <;> rfl

/-- A call sends one request, for the prompt. -/
theorem PromptFunction.requests_invoke {f : PromptFunction (Outbox W)} {s : Services (Outbox W)}
    {c : Completion.Backend W} (hbackend : f.backend.or s.completion = some c.watched) (b : Bag)
    (o : Outbox W) :
    (f.toFunction.invoke s b o).2.requests = o.requests ++ [f.settings.request (f.prompt b)] := by
  have hworld : (f.toFunction.invoke s b o).2 =
      (c.watched.completeText (f.prompt b) f.settings o).2 := by
    simp only [toFunction, hbackend]
    cases c.watched.completeText (f.prompt b) f.settings o with
    | mk answer o' => cases answer <;> rfl
  rw [hworld, Completion.Backend.world_completeText]
  rfl

/-! ## What there is to show -/

namespace PlanNode

/-- The bag gives a prompt what the caller and the plan have to offer: as the main value the first
    that is not empty of those of the caller and of the state and the description, under any other
    name the value of the caller, else that of the state, where empty values do not count. -/
def Shows (n : PlanNode W) (b shown : Bag) : Prop :=
  ∀ name, (shown.get? name).getD "" =
    if Bag.isInput name then
      ([b.input, n.state.input, n.description].find? (· ≠ "")).getD ""
    else ((b.nonEmpty? name).or (n.state.nonEmpty? name)).getD ""

/-- There is a bag that shows all of it. -/
theorem exists_shows (n : PlanNode W) (b : Bag) : ∃ shown, n.Shows b shown := by
  refine ⟨(b.withoutEmpty.mergeMissing n.state).withInput
    (([b.input, n.state.input, n.description].find? (· ≠ "")).getD ""), fun name => ?_⟩
  simp only [Bag.get?_withInput, Bag.get?_mergeMissing, Bag.get?_withoutEmpty, Bag.isInput_iff]
  split
  · rfl
  · cases b.nonEmpty? name with
    | some value => rfl
    | none =>
      rw [Option.none_or, Option.none_or, Bag.nonEmpty?]
      cases n.state.get? name with
      | none => rfl
      | some value => by_cases hvalue : value = "" <;> simp [hvalue, Option.filter]

/-- What a step without steps of its own is handed as its main value. -/
theorem stepInput_of_leaf (n : PlanNode W) (b : Bag) {step : Plan W} (hleaf : step.steps = []) :
    n.stepInput b step = ([b.input, n.state.input, n.description].find? (· ≠ "")).getD "" := by
  rw [stepInput_eq, hleaf]
  rfl

/-- A main value of the caller or of the state is what the step is handed anyway. -/
theorem value?_input_or (n : PlanNode W) (b : Bag) {step : Plan W} {name : String}
    (hname : fold name = Bag.inputKey) :
    (n.value? b name).or (some (n.stepInput b step)) = some (n.stepInput b step) := by
  rw [value?, Bag.nonEmpty?_input hname, Bag.nonEmpty?_input hname, stepInput]
  by_cases hcaller : b.input = ""
  · by_cases hstate : n.state.input = "" <;> simp [hcaller, hstate]
  · simp [hcaller]

/-- For the placeholders of a prompt, the variables that a step is handed hold all there is to
    show. -/
theorem render_stepVariables {template : String} {f : PromptFunction W}
    (hf : f.Declares template) {step : Plan W} (hleaf : step.steps = [])
    (hfunction : step.node.function = some f.toFunction) (hown : step.node.parameters = ∅)
    {n : PlanNode W} {b shown : Bag} (hshown : n.Shows b shown) :
    Template.render template (n.stepVariables b step) = Template.render template shown := by
  refine Template.fill_congr fun name hname => ?_
  have hview : step.node.view = f.view := by
    rw [PlanNode.view, hfunction]
    rfl
  rw [get?_stepVariables n b hown, hview, hshown name, ← stepInput_of_leaf n b hleaf]
  cases hinput : Bag.isInput name with
  | true =>
    have hkey := Bag.isInput_iff.mp hinput
    simp only [hkey, ↓reduceIte, n.value?_input_or b hkey, ite_self, Option.getD_some]
  | false =>
    have hkey : fold name ≠ Bag.inputKey := fun h => by
      rw [Bag.isInput_iff.mpr h] at hinput
      cases hinput
    simp [hkey, hf.names name hname hinput, value?]

end PlanNode

/-! ## Steps that send a prompt -/

section

variable [Cancellable W] [Elapsing W]

/-- An attempt of the step of a prompt function sends one request, for the prompt with all there is
    to show filled in. -/
theorem PromptFunction.Declares.requests_attempt {template : String}
    {f : PromptFunction (Outbox W)} (hf : f.Declares template) {step : Plan (Outbox W)}
    (hleaf : step.steps = []) (hfunction : step.node.function = some f.toFunction)
    (hown : step.node.parameters = ∅) {s : Services (Outbox W)} {c : Completion.Backend W}
    (hbackend : f.backend.or s.completion = some c.watched) {w : Outbox W}
    (hlive : Cancellable.isCancelled (Elapsing.elapse w) = false) {n : PlanNode (Outbox W)}
    {b shown : Bag} (hshown : n.Shows b shown) :
    (n.attempt step b w fun b w => step.invoke s b w).world.requests =
      w.requests ++ [f.settings.request (Template.render template shown)] := by
  have hbound : step.isUnbound = false := by simp [Plan.isUnbound, hfunction]
  have hrequests : (step.invoke s (n.stepVariables b step) (Elapsing.elapse w)).world.requests =
      w.requests ++ [f.settings.request (Template.render template shown)] := by
    rw [Plan.invoke_of_function hfunction, Plan.world_call, requests_invoke hbackend, hf.prompt_eq,
      PlanNode.render_stepVariables hf hleaf hfunction hown hshown]
    rfl
  have houtcome := n.attempt_outcome step b w fun b w => step.invoke s b w
  generalize n.attempt step b w _ = a at houtcome
  cases houtcome with
  | cancelled hcancelled =>
    rw [hlive] at hcancelled
    cases hcancelled
  | notBound _ hunbound =>
    rw [hbound] at hunbound
    cases hunbound
  | failed _ _ r hr => exact hr ▸ hrequests
  | done _ _ r hr => exact hr ▸ hrequests

namespace Plan

/-- No value is lost on the way to the backend. However a prompt function was described, its
    declared names are all different, and when its step is run, the backend is sent one request. Its
    one message is the prompt filled in with all that the caller and the plan have to show. A run to
    the end sends it first, and goes on with the steps that are left. -/
theorem prompt_filled_from_all {template : String} {f : PromptFunction (Outbox W)}
    (hf : f.BuiltFrom template) {p step : Plan (Outbox W)}
    (hstep : p.steps[p.node.cursor]? = some step) (hleaf : step.steps = [])
    (hfunction : step.node.function = some f.toFunction) (hown : step.node.parameters = ∅)
    {s : Services (Outbox W)} {c : Completion.Backend W}
    (hbackend : f.backend.or s.completion = some c.watched) {w : Outbox W}
    (hlive : Cancellable.isCancelled (Elapsing.elapse w) = false) (b : Bag) :
    (f.view.parameters.map fun d => fold d.name).Nodup ∧ (∃ shown, p.node.Shows b shown) ∧
      ∀ shown, p.node.Shows b shown →
        let prompt := Template.render template shown
        let request := f.settings.request prompt
        let sent := w.requests ++ [request]
        request.messages = [⟨.user, some prompt⟩] ∧
          (p.invokeNextStep s b w).world.requests = sent ∧
          (∀ caller, (p.runNextStep b s caller w).world.requests = sent) ∧
          (p.node.function = none →
            let given := b.mergeMissing p.node.state
            let next := p.invokeNextStep s given w
            next.world.requests = sent ∧ p.invoke s b w =
              match next.result with
              | .error _ => next
              | .ok () =>
                next.plan.invoke s (given.withInput next.plan.node.state.input) next.world) := by
  refine ⟨hf.declares.nodup, p.node.exists_shows b, fun shown hshown => ?_⟩
  have hattempt := hf.declares.requests_attempt hleaf hfunction hown hbackend hlive hshown
  have hnext : (p.invokeNextStep s b w).world.requests =
      w.requests ++ [f.settings.request (Template.render template shown)] := by
    simp only [invokeNextStep, hstep, hattempt]
  refine ⟨rfl, hnext, fun caller => hnext, fun hroot => ⟨?_, invoke_eq_next hroot hstep s b w⟩⟩
  simp only [invokeNextStep, hstep]
  rw [PlanNode.attempt_congr (p.node.stepVariables_mergeMissing b step)]
  exact hattempt

end Plan

end

namespace Plan

/-- A prompt that names a place twice, in different cases. The caller has it without a value, and
    the state in a third case; for the main value there is only the description. -/
theorem prompt_filled_from_all_cases :
    let f : PromptFunction (Outbox Fuse) :=
      ((PromptFunction.ofTemplate "sample" "ask"
        "\x7b\x7b$Input\x7d\x7d in \x7b\x7b $city \x7d\x7d, \x7b\x7b$City\x7d\x7d").withParameter
        "CITY" "where").withParameter "mood" "how"
    let p : Plan (Outbox Fuse) := ⟨{ PlanNode.ofGoal "weather" with
      state := .ofList [("CITY", "Rome")] }, [.ofFunction f.toFunction]⟩
    let c : Completion.Backend Fuse :=
      { name := "echo", defaultModel := "", complete := fun _ w => (.error (.other "down"), w) }
    let b : Bag := .ofList [("city", "")]
    let r := p.invokeNextStep { completion := some c.watched } b ⟨⟨false⟩, []⟩
    ∃ shown request, p.node.Shows b shown ∧ (shown.get? "input").getD "" = "weather" ∧
      (shown.get? "city").getD "" = "Rome" ∧ r.world.requests = [request] ∧
      request.messages = [⟨.user, some (Template.render f.template shown)⟩] := by
  intro f p c b r
  have hf : f.BuiltFrom f.template :=
    ((PromptFunction.BuiltFrom.ofTemplate "sample" "ask").withParameter
      "CITY" "where").withParameter "mood" "how"
  obtain ⟨-, ⟨shown, hshown⟩, hsent⟩ := prompt_filled_from_all (p := p)
    (s := { completion := some c.watched }) (w := ⟨⟨false⟩, []⟩) hf rfl rfl rfl rfl rfl rfl b
  obtain ⟨hmessages, hrequests, -, -⟩ := hsent shown hshown
  exact ⟨shown, _, hshown, hshown "input", hshown "city", hrequests, hmessages⟩

end Plan

end SkillPlan

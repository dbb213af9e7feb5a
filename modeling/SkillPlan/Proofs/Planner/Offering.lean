import SkillPlan.Proofs.Planner.Catalog
import SkillPlan.Proofs.Planner.Choice
import SkillPlan.Proofs.Template

/-!
# What a planner shows and what it chooses

The prompt of a planner shows the catalog as it is. The function of a plan is one that the catalog
lists, or one that was kept back: the options decide what is shown, and an answer is looked up among
all the functions of the registry.
-/

namespace SkillPlan

open Text (fold)

variable {W : Type}

/-- A backend that completes a prompt was sent one request for it. -/
theorem Completion.Backend.completeText_of_ok {c : Completion.Backend W} {prompt text : String}
    {s : Completion.Settings} {w w' : W} (h : c.completeText prompt s w = (.ok text, w')) :
    ∃ response, c.complete (s.request prompt) w = (.ok response, w') ∧
      response.content = some text := by
  unfold completeText at h
  cases hcomplete : c.complete (s.request prompt) w with
  | mk answer w₁ =>
    rw [hcomplete] at h
    cases answer with
    | error failure => cases h
    | ok response =>
      dsimp only at h
      cases hcontent : response.content with
      | none =>
        rw [hcontent] at h
        cases h
      | some text' =>
        rw [hcontent] at h
        cases h
        exact ⟨response, rfl, hcontent⟩

namespace Planner

/-! ## Plans that were made -/

/-- The step of a plan calls the function that the registry has for the answer. -/
theorem steps_of_planOf {r : Registry W} {goal : String} {a : Answer} {plan : Plan W}
    (h : planOf r goal a = .ok plan) :
    plan.steps = [] ∨ ∃ f collection name,
      Answer.functionParts? a.function = some (collection, name) ∧
        r.resolve? collection name = some f ∧ plan.steps = [.ofFunction f] := by
  unfold planOf stepOf at h
  cases hparts : Answer.functionParts? a.function with
  | none =>
    rw [hparts] at h
    cases h
    exact .inl rfl
  | some parts =>
    obtain ⟨collection, name⟩ := parts
    simp only [hparts, Registry.resolve] at h
    cases hresolve : r.resolve? collection name with
    | none =>
      rw [hresolve] at h
      cases h
    | some f =>
      rw [hresolve] at h
      cases h
      exact .inr ⟨f, collection, name, rfl, hresolve, rfl⟩

/-- A plan was read out of the answer to a request for the prompt. -/
theorem createPlan_of_ok {o : Options} {r : Registry W} {backend : Completion.Backend W}
    {goal : String} {w w' : W} {plan : Plan W}
    (h : createPlan o r backend goal w = (.ok plan, w')) :
    ∃ response completion a,
      backend.complete (o.settings.request (promptFor o r goal)) w = (.ok response, w') ∧
        response.content = some completion ∧ Answer.ofCompletion completion o.stop = .ok a ∧
        planOf r goal a = .ok plan := by
  unfold createPlan at h
  split at h
  · cases h
  · cases hcomplete : backend.completeText (promptFor o r goal) o.settings w with
    | mk answer w₁ =>
      rw [hcomplete] at h
      cases answer with
      | error failure => cases h
      | ok completion =>
        simp only [Prod.mk.injEq] at h
        obtain ⟨hplan, rfl⟩ := h
        obtain ⟨response, hrequest, hcontent⟩ := Completion.Backend.completeText_of_ok hcomplete
        delta planOfCompletion at hplan
        cases hanswer : Answer.ofCompletion completion o.stop with
        | error e =>
          rw [hanswer] at hplan
          cases hplan
        | ok a =>
          rw [hanswer] at hplan
          exact ⟨response, completion, a, hrequest, hcontent, hanswer, hplan⟩

/-! ## The catalog in the prompt -/

/-- The template of the prompt has a place for the catalog. -/
def Options.ShowsCatalog (o : Options) : Prop :=
  ∃ name ∈ Template.holes (Template.promptPieces (o.prompt.getD defaultTemplate).toList),
    fold name = catalogKey

theorem catalog_infix_prompt {o : Options} (h : o.ShowsCatalog) (goal catalog : String) :
    catalog.toList <:+: (prompt o goal catalog).toList := by
  obtain ⟨name, hname, hkey⟩ := h
  let value := fun name => ((promptVariables goal catalog).get? name).getD ""
  have hvalue : value name = catalog := by
    have hinput : ¬ catalogKey = Bag.inputKey := by decide
    have hfold : fold catalogKey = catalogKey := by decide
    change ((promptVariables goal catalog).get? name).getD "" = catalog
    rw [promptVariables, Bag.get?_withInput, hkey, if_neg hinput, Bag.get?_set, hkey, hfold,
      if_pos rfl, Option.getD_some]
  have hfill : (value name).toList <:+: (prompt o goal catalog).toList := Template.infix_fill hname
  rwa [hvalue] at hfill

/-- The usual template has a place for the catalog. -/
theorem showsCatalog_of_default {o : Options} (h : o.prompt = none) : o.ShowsCatalog := by
  have hgood : "\x7b\x7b$good_examples\x7d\x7d" =
      "\x7b\x7b$" ++ goodExampleKey ++ "\x7d\x7d" := by decide
  have hedge : "\x7b\x7b$edge_case_examples\x7d\x7d" =
      "\x7b\x7b$" ++ edgeExampleKey ++ "\x7d\x7d" := by decide
  have hcatalog : "\x7b\x7b$available_functions\x7d\x7d" =
      "\x7b\x7b$" ++ catalogKey ++ "\x7d\x7d" := by decide
  have hwords : ∀ name ∈ [goodExampleKey, edgeExampleKey, catalogKey],
      name ≠ "" ∧ name.toList.all Text.isWord = true := by decide +kernel
  simp only [List.forall_mem_cons] at hwords
  obtain ⟨⟨hgoodNe, hgoodWord⟩, ⟨hedgeNe, hedgeWord⟩, ⟨hcatalogNe, hcatalogWord⟩, -⟩ := hwords
  refine ⟨catalogKey, ?_, by decide⟩
  rw [h, Option.getD_none, defaultTemplate, String.toList_intercalate]
  -- the lines up to the catalog, one after the other: evaluating the whole template takes too long
  simp only [List.map, List.intercalate_cons_cons, List.append_assoc, hgood, hedge, hcatalog]
  simp (disch := simp) only [Template.holes_promptPieces_append, Template.holes_hole,
    Template.promptPieces_placeholder hgoodNe hgoodWord,
    Template.promptPieces_placeholder hedgeNe hedgeWord,
    Template.promptPieces_placeholder hcatalogNe hcatalogWord, List.mem_cons, true_or, or_true]

/-! ## The function of a plan -/

/-- The function of a plan is registered. The prompt is the one message of the same request, and the
    catalog in it lists the function, unless its collection or its name is kept back: this only takes
    functions out of the catalog, while an answer is looked up among all of them. -/
theorem chosen_is_listed {o : Options} {fs : List (SkillFunction W)}
    {backend : Completion.Backend W} {goal : String} {w w' : W} {plan step : Plan W}
    (h : createPlan o (.ofList fs) backend goal w = (.ok plan, w')) (hstep : step ∈ plan.steps) :
    let r := Registry.ofList fs
    let prompt := promptFor o r goal
    let request := o.settings.request prompt
    ∃ response f, backend.complete request w = (.ok response, w') ∧
      request.messages = [⟨.user, some prompt⟩] ∧ f ∈ r.toList ∧ plan.steps = [.ofFunction f] ∧
      (f.view ∈ offered o r.listing ↔ o.keepsBack f.view = false) ∧
      (o.keepsBack f.view = false →
        ("\n" ++ f.view.qualifiedName ++ "\n").toList <:+: (catalog o r.listing).toList) ∧
      (o.ShowsCatalog → (catalog o r.listing).toList <:+: prompt.toList) := by
  intro r prompt request
  have hfiled : r.Filed := .ofList fs
  obtain ⟨response, completion, answer, hrequest, -, -, hplan⟩ := createPlan_of_ok h
  obtain hnone | ⟨f, collection, name, -, hresolve, hsteps⟩ := steps_of_planOf hplan
  · rw [hnone] at hstep
    cases hstep
  · have hf : f ∈ r.toList := Registry.mem_toList_of_get? hresolve
    have hoffered := mem_offered_listing hfiled o hf
    refine ⟨response, f, hrequest, rfl, hf, hsteps, hoffered, fun hkept => ?_, fun hshows => ?_⟩
    · exact identifier_infix_catalog (hoffered.mpr hkept)
    · exact catalog_infix_prompt hshows goal _

/-- A backend that completes every prompt in the same way. -/
def scripted (completion : String) : Completion.Backend W :=
  ⟨"scripted", "", fun _ w => (.ok ⟨"", "", some completion, .stop, {}⟩, w)⟩

/-- A backend that names a registered function makes a plan of this function. -/
theorem createPlan_scripted {o : Options} {r : Registry W} {goal rationale function : String}
    (hgoal : Text.isAllBlank goal = false)
    (hstop : ¬ o.stop.toList <:+: (Answer.continuation rationale function []).toList)
    {collection : Option String} {name : String}
    (hparts : Answer.functionParts? function = some (collection, name)) {f : SkillFunction W}
    (hresolve : r.resolve? collection name = some f) (w : W) :
    ∃ plan, createPlan o r (scripted (Answer.continuation rationale function [])) goal w =
      (.ok plan, w) ∧ plan.steps = [.ofFunction f] := by
  have hcomplete : (scripted (Answer.continuation rationale function [])).completeText
      (promptFor o r goal) o.settings w = (.ok (Answer.continuation rationale function []), w) :=
    rfl
  obtain ⟨rationale', hplan⟩ := createPlan_of_chooses hgoal hcomplete (.inr hstop)
    (Answer.firstOfText_continuation rationale function ∅)
    (Answer.chooses_meant rationale function ∅) hparts hresolve
  exact ⟨_, hplan, rfl⟩

/-- A function that is chosen in another case, beside one that is kept back by its name. -/
theorem chosen_is_listed_beside_excluded :
    let f : SkillFunction Fuse := .ofText { collection := "Time", name := "Now" } fun _ => "noon"
    let g : SkillFunction Fuse := .ofText { collection := "Time", name := "Date" } fun _ => "May"
    let o : Options := { excludedFunctions := ["date"] }
    let r := Registry.ofList [f, g]
    ∃ plan, createPlan o r (scripted (Answer.continuation "r" "time.NOW" [])) "tell the time"
        ⟨false⟩ = (.ok plan, ⟨false⟩) ∧
      plan.steps = [.ofFunction f] ∧
      "\nTime.Now\n".toList <:+: (promptFor o r "tell the time").toList := by
  intro f g o r
  have hgoal : Text.isAllBlank "tell the time" = false := by decide +kernel
  have hstop : ¬ o.stop.toList <:+: (Answer.continuation "r" "time.NOW" []).toList := fun h =>
    absurd (h.subset (show '#' ∈ o.stop.toList by decide)) (by decide +kernel)
  have hresolve : r.resolve? (some "time") "NOW" = some f :=
    (Registry.get?_add _ _ _ _).trans <| (if_neg (by decide +kernel)).trans <|
      (Registry.get?_add _ _ _ _).trans (if_pos (by decide +kernel))
  obtain ⟨plan, hplan, hsteps⟩ :=
    createPlan_scripted hgoal hstop (by decide +kernel) hresolve ⟨false⟩
  obtain ⟨-, f', -, -, -, hsteps', -, hlisted, hshown⟩ :=
    chosen_is_listed hplan (hsteps ▸ List.mem_cons_self)
  have hsame : f = f' :=
    Option.some.inj (congrArg (·.head?.bind (·.node.function)) (hsteps.symm.trans hsteps'))
  subst hsame
  refine ⟨plan, hplan, hsteps, ?_⟩
  exact (hlisted (by decide +kernel)).trans (hshown (showsCatalog_of_default rfl))

/-- A function of the planner's own collection is not offered, and yet an answer that names it is
    taken. -/
theorem chosen_although_kept_back :
    let f : SkillFunction Fuse :=
      .ofText { collection := "this", name := "ListOfFunctions" } fun _ => "x"
    let r := Registry.ofList [f]
    f.view ∉ offered {} r.listing ∧ ∃ plan,
      createPlan {} r (scripted (Answer.continuation "r" "this.ListOfFunctions" [])) "list them"
          ⟨false⟩ = (.ok plan, ⟨false⟩) ∧
        plan.steps = [.ofFunction f] := by
  intro f r
  have hgoal : Text.isAllBlank "list them" = false := by decide +kernel
  have hstop : ¬ ({} : Options).stop.toList <:+:
      (Answer.continuation "r" "this.ListOfFunctions" []).toList := fun h =>
    absurd (h.subset (show '#' ∈ defaultStop.toList by decide)) (by decide +kernel)
  have hparts : Answer.functionParts? "this.ListOfFunctions" =
      some (some "this", "ListOfFunctions") := by decide +kernel
  have hresolve : r.resolve? (some "this") "ListOfFunctions" = some f :=
    (Registry.get?_add _ _ _ _).trans (if_pos (by decide +kernel))
  have hoffered := mem_offered_listing (.ofList [f]) {} (Registry.mem_toList_of_get? hresolve)
  refine ⟨fun hmem => ?_, createPlan_scripted hgoal hstop hparts hresolve ⟨false⟩⟩
  exact absurd (hoffered.mp hmem) (by decide +kernel)

end Planner

end SkillPlan

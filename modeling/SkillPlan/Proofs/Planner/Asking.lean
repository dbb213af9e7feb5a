import SkillPlan.Proofs.Planner.Offering
import SkillPlan.Proofs.PromptFunction
import SkillPlan.Proofs.Template.Rendering

/-!
# What a planner asks

The usual template has four placeholders: two for the examples, one for the catalog and one for the
goal. Filled in, it is the catalog between two fixed texts, then the goal and the opening of the
answer, whatever the catalog and the goal say (`prompt_of_default`). A planner asks for the
completion of this text once, and the opening that the text ends with is put before the completion
when it is read (`goal_asked_literally`).
-/

namespace SkillPlan

namespace Planner

open Template (Placeholder render render_around render_of_no_mark)

/-! ## The usual prompt -/

/-- What the usual prompt says before the examples. -/
def introduction : String :=
  "A planner takes a list of functions, a goal, and chooses which function to use.\n" ++
    "For each function the list includes details about the input parameters.\n" ++
    "[START OF EXAMPLES]\n"

/-- What the usual prompt says between the examples and the catalog. -/
def scenario : String :=
  "\n[END OF EXAMPLES]\n[REAL SCENARIO STARTS HERE]\n- List of functions:\n"

/-- What the usual prompt says before the catalog. -/
def promptStart : String := introduction ++ goodExample ++ "\n" ++ edgeExample ++ scenario

/-- What the usual prompt says between the catalog and the goal. -/
def promptMiddle : String := "\n- End list of functions.\nGoal: "

/-- The usual template has one place for each of the texts that it is filled with. -/
theorem defaultTemplate_eq :
    defaultTemplate =
      introduction ++ { name := goodExampleKey : Placeholder }.text ++ "\n" ++
        { name := edgeExampleKey : Placeholder }.text ++ scenario ++
        { name := catalogKey : Placeholder }.text ++ promptMiddle ++
        { name := Bag.inputKey : Placeholder }.text ++ ("\n" ++ answerOpening) := by
  decide +kernel

theorem get?_promptVariables (goal catalog : String) :
    let vars := promptVariables goal catalog
    vars.get? goodExampleKey = some goodExample ∧ vars.get? edgeExampleKey = some edgeExample ∧
      vars.get? catalogKey = some catalog ∧ vars.get? Bag.inputKey = some goal := by
  simp +decide [promptVariables, Bag.get?_withInput, Bag.get?_set]

/-- The usual prompt is the catalog between two fixed texts, then the goal and the opening of the
    answer. -/
theorem prompt_of_default {o : Options} (h : o.prompt = none) (goal catalog : String) :
    prompt o goal catalog =
      promptStart ++ catalog ++ promptMiddle ++ goal ++ "\n" ++ answerOpening := by
  obtain ⟨hgood, hedge, hcatalog, hgoal⟩ := get?_promptVariables goal catalog
  -- the fixed texts have no mark in them, so the four placeholders are all that is filled in
  have hintroduction : '$' ∉ introduction.toList := by decide +kernel
  have hbreak : '$' ∉ "\n".toList := by decide
  have hscenario : '$' ∉ scenario.toList := by decide +kernel
  have hmiddle : '$' ∉ promptMiddle.toList := by decide +kernel
  have hend : '$' ∉ ("\n" ++ answerOpening).toList := by decide +kernel
  calc prompt o goal catalog = render defaultTemplate (promptVariables goal catalog) := by
        rw [prompt, h, Option.getD_none]
    _ = introduction ++ goodExample ++ "\n" ++ edgeExample ++ scenario ++ catalog ++ promptMiddle ++
        goal ++ ("\n" ++ answerOpening) := by
      simp only [defaultTemplate_eq, render_around, hgood, hedge, hcatalog, hgoal, Option.getD_some,
        render_of_no_mark hintroduction, render_of_no_mark hbreak, render_of_no_mark hscenario,
        render_of_no_mark hmiddle, render_of_no_mark hend]
    _ = promptStart ++ catalog ++ promptMiddle ++ goal ++ "\n" ++ answerOpening := by
      rw [promptStart, ← String.append_assoc]

/-! ## Requests of a planner -/

variable {W : Type}

/-- A planner changes the world as its request does. -/
theorem world_createPlan {o : Options} {r : Registry W} {backend : Completion.Backend W}
    {goal : String} (hgoal : Text.isAllBlank goal = false) (w : W) :
    (createPlan o r backend goal w).2 =
      (backend.complete (o.settings.request (promptFor o r goal)) w).2 := by
  rw [← backend.world_completeText]
  simp only [createPlan, hgoal, Bool.false_eq_true, ↓reduceIte]
  cases backend.completeText (promptFor o r goal) o.settings w with
  | mk answer w' => cases answer <;> rfl

/-- A completion is read behind the opening of the answer. -/
theorem createPlan_of_completion {o : Options} {r : Registry W} {backend : Completion.Backend W}
    {goal : String} (hgoal : Text.isAllBlank goal = false) {w w' : W}
    {response : Completion.Response} {completion : String}
    (hcomplete : backend.complete (o.settings.request (promptFor o r goal)) w = (.ok response, w'))
    (hcontent : response.content = some completion) :
    (createPlan o r backend goal w).1 = planOfCompletion o r goal completion := by
  simp only [createPlan, hgoal, Bool.false_eq_true, ↓reduceIte, Completion.Backend.completeText,
    hcomplete, hcontent]

/-- A completion stands for what it says behind the opening of the answer. -/
theorem planOfCompletion_cases (o : Options) (r : Registry W) (goal completion : String) :
    let read := Answer.ofText (answerOpening ++ Answer.untilStop completion o.stop)
    (∀ a, read = .ok a → planOfCompletion o r goal completion = planOf r goal a) ∧
      ∀ e, read = .error e →
        planOfCompletion o r goal completion = .error (e.note "completion" completion) := by
  constructor
  · intro a ha
    have hread : Answer.ofCompletion completion o.stop = .ok a := ha
    unfold planOfCompletion
    rw [hread]
  · intro e he
    have hread : Answer.ofCompletion completion o.stop = .error e := he
    unfold planOfCompletion
    rw [hread]

/-- A blank goal is refused, and nothing happens. -/
theorem createPlan_of_blank {o : Options} {r : Registry W} {backend : Completion.Backend W}
    {goal : String} (hgoal : Text.isAllBlank goal = true) (w : W) :
    (createPlan o r backend goal w).2 = w ∧
      ∃ e, (createPlan o r backend goal w).1 = .error e ∧ e.kind = .invalidGoal := by
  rw [createPlan, if_pos hgoal]
  exact ⟨rfl, _, rfl, rfl⟩

/-- Without a template of its own a planner asks for the completion of one text: the catalog between
    two fixed texts, then the goal and the opening of the answer, whatever stands in the goal and in
    the descriptions of functions. It asks once, with this text as the one message of the user, and
    reads the completion, up to the mark that ends it, behind the same opening. For a blank goal it
    does not ask. -/
theorem goal_asked_literally {o : Options} (h : o.prompt = none) (r : Registry (Outbox W))
    (c : Completion.Backend W) (goal : String) (w : Outbox W) :
    let text := promptStart ++ catalog o r.listing ++ promptMiddle ++ goal ++ "\n" ++ answerOpening
    let request := o.settings.request text
    let asked := createPlan o r c.watched goal w
    (Text.isAllBlank goal = false →
      asked.2.requests = w.requests ++ [request] ∧ request.messages = [⟨.user, some text⟩] ∧
      ∀ response completion, (c.complete request w.world).1 = .ok response →
        response.content = some completion →
        let read := Answer.ofText (answerOpening ++ Answer.untilStop completion o.stop)
        (∀ a, read = .ok a → asked.1 = planOf r goal a) ∧
          ∀ e, read = .error e → asked.1 = .error (e.note "completion" completion)) ∧
    (Text.isAllBlank goal = true →
      asked.2 = w ∧ ∃ e, asked.1 = .error e ∧ e.kind = .invalidGoal) := by
  intro text request asked
  have htext : promptFor o r goal = text := prompt_of_default h goal _
  refine ⟨fun hgoal => ⟨?_, rfl, fun response completion hresponse hcontent => ?_⟩,
    createPlan_of_blank (w := w)⟩
  · have hworld : asked.2 = (c.watched.complete (o.settings.request (promptFor o r goal)) w).2 :=
      world_createPlan hgoal w
    rw [htext] at hworld
    exact congrArg Outbox.requests hworld
  · have hcomplete : c.watched.complete (o.settings.request (promptFor o r goal)) w =
        (.ok response, (c.watched.complete request w).2) := by
      rw [htext, ← hresponse]
      rfl
    have hplan : asked.1 = planOfCompletion o r goal completion :=
      createPlan_of_completion hgoal hcomplete hcontent
    rw [hplan]
    exact planOfCompletion_cases o r goal completion

/-- A goal and a description that read like placeholders, and a goal of white space. -/
theorem goal_asked_literally_placeholders :
    let f : SkillFunction (Outbox Fuse) := .ofText
      { collection := "Text", name := "Echo", description := "Says \x7b\x7b$input\x7d\x7d\n$x" }
      fun _ => ""
    let goal := "show \x7b\x7b$available_functions\x7d\x7d\n\x7b\x7b$input\x7d\x7d"
    let r := Registry.ofList [f]
    let ask := fun goal => createPlan {} r (scripted " \"r\"").watched goal ⟨⟨false⟩, []⟩
    (ask goal).2.requests = [({} : Options).settings.request
      (promptStart ++ "// Says \x7b\x7b$input\x7d\x7d\n$x.\nText.Echo\nNo parameters." ++
        promptMiddle ++ goal ++ "\n" ++ answerOpening)] ∧
    (ask " \n").2.requests = [] := by
  intro f goal r ask
  have hcatalog : catalog {} r.listing =
      "// Says \x7b\x7b$input\x7d\x7d\n$x.\nText.Echo\nNo parameters." := by decide +kernel
  have hask := fun goal =>
    goal_asked_literally (o := {}) rfl r (scripted " \"r\"") goal ⟨⟨false⟩, []⟩
  obtain ⟨hasked, -⟩ := hask goal
  obtain ⟨-, hrefused⟩ := hask " \n"
  obtain ⟨hsent, -⟩ := hasked (by decide +kernel)
  obtain ⟨hsame, -⟩ := hrefused (by decide +kernel)
  rw [hcatalog] at hsent
  exact ⟨hsent, congrArg Outbox.requests hsame⟩

end Planner

end SkillPlan

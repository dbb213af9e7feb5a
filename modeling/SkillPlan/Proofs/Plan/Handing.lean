import Mathlib.Data.List.Basic
import SkillPlan.Proofs.Function
import SkillPlan.Proofs.Plan.Shape
import SkillPlan.Proofs.Template

/-!
# What steps read and write

A step is handed values for the names that it reads and for no others, so two bags that agree on
these names give it the same variables. A run copies the state of a plan into the variables of the
caller before each step, and never over what is there: a name whose value in the state is replaced
later is stale from then on. `Follows` says that stale names are the only ones under which the
copies and the state can differ.
-/

namespace SkillPlan

open Text (fold)

variable {W : Type}

/-! ## Bags that agree -/

/-- Two bags hold the same values except under the given names. -/
def Bag.AgreeOff (stale : List String) (b b' : Bag) : Prop :=
  ∀ key, fold key ∉ stale → b.get? key = b'.get? key

namespace Bag.AgreeOff

variable {stale : List String} {b b' : Bag}

theorem refl (stale : List String) (b : Bag) : b.AgreeOff stale b := fun _ _ => rfl

theorem symm (h : b.AgreeOff stale b') : b'.AgreeOff stale b := fun key hkey => (h key hkey).symm

theorem trans {b'' : Bag} (h : b.AgreeOff stale b') (h' : b'.AgreeOff stale b'') :
    b.AgreeOff stale b'' :=
  fun key hkey => (h key hkey).trans (h' key hkey)

theorem mono {stale' : List String} (h : b.AgreeOff stale b') (hsub : ∀ n ∈ stale, n ∈ stale') :
    b.AgreeOff stale' b' :=
  fun key hkey => h key fun hmem => hkey (hsub _ hmem)

theorem mergeMissing (h : b.AgreeOff stale b') (other : Bag) :
    (b.mergeMissing other).AgreeOff stale (b'.mergeMissing other) := by
  intro key hkey
  rw [get?_mergeMissing, get?_mergeMissing, h key hkey]

/-- Writing the same main value to both makes them agree on it. -/
theorem withInput (h : b.AgreeOff (inputKey :: stale) b') (value : String) :
    (b.withInput value).AgreeOff stale (b'.withInput value) := by
  intro key hkey
  rw [get?_withInput, get?_withInput]
  split
  · rfl
  · rename_i hinput
    exact h key fun hmem => (List.mem_cons.mp hmem).elim hinput hkey

/-- Agreement on the main value too. -/
theorem of_input (h : b.AgreeOff (inputKey :: stale) b')
    (hinput : b.get? inputKey = b'.get? inputKey) : b.AgreeOff stale b' := by
  intro key hkey
  by_cases hk : fold key = inputKey
  · rw [get?_inputKey b key hk, get?_inputKey b' key hk, hinput]
  · exact h key fun hmem => (List.mem_cons.mp hmem).elim hk hkey

theorem input_eq (h : b.AgreeOff stale b') (hinput : inputKey ∉ stale) : b.input = b'.input := by
  rw [input, input, h inputKey (by rwa [fold_inputKey])]

end Bag.AgreeOff

/-! ## Names -/

namespace PlanNode

/-- The names under which the step is handed values as they are, folded. -/
def lookups (n : PlanNode W) : List String :=
  (n.view.parameters.map fun p => fold p.name) ++
    (n.parameters.entries.filter fun e => e.2 = "").map fun e => fold e.1

/-- The names of the placeholders in the parameters of the step, folded. -/
def placeholders (n : PlanNode W) : List String :=
  (n.parameters.entries.flatMap fun e =>
    Template.holes (Template.parameterPieces e.2.toList)).map fold

/-- The names whose values the step is handed in one way or the other, folded. The main value is
    handed in any case. -/
def reads (n : PlanNode W) : List String := n.lookups ++ n.placeholders

/-- The names under which the result of the step is kept beside the main value, folded. -/
def writes (n : PlanNode W) : List String := (n.outputs.keys.filter (!Bag.isInput ·)).map fold

/-- What a step reads does not depend on states and cursors. -/
theorem reads_of_reset_eq {n n' : PlanNode W} (h : n'.reset = n.reset) :
    n'.reads = n.reads ∧ n'.placeholders = n.placeholders := by
  have hreads := congrArg reads h
  have hplaceholders := congrArg placeholders h
  exact ⟨hreads, hplaceholders⟩

theorem inputKey_not_mem_writes (n : PlanNode W) : Bag.inputKey ∉ n.writes := by
  intro h
  obtain ⟨key, hkey, hfold⟩ := List.mem_map.mp h
  have hinput := (List.mem_filter.mp hkey).2
  rw [Bag.isInput_iff.mpr hfold] at hinput
  cases hinput

/-- The state after a step: its result stands as the main value and under the names that it
    writes. -/
theorem get?_state_commit (n step : PlanNode W) (result key : String) :
    (n.commit step result).state.get? key =
      if fold key ∈ step.writes ∨ fold key = Bag.inputKey then some (Text.trim result)
      else n.state.get? key := by
  rw [commit]
  change Bag.get? (List.foldl _ _ _) key = _
  rw [Bag.get?_foldl_set, Bag.get?_withInput, ← writes]
  by_cases hw : fold key ∈ step.writes
  · rw [if_pos hw, if_pos (.inl hw)]
  · rw [if_neg hw]
    by_cases hi : fold key = Bag.inputKey
    · rw [if_pos hi, if_pos (.inr hi)]
    · rw [if_neg hi, if_neg (not_or.mpr ⟨hw, hi⟩)]

theorem input_state_commit (n step : PlanNode W) (result : String) :
    (n.commit step result).state.get? Bag.inputKey = some (Text.trim result) := by
  rw [get?_state_commit, if_pos (.inr Bag.fold_inputKey)]

/-- After a step, the variables of a run and the state hold the same main value. -/
theorem get?_inputKey_commit (n step : PlanNode W) (result : String) (b : Bag) :
    ((b.withInput (n.commit step result).state.input).mergeMissing
        (n.commit step result).state).get? Bag.inputKey =
      (n.commit step result).state.get? Bag.inputKey := by
  rw [Bag.get?_mergeMissing, Bag.get?_withInput, if_pos Bag.fold_inputKey, Option.some_or,
    Bag.input, input_state_commit, Option.getD_some]

end PlanNode

/-! ## What a step is handed -/

namespace PlanNode

/-- Nodes and bags that give a step the same main value, the same values as they are and the same
    values in place of its placeholders hand it the same variables. -/
theorem stepVariables_congr {n n' : PlanNode W} {b b' : Bag} {step : Plan W}
    (hinput : n.stepInput b step = n'.stepInput b' step)
    (hlookups : ∀ key, fold key ∈ step.node.lookups → n.value? b key = n'.value? b' key)
    (hplaceholders : ∀ key, fold key ∈ step.node.placeholders →
      (b.get? key).or (n.state.get? key) = (b'.get? key).or (n'.state.get? key)) :
    n.stepVariables b step = n'.stepVariables b' step := by
  -- values are handed one by one, so each of them may be replaced on its own
  have hdeclared : ∀ handed, ∀ p ∈ step.node.view.parameters,
      n.handDeclared b handed p = n'.handDeclared b' handed p := by
    intro handed p hp
    have hmem : fold p.name ∈ step.node.lookups :=
      List.mem_append_left _ (List.mem_map.mpr ⟨p, hp, rfl⟩)
    rw [handDeclared, handDeclared, hlookups p.name hmem]
  have hnamed : ∀ handed, ∀ e ∈ step.node.parameters.entries,
      n.handNamed b handed e = n'.handNamed b' handed e := by
    intro handed e he
    rw [handNamed, handNamed]
    by_cases hempty : e.2 = ""
    · have hmem : fold e.1 ∈ step.node.lookups :=
        List.mem_append_right _ (List.mem_map.mpr ⟨e, by simp [he, hempty], rfl⟩)
      rw [if_neg (not_not_intro hempty), if_neg (not_not_intro hempty), hlookups e.1 hmem]
    · have hexpand : Template.expand e.2 b n.state = Template.expand e.2 b' n'.state := by
        refine Template.fill_congr fun name hname => ?_
        have hmem : fold name ∈ step.node.placeholders :=
          List.mem_map_of_mem (List.mem_flatMap.mpr ⟨e, he, hname⟩)
        rw [hplaceholders name hmem]
      rw [if_pos hempty, if_pos hempty, hexpand]
  rw [stepVariables, stepVariables, hinput, List.foldl_ext _ _ _ hdeclared,
    List.foldl_ext _ _ _ hnamed]

/-- A step is handed the same by nodes and bags that hold the same under the names that it reads and
    as the main value. -/
theorem stepVariables_of_reads {n n' : PlanNode W} {b b' : Bag} {step : Plan W}
    (hdescription : n.description = n'.description)
    (hsame : ∀ key, fold key ∈ Bag.inputKey :: step.node.reads →
      b.get? key = b'.get? key ∧ n.state.get? key = n'.state.get? key) :
    n.stepVariables b step = n'.stepVariables b' step := by
  have hreads : ∀ key, fold key ∈ step.node.reads →
      b.get? key = b'.get? key ∧ n.state.get? key = n'.state.get? key :=
    fun key hkey => hsame key (List.mem_cons_of_mem _ hkey)
  refine stepVariables_congr ?_ ?_ ?_
  · obtain ⟨hcaller, hstate⟩ := hsame Bag.inputKey (Bag.fold_inputKey ▸ List.mem_cons_self)
    have hcaller : b.input = b'.input := congrArg (·.getD "") hcaller
    have hstate : n.state.input = n'.state.input := congrArg (·.getD "") hstate
    rw [stepInput, stepInput, hcaller, hstate, hdescription]
  · intro key hkey
    obtain ⟨hcaller, hstate⟩ := hreads key (List.mem_append_left _ hkey)
    rw [value?, value?, Bag.nonEmpty?_congr hcaller, Bag.nonEmpty?_congr hstate]
  · intro key hkey
    obtain ⟨hcaller, hstate⟩ := hreads key (List.mem_append_right _ hkey)
    rw [hcaller, hstate]

/-- Bags that agree on the main value and on the names that a step reads hand it the same
    variables. -/
theorem stepVariables_agree {n : PlanNode W} {stale : List String} {b b' : Bag} {step : Plan W}
    (h : b.AgreeOff stale b') (hinput : Bag.inputKey ∉ stale)
    (hreads : ∀ name ∈ step.node.reads, name ∉ stale) :
    n.stepVariables b step = n.stepVariables b' step := by
  refine stepVariables_of_reads rfl fun key hkey => ⟨h key ?_, rfl⟩
  obtain hkey | hkey := List.mem_cons.mp hkey
  · rwa [hkey]
  · exact hreads _ hkey

/-- The state is looked into after the variables of the caller, so a copy of it among these changes
    nothing. -/
theorem stepVariables_mergeMissing (n : PlanNode W) (b : Bag) (step : Plan W) :
    n.stepVariables (b.mergeMissing n.state) step = n.stepVariables b step := by
  refine stepVariables_congr ?_ ?_ ?_
  · rw [stepInput, stepInput, Bag.input, Bag.input, Bag.input, Bag.get?_mergeMissing]
    cases b.get? Bag.inputKey with
    | some value => simp
    | none => by_cases hstate : (n.state.get? Bag.inputKey).getD "" = "" <;> simp [hstate]
  · intro key _
    rw [value?, value?, Bag.nonEmpty?, Bag.nonEmpty?, Bag.nonEmpty?, Bag.get?_mergeMissing]
    cases b.get? key <;> simp
  · intro key _
    rw [Bag.get?_mergeMissing, Option.or_assoc, Option.or_self]

/-- An attempt depends on the variables of the caller through those that the step is handed. -/
theorem attempt_congr [Cancellable W] [Elapsing W] {n : PlanNode W} {b b' : Bag} {step : Plan W}
    (h : n.stepVariables b step = n.stepVariables b' step) (w : W) (run : Bag → W → Run W) :
    n.attempt step b w run = n.attempt step b' w run := by
  rw [attempt, attempt, h]

end PlanNode

/-! ## Stale names -/

/-- The names that go stale when a step runs: those that it writes although the state holds them
    already. `held` are the names that the state holds. A name among `given` was there before the
    state was copied, so its value is no copy and never goes stale. -/
def PlanNode.spoils (given held : List String) (step : PlanNode W) : List String :=
  step.writes.filter fun name => name ∈ held ∧ name ∉ given

theorem PlanNode.inputKey_not_mem_spoils (given held : List String) (step : PlanNode W) :
    Bag.inputKey ∉ step.spoils given held :=
  fun h => step.inputKey_not_mem_writes (List.mem_filter.mp h).1

/-- The names that go stale when some steps run one after the other. -/
def Plan.staleNames (given held : List String) : List (Plan W) → List String
  | [] => []
  | step :: rest =>
    step.node.spoils given held ++ staleNames given (held ++ step.node.writes) rest

theorem Plan.inputKey_not_mem_staleNames (given held : List String) (steps : List (Plan W)) :
    Bag.inputKey ∉ staleNames given held steps := by
  induction steps generalizing held with
  | nil => exact List.not_mem_nil
  | cons step rest ih =>
    rw [staleNames, List.mem_append]
    exact not_or.mpr ⟨step.node.inputKey_not_mem_spoils given held, ih _⟩

/-- The variables `b` of a caller are those it was given with the state of a node merged in, except
    under the main value and the stale names; `held` are the names that the state holds. -/
structure Follows (given : Bag) (stale held : List String) (n : PlanNode W) (b : Bag) : Prop where
  agree : b.AgreeOff (Bag.inputKey :: stale) (given.mergeMissing n.state)
  held : ∀ name ∈ n.state.names, name ≠ Bag.inputKey → name ∈ held

namespace Follows

variable {given : Bag} {stale held : List String} {n : PlanNode W} {b : Bag}

theorem start (given : Bag) (n : PlanNode W) :
    Follows given [] n.state.names n (given.mergeMissing n.state) where
  agree := .refl _ _
  held _ h _ := h

/-- When a step has run, a name is stale that was so before, or that the step has written over. -/
theorem commit (h : Follows given stale held n b) (step : PlanNode W) (result value : String) :
    Follows given
      (stale ++ step.spoils given.names held)
      (held ++ step.writes) (n.commit step result)
      ((b.withInput value).mergeMissing (n.commit step result).state) where
  agree := by
    intro key hkey
    simp only [List.mem_cons, List.mem_append, PlanNode.spoils, List.mem_filter, decide_eq_true_eq,
      not_or, not_and] at hkey
    obtain ⟨hinput, hstale, hwritten⟩ := hkey
    have hb : b.get? key = (given.get? key).or (n.state.get? key) := by
      rw [← Bag.get?_mergeMissing]
      exact h.agree key fun hmem => (List.mem_cons.mp hmem).elim hinput hstale
    rw [Bag.get?_mergeMissing, Bag.get?_mergeMissing, Bag.get?_withInput, if_neg hinput, hb,
      Option.or_assoc]
    cases hgiven : given.get? key with
    | some v => rfl
    | none =>
      -- a copy of the name in `b` is still what the state holds, since the step does not write it
      rw [Option.none_or, Option.none_or]
      cases hstate : n.state.get? key with
      | none => rfl
      | some v =>
        have hheld : fold key ∈ held :=
          h.held _ (Bag.mem_names_iff.mpr (by simp [hstate])) hinput
        have hnotgiven : fold key ∉ given.names := fun hmem => Bag.mem_names_iff.mp hmem hgiven
        have hnotwritten : fold key ∉ step.writes := fun hw => hwritten hw hheld hnotgiven
        rw [PlanNode.get?_state_commit, if_neg (not_or.mpr ⟨hnotwritten, hinput⟩), hstate,
          Option.some_or]
  held := by
    intro name hname hinput
    obtain ⟨e, he, rfl⟩ := List.mem_map.mp hname
    have hget := Bag.mem_names_iff.mp hname
    rw [PlanNode.get?_state_commit] at hget
    by_cases hw : fold e.1 ∈ step.writes
    · exact List.mem_append_right _ hw
    · rw [if_neg (not_or.mpr ⟨hw, hinput⟩)] at hget
      exact List.mem_append_left _ (h.held _ (Bag.mem_names_iff.mpr hget) hinput)

end Follows

/-- The variables of a run that went through some steps, and those that it was given, hand a step
    the same if it reads no stale name and the main value has not changed. An empty main value gives
    way to the one in the state. -/
theorem PlanNode.stepVariables_rebuilt {n : PlanNode W} {g b : Bag} {step : Plan W}
    {stale : List String} {value : String} (hstate : n.state.get? Bag.inputKey = some value)
    (hb : b.get? Bag.inputKey = some value)
    (hagree : (g.mergeMissing n.state).AgreeOff (Bag.inputKey :: stale) b)
    (hstale : Bag.inputKey ∉ stale) (hunread : ∀ name ∈ step.node.reads, name ∉ stale)
    (hmain : g.input = n.state.input ∨ g.input = "" ∧ Bag.inputKey ∉ step.node.placeholders) :
    n.stepVariables (g.mergeMissing n.state) step = n.stepVariables b step := by
  have hvalue : n.state.input = value := by rw [Bag.input, hstate, Option.getD_some]
  have hbInput : b.input = value := by rw [Bag.input, hb, Option.getD_some]
  have hmerged := Bag.get?_mergeMissing g n.state Bag.inputKey
  rw [hstate] at hmerged
  cases hg : g.get? Bag.inputKey with
  | none =>
    rw [hg, Option.none_or] at hmerged
    exact stepVariables_agree (hagree.of_input (hmerged.trans hb.symm)) hstale hunread
  | some main =>
    rw [hg, Option.some_or] at hmerged
    have hgInput : g.input = main := by rw [Bag.input, hg, Option.getD_some]
    rw [hgInput, hvalue] at hmain
    by_cases hsame : main = value
    · -- the main value from outside is the one in the state
      rw [hsame] at hmerged
      exact stepVariables_agree (hagree.of_input (hmerged.trans hb.symm)) hstale hunread
    · -- the one from outside is empty, so the step is handed the one in the state
      obtain ⟨rfl, hplaceholder⟩ := hmain.resolve_left hsame
      have hget : ∀ key, fold key ∈ step.node.reads → fold key ≠ Bag.inputKey →
          (g.mergeMissing n.state).get? key = b.get? key :=
        fun key hkey hinput => hagree key fun hmem =>
          (List.mem_cons.mp hmem).elim hinput (hunread _ hkey)
      refine stepVariables_congr ?_ ?_ ?_
      · have hinput : (g.mergeMissing n.state).input = "" := by
          rw [Bag.input, hmerged, Option.getD_some]
        rw [stepInput, stepInput, hinput, hbInput, hvalue]
        simp [Ne.symm hsame]
      · intro key hkey
        by_cases hinput : fold key = Bag.inputKey
        · rw [value?, value?, Bag.nonEmpty?, Bag.nonEmpty?, Bag.nonEmpty?,
            Bag.get?_inputKey _ key hinput, Bag.get?_inputKey b key hinput,
            Bag.get?_inputKey n.state key hinput, hmerged, hb, hstate]
          simp [Option.filter]
        · rw [value?, value?,
            Bag.nonEmpty?_congr (hget key (List.mem_append_left _ hkey) hinput)]
      · intro key hkey
        have hinput : fold key ≠ Bag.inputKey := fun h => hplaceholder (h ▸ hkey)
        rw [hget key (List.mem_append_right _ hkey) hinput]

end SkillPlan

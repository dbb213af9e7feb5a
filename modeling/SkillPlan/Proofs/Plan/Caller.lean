import SkillPlan.Proofs.Plan.Step
import SkillPlan.Proofs.Plan.Stepping

/-!
# What a run leaves of the caller's variables

A run to the end writes into the variables of its caller before and after each step: the names that
they lack and the state holds, and the main value. So all that stood there stays, and what is new
comes from a state of the plan itself: `invoke_keeps_caller`. The variables of the plans below it
are their own.
-/

namespace SkillPlan

open Text (fold)

variable {W : Type}

/-! ## Variables that are kept -/

namespace Bag

/-- Every variable of `b` but the main value stands in `b'` as well, with its value and its casing
    and at its place. -/
def KeptIn (b b' : Bag) : Prop :=
  ∀ (i : Nat) (e : String × String), b.entries[i]? = some e → isInput e.1 = false →
    b'.entries[i]? = some e

theorem isInput_eq_false_iff {key : String} : isInput key = false ↔ fold key ≠ inputKey := by
  rw [← Bool.not_eq_true, isInput_iff]

namespace KeptIn

variable {b b' b'' : Bag}

theorem refl (b : Bag) : b.KeptIn b := fun _ _ h _ => h

theorem trans (h : b.KeptIn b') (h' : b'.KeptIn b'') : b.KeptIn b'' :=
  fun i e he hinput => h' i e (h i e he hinput) hinput

theorem mergeMissing (h : b.KeptIn b') (other : Bag) : b.KeptIn (b'.mergeMissing other) := by
  intro i e he hinput
  have hkept := h i e he hinput
  obtain ⟨hlt, -⟩ := List.getElem?_eq_some_iff.mp hkept
  rw [entries_mergeMissing, List.getElem?_append_left hlt, hkept]

theorem withInput (h : b.KeptIn b') (value : String) : b.KeptIn (b'.withInput value) := by
  intro i e he hinput
  refine Pairs.getElem?_put ?_ value (h i e he hinput)
  rw [fold_inputKey]
  exact isInput_eq_false_iff.mp hinput

end KeptIn

theorem mem_of_mem_withInput {b : Bag} {value : String} {e : String × String}
    (hinput : isInput e.1 = false) (h : e ∈ (b.withInput value).entries) : e ∈ b.entries :=
  Pairs.mem_of_mem_put (by rw [fold_inputKey]; exact isInput_eq_false_iff.mp hinput) h

theorem mem_of_mem_mergeMissing {b other : Bag} {e : String × String}
    (h : e ∈ (b.mergeMissing other).entries) : e ∈ b.entries ∨ e ∈ other.entries := by
  rw [entries_mergeMissing, List.mem_append] at h
  exact h.imp_right fun hadded => (List.mem_filter.mp hadded).1

end Bag

/-! ## Runs to the end -/

namespace Plan

variable [Cancellable W] [Elapsing W]

/-- The plans that a run to the end passes: the plan as it is, and as it is after each step that
    succeeds. -/
inductive Passes (s : Services W) : Plan W → Bag → W → Plan W → Prop
  | start {p : Plan W} {b : Bag} {w : W} : Passes s p b w p
  | next {p q : Plan W} {b given : Bag} {w : W} {r : Run W} (hroot : p.node.function = none)
      (hnext : p.hasNextStep = true) (hgiven : b.mergeMissing p.node.state = given)
      (hr : p.invokeNextStep s given w = r) (hok : r.result = .ok ())
      (hpasses : Passes s r.plan (given.withInput r.plan.node.state.input) r.world q) :
      Passes s p b w q

/-- What is left when a run to the end is over: the variables of the caller are kept, those that are
    new stood in a state that the plan had in the meantime, the plan ends as the last one that the
    run passes, without having lost a name of its state, and the main value of the caller is the one
    of the state if a step was run. -/
structure LeavesCaller (s : Services W) (p : Plan W) (b : Bag) (w : W) (r : Run W) : Prop where
  kept : b.KeptIn r.caller
  new : ∀ e ∈ r.caller.entries, Bag.isInput e.1 = false → e ∈ b.entries ∨
    e.1 ∈ r.plan.node.state.keys ∧ ∃ q, Passes s p b w q ∧ e ∈ q.node.state.entries
  last : ∃ q, Passes s p b w q ∧ q.node = r.plan.node
  names : p.node.state.keys <+: r.plan.node.state.keys
  main : p.node.function = none → p.hasNextStep = true ∨ b.input = p.node.state.input →
    r.result = .ok () → r.caller.input = r.plan.node.state.input

theorem leavesCaller_call {p : Plan W} {f : SkillFunction W} (hf : p.node.function = some f)
    (s : Services W) (b : Bag) (w : W) : LeavesCaller s p b w (p.invoke s b w) := by
  rw [invoke_of_function hf, call]
  have hmain : p.node.function ≠ none := by rw [hf]; exact Option.some_ne_none f
  cases f.invoke s b w with
  | mk answer w' =>
    cases answer with
    | error e =>
      exact ⟨.refl b, fun e he _ => .inl he, ⟨p, .start, rfl⟩, List.prefix_refl _,
        fun h => absurd h hmain⟩
    | ok text =>
      exact ⟨(Bag.KeptIn.refl b).withInput text,
        fun e he hinput => .inl (Bag.mem_of_mem_withInput hinput he), ⟨p, .start, rfl⟩,
        List.prefix_refl _, fun h => absurd h hmain⟩

/-- The caller after a step that fails: what the state holds has been merged in. -/
theorem leavesCaller_failed {p : Plan W} {s : Services W} {b : Bag} {w : W} {r : Run W} {e : Error}
    (hfail : r.result = .error e) (hnode : r.plan.node = p.node)
    (hcaller : r.caller = b.mergeMissing p.node.state) : LeavesCaller s p b w r where
  kept := hcaller ▸ (Bag.KeptIn.refl b).mergeMissing _
  new e he _ := by
    rw [hcaller] at he
    refine (Bag.mem_of_mem_mergeMissing he).imp_right fun hstate => ⟨?_, p, .start, hstate⟩
    rw [hnode]
    exact List.mem_map_of_mem hstate
  last := ⟨p, .start, hnode.symm⟩
  names := by simp only [hnode, List.prefix_rfl]
  main _ _ hok := by rw [hok] at hfail; cases hfail

/-- The caller after a step that succeeds and the run of what is left then. -/
theorem leavesCaller_next {p : Plan W} (hroot : p.node.function = none)
    (hnext : p.hasNextStep = true) {s : Services W} {b : Bag} {w : W} :
    let given := b.mergeMissing p.node.state
    let next := p.invokeNextStep s given w
    ∀ {r : Run W}, next.result = .ok () → LeavesCaller s next.plan
      (given.withInput next.plan.node.state.input) next.world r → LeavesCaller s p b w r := by
  intro given next r hok hrest
  obtain ⟨step, result, hnode, -⟩ := commit_of_invokeNextStep_ok hnext hok
  have hnames : p.node.state.keys <+: next.plan.node.state.keys := by
    rw [hnode, (p.node.takes_commit step result).keys]
    exact List.prefix_append _ _
  have hfunction : next.plan.node.function = none :=
    (function_of_reset_eq (reset_invokeNextStep p s given w)).trans hroot
  refine ⟨?_, fun e he hinput => ?_, ?_, hnames.trans hrest.names, fun _ _ hend => ?_⟩
  · exact (((Bag.KeptIn.refl b).mergeMissing _).withInput _).trans hrest.kept
  · obtain hgiven | ⟨hname, q, hpasses, hq⟩ := hrest.new e he hinput
    · -- it was there before the step, and if not at first, the state held it
      obtain hb | hstate := Bag.mem_of_mem_mergeMissing (Bag.mem_of_mem_withInput hinput hgiven)
      · exact .inl hb
      · have hname := hnames.trans hrest.names
        exact .inr ⟨hname.subset (List.mem_map_of_mem hstate), p, .start, hstate⟩
    · exact .inr ⟨hname, q, .next hroot hnext rfl rfl hok hpasses, hq⟩
  · obtain ⟨q, hpasses, hq⟩ := hrest.last
    exact ⟨q, .next hroot hnext rfl rfl hok hpasses, hq⟩
  · exact hrest.main hfunction (.inr (Bag.input_withInput _ _)) hend

theorem leavesCaller_invoke (s : Services W) (p : Plan W) (b : Bag) (w : W) :
    LeavesCaller s p b w (p.invoke s b w) := by
  induction p, b, w using invoke_induction (s := s) with
  | call p f b w hf => exact leavesCaller_call hf s b w
  | done p b w hroot hnone =>
    rw [invoke_eq_self hroot hnone]
    refine ⟨.refl b, fun e he _ => .inl he, ⟨p, .start, rfl⟩, List.prefix_refl _, fun _ h _ => ?_⟩
    exact h.resolve_left (by rw [hnone]; exact Bool.false_ne_true)
  | next p b w hroot hnext ih =>
    obtain ⟨step, hstep⟩ := exists_next_step hnext
    rw [invoke_eq_next hroot hstep]
    cases hresult : (p.invokeNextStep s (b.mergeMissing p.node.state) w).result with
    | error e =>
      refine leavesCaller_failed hresult (node_invokeNextStep_of_error hresult) ?_
      rw [invokeNextStep, hstep]
    | ok u => exact leavesCaller_next hroot hnext hresult (ih hresult)

/-- However a run to the end comes out, the variables of its caller but the main value are as they
    were, in their order and casing; any other variable that is there now is one of the state of the
    plan, with a value that it had there in the meantime; and if a plan without a function was run
    from a step to its end, the main value is the one of its state. -/
theorem invoke_keeps_caller (p : Plan W) (s : Services W) (b : Bag) (w : W) :
    let r := p.invoke s b w
    b.KeptIn r.caller ∧
      (∀ e ∈ r.caller.entries, Bag.isInput e.1 = false → b.contains e.1 = false →
        e.1 ∈ r.plan.node.state.keys ∧ ∃ q, Passes s p b w q ∧ e ∈ q.node.state.entries) ∧
      (p.node.function = none → p.hasNextStep = true → r.result = .ok () →
        r.caller.input = r.plan.node.state.input) := by
  intro r
  have hleaves := leavesCaller_invoke s p b w
  refine ⟨hleaves.kept, fun e he hinput hnew => ?_, fun hroot hnext hok => ?_⟩
  · refine (hleaves.new e he hinput).resolve_left fun hb => ?_
    rw [Bag.contains_iff.mpr (List.mem_map_of_mem hb)] at hnew
    cases hnew
  · exact hleaves.main hroot (.inl hnext) hok

/-- A name of the caller in another case than in the state, an output that is written over after it
    was copied, one that comes too late to be copied, and one that stays in the plan below. -/
theorem invoke_keeps_caller_overwritten :
    let p : Plan Machine := ⟨{ PlanNode.ofGoal "goal" with state := .ofList [("zeta", "old")] },
      [⟨.ofGoal "inner", [writing "hidden" "y"]⟩, writing "one" "x", writing "two" "X",
        writing "three" "z"]⟩
    let b : Bag := ⟨[("Input", "start"), ("ZETA", "given")], by decide⟩
    let r := p.invoke {} b {}
    r.caller.entries = [("Input", "three"), ("ZETA", "given"), ("x", "one")] ∧ b.KeptIn r.caller ∧
      r.plan.node.state.get? "x" = some "two" ∧
      (∃ q, Passes {} p b {} q ∧ ("x", "one") ∈ q.node.state.entries) ∧
      r.caller.input = r.plan.node.state.input := by
  intro p b r
  have hentries : r.caller.entries = [("Input", "three"), ("ZETA", "given"), ("x", "one")] := by
    decide +kernel
  have hstate : r.plan.node.state.get? "x" = some "two" := by decide +kernel
  obtain ⟨hkept, hnew, hmain⟩ := invoke_keeps_caller p {} b {}
  obtain ⟨-, hpassed⟩ := hnew ("x", "one") (by rw [hentries]; simp) (by decide) (by decide)
  exact ⟨hentries, hkept, hstate, hpassed, hmain rfl rfl rfl⟩

end Plan

end SkillPlan

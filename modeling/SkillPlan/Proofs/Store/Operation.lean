import SkillPlan.Store

/-!
# Asking a store

The operations of a store as values, what the store answers to each, and what it answers to a
sequence of them.
-/

namespace SkillPlan

variable {S W : Type}

/-- What a store can be asked. -/
inductive Operation (W : Type) where
  | save (name : String) (plan : Plan W)
  | load (name : String) (registry : Option (Registry W))
  | erase (name : String)
  | contains (name : String)
  | list

/-- What a store answers. -/
inductive Answer (W : Type) where
  | done (result : Except Error Unit)
  | plan (result : Except Error (Plan W))
  | held (holds : Bool)
  | names (names : List String)

namespace PlanStore

/-- The state after a change, and the answer to it. -/
def changed (st : S) : Except Error S → S × Answer W
  | .ok st' => (st', .done (.ok ()))
  | .error e => (st, .done (.error e))

/-- The state after an operation, and the answer to it. -/
def perform (p : PlanStore S) (st : S) : Operation W → S × Answer W
  | .save name plan => changed st (p.save st name plan)
  | .load name none => (st, .plan (p.load st name))
  | .load name (some r) => (st, .plan (p.loadBound r st name))
  | .erase name => changed st (p.erase st name)
  | .contains name => (st, .held (p.contains st name))
  | .list => (st, .names (p.list st))

/-- The answers to a sequence of operations. -/
def answers (p : PlanStore S) (st : S) : List (Operation W) → List (Answer W)
  | [] => []
  | op :: ops => (p.perform st op).2 :: p.answers (p.perform st op).1 ops

/-- The state after a sequence of operations. -/
def after (p : PlanStore S) (st : S) : List (Operation W) → S
  | [] => st
  | op :: ops => p.after (p.perform st op).1 ops

/-- An operation leaves the state as it is, unless it saves or erases and succeeds. -/
theorem perform_cases (p : PlanStore S) (st : S) (op : Operation W) :
    (p.perform st op).1 = st ∨
      (∃ name plan, op = .save name plan ∧ p.save st name plan = .ok (p.perform st op).1) ∨
      ∃ name, op = .erase name ∧ p.erase st name = .ok (p.perform st op).1 := by
  cases op with
  | save name plan =>
    cases hsave : p.save st name plan with
    | error e => exact .inl (by simp only [perform, hsave, changed])
    | ok st' => exact .inr (.inl ⟨name, plan, rfl, by simp only [perform, hsave, changed]⟩)
  | load name registry => cases registry <;> exact .inl rfl
  | erase name =>
    cases herase : p.erase st name with
    | error e => exact .inl (by simp only [perform, herase, changed])
    | ok st' => exact .inr (.inr ⟨name, rfl, by simp only [perform, herase, changed]⟩)
  | contains name => exact .inl rfl
  | list => exact .inl rfl

theorem load_congr {S' : Type} {p : PlanStore S} {q : PlanStore S'} {st : S} {st' : S'}
    {name : String}
    (hget : p.storage.get? st (p.fullKey name) = q.storage.get? st' (q.fullKey name)) :
    (p.load st name : Except Error (Plan W)) = q.load st' name := by
  unfold load
  rw [hget]

/-- A plan that was loaded was kept as a value. -/
theorem get?_of_load {p : PlanStore S} {st : S} {name : String} {plan : Plan W}
    (h : p.load st name = .ok plan) :
    ∃ value, p.storage.get? st (p.fullKey name) = .ok (some value) := by
  unfold load at h
  cases hget : p.storage.get? st (p.fullKey name) with
  | error e =>
    rw [hget] at h
    cases h
  | ok found =>
    cases found with
    | none =>
      rw [hget] at h
      cases h
    | some value => exact ⟨value, rfl⟩

end PlanStore

end SkillPlan

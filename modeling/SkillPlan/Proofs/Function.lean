import SkillPlan.Function
import SkillPlan.Proofs.Bag

/-!
# Defaults

What a function finds under the name of a declared parameter once its defaults are filled in.
Parameters with different names are filled in independently of one another.
-/

namespace SkillPlan

open Text (fold)

/-- The names of the declared parameters, folded. -/
def FunctionView.names (v : FunctionView) : List String := v.parameters.map fun p => fold p.name

/-- The variables with the default of one parameter, if that is missing or empty. -/
def ParameterView.fill (b : Bag) (p : ParameterView) : Bag :=
  match p.default with
  | some d => if (b.nonEmpty? p.name).isNone then b.set p.name d else b
  | none => b

theorem FunctionView.applyDefaults_eq (v : FunctionView) (b : Bag) :
    v.applyDefaults b = v.parameters.foldl ParameterView.fill b := rfl

namespace ParameterView

theorem get?_fill (b : Bag) (p : ParameterView) :
    (fill b p).get? p.name = ((b.nonEmpty? p.name).or p.default).or (b.get? p.name) := by
  have hvalue : ∀ value, b.nonEmpty? p.name = some value → b.get? p.name = some value :=
    fun value h => (Bag.nonEmpty?_eq_some_iff.mp h).1
  unfold fill
  cases hdefault : p.default with
  | none =>
    cases hgiven : b.nonEmpty? p.name with
    | none => rfl
    | some value => exact hvalue value hgiven
  | some d =>
    cases hgiven : b.nonEmpty? p.name with
    | none => simp
    | some value => exact hvalue value hgiven

theorem get?_fill_of_ne {key : String} {p : ParameterView} (h : fold key ≠ fold p.name) (b : Bag) :
    (fill b p).get? key = b.get? key := by
  unfold fill
  cases p.default with
  | none => rfl
  | some d =>
    dsimp only
    split
    · rw [Bag.get?_set, if_neg h]
    · rfl

theorem get?_foldl_fill_of_not_mem {key : String} {ps : List ParameterView}
    (h : fold key ∉ ps.map fun p => fold p.name) (b : Bag) :
    (ps.foldl fill b).get? key = b.get? key := by
  induction ps generalizing b with
  | nil => rfl
  | cons p rest ih =>
    rw [List.map_cons, List.mem_cons, not_or] at h
    rw [List.foldl_cons, ih h.2, get?_fill_of_ne h.1]

/-- Parameters with different names are filled in without regard to one another. -/
theorem get?_foldl_fill {ps : List ParameterView} (hdistinct : (ps.map fun p => fold p.name).Nodup)
    (b : Bag) {p : ParameterView} (hp : p ∈ ps) :
    (ps.foldl fill b).get? p.name = ((b.nonEmpty? p.name).or p.default).or (b.get? p.name) := by
  induction ps generalizing b with
  | nil => cases hp
  | cons q rest ih =>
    obtain ⟨hq, hrest⟩ := List.nodup_cons.mp hdistinct
    rw [List.foldl_cons]
    cases hp with
    | head => rw [get?_foldl_fill_of_not_mem hq, get?_fill]
    | tail _ hp =>
      have hne : fold p.name ≠ fold q.name := fun h => hq (List.mem_map.mpr ⟨p, hp, h⟩)
      have hsame : (fill b q).get? p.name = b.get? p.name := get?_fill_of_ne hne b
      rw [ih hrest _ hp, Bag.nonEmpty?_congr hsame, hsame]

end ParameterView

end SkillPlan

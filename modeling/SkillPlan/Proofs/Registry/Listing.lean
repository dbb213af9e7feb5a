import SkillPlan.Registry

/-!
# What a listing lists

A listing holds the views that were added to it, each as often as it was added: native ones apart
from semantic ones, and of each sort those of one collection together. The groups stand in the order
in which their collections came up, the views of a group in the order in which they were added.
-/

namespace SkillPlan

/-! ## Groups -/

namespace FunctionGroups

/-- Adds several views in turn. -/
def addAll (vs : List FunctionView) (gs : FunctionGroups) : FunctionGroups :=
  vs.foldl (fun gs v => FunctionGroups.add v gs) gs

theorem views_add_perm (v : FunctionView) (gs : FunctionGroups) :
    (gs.add v).views.Perm (v :: gs.views) := by
  induction gs with
  | nil => exact .refl _
  | cons g rest ih =>
    obtain ⟨c, vs⟩ := g
    unfold add
    split
    · simp only [views, List.flatMap_cons, List.append_assoc, List.singleton_append]
      exact List.perm_middle
    · simp only [views, List.flatMap_cons] at ih ⊢
      exact (ih.append_left vs).trans List.perm_middle

theorem views_addAll_perm (vs : List FunctionView) (gs : FunctionGroups) :
    (addAll vs gs).views.Perm (vs ++ gs.views) := by
  induction vs generalizing gs with
  | nil => exact .refl _
  | cons v rest ih =>
    exact (ih (gs.add v)).trans (((views_add_perm v gs).append_left rest).trans List.perm_middle)

/-- Views go into the first group if they are of its collection, and past it if they are not. -/
theorem addAll_cons (vs : List FunctionView) (c : String) (us : List FunctionView)
    (gs : FunctionGroups) :
    addAll vs ((c, us) :: gs) =
      (c, us ++ vs.filter (·.collection == c)) :: addAll (vs.filter (!·.collection == c)) gs := by
  unfold addAll
  induction vs generalizing us gs with
  | nil => simp
  | cons v rest ih =>
    rw [List.foldl_cons, FunctionGroups.add]
    by_cases hc : c = v.collection
    · subst hc
      simp [ih]
    · have hne : (v.collection == c) = false := beq_eq_false_iff_ne.mpr (Ne.symm hc)
      simp [hc, hne, ih]

/-- The groups are those of the collections in the order in which they first came up, and each has
    the views of its collection in their order. -/
theorem addAll_nil (vs : List FunctionView) :
    addAll vs [] = (vs.map (·.collection)).eraseDups.map fun c =>
      (c, vs.filter (·.collection == c)) := by
  match vs with
  | [] => rfl
  | v :: rest =>
    -- the views of other collections are grouped on their own
    have hothers := addAll_nil (rest.filter (!·.collection == v.collection))
    have hcollections : (rest.map (·.collection)).filter (!· == v.collection) =
        (rest.filter (!·.collection == v.collection)).map (·.collection) := by
      rw [List.filter_map]
      rfl
    have hfirst : addAll (v :: rest) [] = addAll rest [(v.collection, [v])] := rfl
    rw [hfirst, addAll_cons, hothers, List.map_cons, List.eraseDups_cons, hcollections,
      List.map_cons, List.cons.injEq]
    refine ⟨by simp, List.map_congr_left fun c hc => ?_⟩
    obtain ⟨u, hu, rfl⟩ := List.mem_map.mp (List.mem_eraseDups.mp hc)
    have hne : u.collection ≠ v.collection := by simpa using (List.mem_filter.mp hu).2
    have hv : (v.collection == u.collection) = false := beq_eq_false_iff_ne.mpr hne.symm
    rw [List.filter_filter, List.filter_cons_of_neg (by simp [hv])]
    congr 1
    refine List.filter_congr fun w _ => ?_
    by_cases hw : w.collection = u.collection <;> simp [hw, hne]
termination_by vs.length
decreasing_by exact Nat.lt_succ_of_le (List.length_filter_le _ _)

end FunctionGroups

/-! ## Listings -/

namespace FunctionListing

/-- Views of each sort are grouped among themselves. -/
theorem ofViews_eq (vs : List FunctionView) :
    ofViews vs = ⟨FunctionGroups.addAll (vs.filter (!·.isSemantic)) [],
      FunctionGroups.addAll (vs.filter (·.isSemantic)) []⟩ := by
  have hfold : ∀ l : FunctionListing, vs.foldl add l =
      ⟨FunctionGroups.addAll (vs.filter (!·.isSemantic)) l.native,
        FunctionGroups.addAll (vs.filter (·.isSemantic)) l.semantic⟩ := by
    induction vs with
    | nil => exact fun l => rfl
    | cons v rest ih =>
      intro l
      rw [List.foldl_cons, ih, FunctionListing.add]
      cases hv : v.isSemantic <;> simp [hv, FunctionGroups.addAll]
  exact hfold {}

/-- Each view is listed as often as it was added. -/
theorem toList_ofViews_perm (vs : List FunctionView) : (ofViews vs).toList.Perm vs := by
  have hgroups : ∀ us, (FunctionGroups.addAll us []).views.Perm us := fun us =>
    (FunctionGroups.views_addAll_perm us []).trans (.of_eq (List.append_nil us))
  rw [ofViews_eq, toList]
  exact ((hgroups _).append (hgroups _)).trans (List.filter_append_perm (·.isSemantic) vs)

end FunctionListing

end SkillPlan

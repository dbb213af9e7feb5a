import SkillPlan.Machine
import SkillPlan.Proofs.Registry
import SkillPlan.Proofs.Registry.Listing

/-!
# Functions that were filed in turn

Functions go by their collection and name in any case, and by the global collection where they have
none. Of those that go by one collection and name the last one that was filed is found, and the
others are gone. The listing has the views of the functions that are left and no others.
-/

namespace SkillPlan

open Text (fold sameName)

variable {W : Type}

/-! ## Places -/

/-- The collection that is meant where this one is given: the global one if it is empty. -/
def meantCollection (collection : String) : String :=
  if collection = "" then globalCollection else collection

namespace SkillFunction

/-- The function goes by a collection, the global one if there is none given, and a name. -/
def goesBy (collection : Option String) (name : String) (f : SkillFunction W) : Bool :=
  sameName (meantCollection f.view.collection) (meantCollection (collection.getD "")) &&
    sameName f.view.name name

/-- Where a registry files the function. -/
def place (f : SkillFunction W) : String × String :=
  (Registry.shelfKey f.view.collection, fold f.view.name)

theorem goesBy_iff {f : SkillFunction W} {collection : Option String} {name : String} :
    f.goesBy collection name = true ↔
      f.place = (Registry.shelfKey (collection.getD ""), fold name) := by
  rw [goesBy, Bool.and_eq_true, Text.sameName_iff, Text.sameName_iff, place, Prod.mk.injEq]
  rfl

/-- Two functions have one place when each goes by the collection and the name of the other. -/
theorem goesBy_view_iff {f g : SkillFunction W} :
    g.goesBy (some f.view.collection) f.view.name = true ↔ g.place = f.place := goesBy_iff

end SkillFunction

namespace Registry

/-! ## What is found -/

theorem resolve?_add (r : Registry W) (f : SkillFunction W) (collection : Option String)
    (name : String) : (r.add f).resolve? collection name =
      if f.goesBy collection name then some f else r.resolve? collection name := by
  rw [resolve?, get?_add]
  have hplace : (shelfKey (collection.getD "") = shelfKey f.view.collection ∧
      fold name = fold f.view.name) ↔ f.goesBy collection name = true := by
    rw [SkillFunction.goesBy_iff, SkillFunction.place, Prod.mk.injEq]
    exact and_congr eq_comm eq_comm
  simp only [hplace, resolve?]

/-- After some functions were filed, the last of them that goes by the collection and the name is
    found, and if there is none, what was found before. -/
theorem resolve?_addAll (r : Registry W) (fs : List (SkillFunction W)) (collection : Option String)
    (name : String) : (r.addAll fs).resolve? collection name =
      (fs.reverse.find? (·.goesBy collection name)).or (r.resolve? collection name) := by
  induction fs generalizing r with
  | nil => rfl
  | cons f rest ih =>
    have hstep : (r.addAll (f :: rest)).resolve? collection name =
        ((r.add f).addAll rest).resolve? collection name := rfl
    rw [hstep, ih, resolve?_add, List.reverse_cons, List.find?_append, Option.or_assoc]
    cases hf : f.goesBy collection name <;> simp [hf]

theorem resolve?_ofList (fs : List (SkillFunction W)) (collection : Option String)
    (name : String) : (ofList fs).resolve? collection name =
      fs.reverse.find? (·.goesBy collection name) := by
  rw [ofList, resolve?_addAll]
  exact Option.or_none

/-! ## What is left -/

/-- The functions that are left when some were filed in turn: those in whose place none was filed
    later. -/
def left : List (SkillFunction W) → List (SkillFunction W)
  | [] => []
  | f :: rest =>
    if rest.any (·.goesBy (some f.view.collection) f.view.name) then left rest else f :: left rest

theorem left_sublist (fs : List (SkillFunction W)) : (left fs).Sublist fs := by
  induction fs with
  | nil => exact .refl _
  | cons f rest ih =>
    unfold left
    split
    · exact ih.cons f
    · exact ih.cons_cons f

theorem pairwise_left (fs : List (SkillFunction W)) :
    (left fs).Pairwise fun f g => f.place ≠ g.place := by
  induction fs with
  | nil => exact .nil
  | cons f rest ih =>
    unfold left
    split
    · exact ih
    · rename_i hnone
      refine List.pairwise_cons.mpr ⟨fun g hg hplace => hnone ?_, ih⟩
      have hgoes := SkillFunction.goesBy_view_iff.mpr hplace.symm
      exact List.any_eq_true.mpr ⟨g, (left_sublist rest).subset hg, hgoes⟩

theorem mem_left_cons {f g : SkillFunction W} {rest : List (SkillFunction W)} :
    f ∈ left (g :: rest) ↔ f ∈ left rest ∨
      f = g ∧ rest.reverse.find? (·.goesBy (some g.view.collection) g.view.name) = none := by
  have hnone : rest.reverse.find? (·.goesBy (some g.view.collection) g.view.name) = none ↔
      ¬ rest.any (·.goesBy (some g.view.collection) g.view.name) = true := by
    simp only [List.find?_eq_none, List.mem_reverse, List.any_eq_true, not_exists, not_and]
  rw [hnone, left]
  split
  · rename_i hlater
    exact ⟨.inl, fun h => h.resolve_right fun h => h.2 hlater⟩
  · rename_i hlast
    rw [List.mem_cons, or_comm, and_iff_left hlast]

/-- A function is left when it is the last one that goes by its collection and name. -/
theorem mem_left {fs : List (SkillFunction W)} {f : SkillFunction W} :
    f ∈ left fs ↔ fs.reverse.find? (·.goesBy (some f.view.collection) f.view.name) = some f := by
  induction fs with
  | nil => simp [left]
  | cons g rest ih =>
    rw [mem_left_cons, ih, List.reverse_cons, List.find?_append, Option.or_eq_some_iff]
    refine or_congr Iff.rfl ⟨?_, fun ⟨hnone, hg⟩ => ?_⟩
    · rintro ⟨rfl, hnone⟩
      have hself : f.goesBy (some f.view.collection) f.view.name = true :=
        SkillFunction.goesBy_view_iff.mpr rfl
      exact ⟨hnone, by rw [List.find?_singleton, if_pos hself]⟩
    · obtain rfl := List.mem_singleton.mp (List.mem_of_find?_eq_some hg)
      exact ⟨rfl, hnone⟩

/-- No two functions of a registry have one place. -/
theorem Filed.pairwise_toList {r : Registry W} (h : r.Filed) :
    r.toList.Pairwise fun f g => f.place ≠ g.place := by
  rw [toList, List.pairwise_flatMap]
  refine ⟨fun shelf hshelf => ?_, ?_⟩
  · -- on one shelf the names differ
    have hnames := List.pairwise_map.mp (h.names shelf hshelf)
    rw [List.pairwise_map]
    refine hnames.imp_of_mem fun {e e'} he he' hne hplace => hne ?_
    rw [(h.places shelf hshelf e he).2, (h.places shelf hshelf e' he').2]
    exact congrArg Prod.snd hplace
  · refine (List.pairwise_map.mp h.shelves).imp_of_mem ?_
    intro shelf shelf' hshelf hshelf' hne f hf g hg hplace
    obtain ⟨e, he, rfl⟩ := List.mem_map.mp hf
    obtain ⟨e', he', rfl⟩ := List.mem_map.mp hg
    apply hne
    rw [(h.places shelf hshelf e he).1, (h.places shelf' hshelf' e' he').1]
    exact congrArg Prod.fst hplace

/-- A registry holds the functions that are left, each once. -/
theorem toList_perm_left (fs : List (SkillFunction W)) : (ofList fs).toList.Perm (left fs) := by
  have hfiled : (ofList fs).Filed := .ofList fs
  have hnodup : ∀ gs : List (SkillFunction W), (gs.Pairwise fun f g => f.place ≠ g.place) →
      gs.Nodup := fun gs h => h.imp fun hne heq => hne (congrArg _ heq)
  rw [List.perm_ext_iff_of_nodup (hnodup _ hfiled.pairwise_toList) (hnodup _ (pairwise_left fs))]
  intro f
  have hfound := resolve?_ofList fs (some f.view.collection) f.view.name
  rw [mem_left, ← hfound]
  exact ⟨hfiled.get?_of_mem, mem_toList_of_get?⟩

/-! ## What is listed -/

/-- The views of functions with different places are different. -/
theorem nodup_views {fs : List (SkillFunction W)}
    (h : fs.Pairwise fun f g => f.place ≠ g.place) : (fs.map (·.view)).Nodup := by
  refine List.pairwise_map.mpr (h.imp fun hne heq => hne ?_)
  rw [SkillFunction.place, SkillFunction.place, heq]

theorem listing_perm (fs : List (SkillFunction W)) :
    (ofList fs).listing.toList.Perm ((left fs).map (·.view)) :=
  (FunctionListing.toList_ofViews_perm _).trans ((toList_perm_left fs).map _)

/-- After functions were filed in turn in an empty registry, a collection and a name lead to the last
    of them that goes by both, or to none. The listing has the views of the functions in whose place
    none was filed later, each of them once; there are as many as the registry counts, and the
    collection and the name of each lead to a function with this view. -/
theorem listing_agrees (fs : List (SkillFunction W)) :
    let r := ofList fs
    (∀ collection name,
      r.resolve? collection name = fs.reverse.find? (·.goesBy collection name)) ∧
      r.listing.toList.Perm ((left fs).map (·.view)) ∧ r.listing.toList.Nodup ∧
      r.listing.size = r.size ∧
      ∀ v ∈ r.listing.toList, ∃ f, r.resolve? (some v.collection) v.name = some f ∧ f.view = v := by
  intro r
  have hperm := listing_perm fs
  refine ⟨resolve?_ofList fs, hperm, ?_, ?_, fun v hv => ?_⟩
  · exact hperm.nodup_iff.mpr (nodup_views (pairwise_left fs))
  · rw [FunctionListing.size, hperm.length_eq, List.length_map, size, (toList_perm_left fs).length_eq]
  · obtain ⟨f, hf, rfl⟩ := List.mem_map.mp (hperm.mem_iff.mp hv)
    exact ⟨f, (resolve?_ofList fs _ _).trans (mem_left.mp hf), rfl⟩

/-- A semantic function that replaces a native one in another case, which was given no collection, and
    one of this name in a collection of its own. -/
theorem listing_agrees_replaced :
    let f : SkillFunction Machine := .ofText { collection := "", name := "Sum" } fun _ => "1"
    let g : SkillFunction Machine := .ofText { collection := "Sum", name := "Sum" } fun _ => "2"
    let h : SkillFunction Machine :=
      .ofText { collection := "_global_FUNCTIONS_", name := "SUM", isSemantic := true } fun _ => "3"
    let r := ofList [f, g, h]
    (r.resolve? none "sum").map (·.view) = some h.view ∧ r.listing.toList.Perm [g.view, h.view] ∧
      r.size = 2 ∧ h.view ∈ r.listing.toList ∧
      ∃ k, r.resolve? (some h.view.collection) h.view.name = some k ∧ k.view = h.view := by
  intro f g h r
  obtain ⟨hresolve, hperm, -, hsize, hfound⟩ := listing_agrees [f, g, h]
  have hleft : (left [f, g, h]).map (·.view) = [g.view, h.view] := by decide +kernel
  rw [hleft] at hperm
  have hmem : h.view ∈ r.listing.toList := hperm.mem_iff.mpr (by simp)
  refine ⟨?_, hperm, hsize.symm.trans hperm.length_eq, hmem, hfound _ hmem⟩
  rw [hresolve]
  decide +kernel

end Registry

end SkillPlan

import SkillPlan.Proofs.Planner.Catalog
import SkillPlan.Proofs.Registry.History

/-!
# Which functions the catalog lists

The catalog is a block of lines for each function that it lists, one block below the other. Every
function that was filed and not replaced is listed, and listed once, unless its own collection or its
name is kept back: `catalog_lists_each`. Excluding a collection hides the functions that give this
collection as theirs, but not those that are in the global one because they give none:
`offered_in_excluded_iff`.
-/

namespace SkillPlan

open Text (fold)

variable {W : Type}

/-! ## The order of views -/

/-- Some views, those of one collection together, the collections in the order in which they first
    come up. -/
def byCollection (vs : List FunctionView) : List FunctionView :=
  (vs.map (·.collection)).eraseDups.flatMap fun c => vs.filter (·.collection == c)

theorem views_addAll_nil (vs : List FunctionView) :
    (FunctionGroups.addAll vs []).views = byCollection vs := by
  rw [FunctionGroups.addAll_nil, FunctionGroups.views, List.flatMap_map]
  rfl

theorem byCollection_perm (vs : List FunctionView) : (byCollection vs).Perm vs := by
  rw [← views_addAll_nil]
  exact (FunctionGroups.views_addAll_perm vs []).trans (.of_eq (List.append_nil vs))

namespace Planner

variable {o : Options}

/-! ## Views that are offered -/

/-- Where no two views are of one function, each is the first of its function. -/
theorem firstOfEach_eq_self {vs : List FunctionView}
    (h : vs.Pairwise fun u v => sameFunction u v = false) : firstOfEach vs = vs := by
  have hfold : ∀ seen : List FunctionView,
      (seen ++ vs).Pairwise (fun u v => sameFunction u v = false) →
      vs.foldl (fun seen v => if seen.any (sameFunction · v) then seen else seen ++ [v]) seen =
        seen ++ vs := by
    clear h
    induction vs with
    | nil => exact fun seen _ => (List.append_nil seen).symm
    | cons v rest ih =>
      intro seen hseen
      have hnew : seen.any (sameFunction · v) = false := by
        refine List.any_eq_false.mpr fun u hu => ?_
        simp [(List.pairwise_append.mp hseen).2.2 u hu v List.mem_cons_self]
      have hnext : ((seen ++ [v]) ++ rest).Pairwise fun u v => sameFunction u v = false := by
        rwa [List.append_assoc]
      rw [List.foldl_cons, hnew, if_neg Bool.false_ne_true, ih _ hnext, List.append_assoc]
      rfl
  exact hfold [] h

/-- The views that are listed of the functions of a registry: native ones before semantic ones, and
    of each sort those of one collection together, without those that are kept back. -/
def listed (o : Options) (r : Registry W) : List FunctionView :=
  let vs := r.toList.map (·.view)
  (byCollection (vs.filter (!·.isSemantic)) ++ byCollection (vs.filter (·.isSemantic))).filter
    (!o.keepsBack ·)

theorem listed_perm (o : Options) (r : Registry W) :
    (listed o r).Perm ((r.toList.map (·.view)).filter (!o.keepsBack ·)) := by
  refine List.Perm.filter _ (((byCollection_perm _).append (byCollection_perm _)).trans ?_)
  exact List.perm_append_comm.trans (List.filter_append_perm FunctionView.isSemantic _)

/-- The places of functions differ in the collection or in the name, so no view is taken for that of
    another function. -/
theorem pairwise_listed {r : Registry W} (h : r.Filed) (o : Options) :
    (listed o r).Pairwise fun u v => sameFunction u v = false := by
  have hsymm : ∀ {u v : FunctionView}, sameFunction u v = false → sameFunction v u = false := by
    intro u v huv
    rw [Bool.eq_false_iff] at huv ⊢
    simp only [ne_eq, sameFunction, Bool.and_eq_true, Text.sameName_iff] at huv ⊢
    exact fun h => huv ⟨h.1.symm, h.2.symm⟩
  refine ((listed_perm o r).pairwise_iff hsymm).mpr (List.Pairwise.filter _ ?_)
  refine List.pairwise_map.mpr (h.pairwise_toList.imp fun {f g} hne => ?_)
  rw [Bool.eq_false_iff]
  intro hsame
  rw [sameFunction, Bool.and_eq_true, Text.sameName_iff, Text.sameName_iff] at hsame
  exact hne (Prod.ext (Registry.shelfKey_congr hsame.1) hsame.2)

/-- What is offered of a registry is what is listed: no function is taken for a repeated one. -/
theorem offered_listing {r : Registry W} (h : r.Filed) (o : Options) :
    offered o r.listing = listed o r := by
  have hgrouped : r.listing.Grouped := FunctionListing.grouped_ofViews _
  have hamong : offeredAmong o r.listing.native ++ offeredAmong o r.listing.semantic =
      listed o r := by
    rw [offeredAmong_eq hgrouped.native, offeredAmong_eq hgrouped.semantic, Registry.listing,
      FunctionListing.ofViews_eq, views_addAll_nil, views_addAll_nil, ← List.filter_append]
    rfl
  rw [offered, hamong, firstOfEach_eq_self (pairwise_listed h o)]

/-! ## Blocks -/

/-- The line of a parameter, without the break at its end. -/
def parameterText (p : ParameterView) : String :=
  "Parameter \"" ++ p.name ++ "\": " ++
    withPeriod (if p.description = "" then p.name else p.description)

/-- The block of a function: what it does, its identifier and its parameters, each on lines of its
    own. -/
def block (v : FunctionView) : String :=
  "\n".intercalate (("// " ++ withPeriod v.description) :: v.qualifiedName ::
    if v.parameters.isEmpty then ["No parameters."] else v.parameters.map parameterText)

/-- Lines with a break at the end of each are lines with breaks between them and one at the end. -/
theorem join_lines {lines : List String} (hne : lines ≠ []) :
    String.join (lines.map (· ++ "\n")) = "\n".intercalate lines ++ "\n" := by
  induction lines with
  | nil => exact absurd rfl hne
  | cons line rest ih =>
    cases rest with
    | nil => simp
    | cons next rest =>
      rw [List.map_cons, String.join_cons, ih (List.cons_ne_nil _ _),
        String.intercalate_cons_cons, String.append_assoc, String.append_assoc, String.append_assoc]

theorem entry_eq_block (v : FunctionView) : entry v = block v ++ "\n" := by
  have hparameters : (if v.parameters.isEmpty then "No parameters.\n"
      else String.join (v.parameters.map parameterLine)) =
      String.join ((if v.parameters.isEmpty then ["No parameters."]
        else v.parameters.map parameterText).map (· ++ "\n")) := by
    split
    · simp
    · rw [List.map_map]
      rfl
  rw [block, ← join_lines (List.cons_ne_nil _ _), entry, hparameters, List.map_cons, List.map_cons,
    String.join_cons, String.join_cons]
  simp only [String.append_assoc]

theorem join_blocks (vs : List FunctionView) :
    String.join (vs.map entry) = String.join ((vs.map block).map (· ++ "\n")) := by
  rw [List.map_map]
  exact congrArg String.join (List.map_congr_left fun v _ => entry_eq_block v)

/-- The catalog is the blocks of the views that are offered, each below the one before it. Taking off
    the line breaks at the end takes off the one behind the last block. -/
theorem catalog_eq_intercalate (o : Options) (l : FunctionListing) :
    catalog o l = "\n".intercalate ((offered o l).map block) := by
  by_cases hnone : offered o l = []
  · rw [catalog, hnone]
    rfl
  · have hblocks : (offered o l).map block ≠ [] := by simpa using hnone
    have hbreak := catalog_append_break hnone
    rw [join_blocks, join_lines hblocks] at hbreak
    exact (String.append_left_inj _).mp hbreak

/-! ## What is listed and what is hidden -/

theorem Options.keepsBack_eq_false_iff {v : FunctionView} :
    o.keepsBack v = false ↔ fold v.collection ≠ ownCollection ∧
      (∀ c ∈ o.excludedCollections, fold c ≠ fold v.collection) ∧
      ∀ n ∈ o.excludedFunctions, fold n ≠ fold v.name := by
  have hown : fold ownCollection = ownCollection := by decide
  have hthis : Text.sameName v.collection ownCollection = false ↔
      fold v.collection ≠ ownCollection := by
    rw [Bool.eq_false_iff, ne_eq, Text.sameName_iff, hown]
  rw [keepsBack, excludesCollection, excludesFunction, Bool.or_eq_false_iff, Bool.or_eq_false_iff,
    hthis, and_assoc]
  simp only [List.any_eq_false, Text.sameName_iff, ne_eq]

/-- The catalog of functions that were filed in turn is the blocks of the views that are listed, with
    one line break between a block and the next. The views listed are all different, and they are
    those of the functions in whose place none was filed later, but for the functions of the
    planner's own collection and those whose collection or name is excluded. -/
theorem catalog_lists_each (o : Options) (fs : List (SkillFunction W)) :
    let r := Registry.ofList fs
    catalog o r.listing = "\n".intercalate ((listed o r).map block) ∧ (listed o r).Nodup ∧
      ∀ v, v ∈ listed o r ↔ (∃ f ∈ Registry.left fs, f.view = v) ∧
        fold v.collection ≠ ownCollection ∧
        (∀ c ∈ o.excludedCollections, fold c ≠ fold v.collection) ∧
        ∀ n ∈ o.excludedFunctions, fold n ≠ fold v.name := by
  intro r
  have hfiled : r.Filed := .ofList fs
  have hperm := listed_perm o r
  refine ⟨?_, ?_, fun v => ?_⟩
  · rw [catalog_eq_intercalate, offered_listing hfiled]
  · exact hperm.nodup_iff.mpr ((Registry.nodup_views hfiled.pairwise_toList).filter _)
  · have hleft : v ∈ r.toList.map (·.view) ↔ ∃ f ∈ Registry.left fs, f.view = v := by
      rw [((Registry.toList_perm_left fs).map _).mem_iff, List.mem_map]
    rw [hperm.mem_iff, List.mem_filter, hleft, Bool.not_eq_true', Options.keepsBack_eq_false_iff]

/-- Functions of two collections in turn, one of them semantic, one excluded and one replaced, with
    descriptions that are empty or end in a period or in line breaks. -/
theorem catalog_lists_each_breaks :
    let skill (collection name description : String) (isSemantic : Bool) : SkillFunction Machine :=
      .ofText { collection, name, description, isSemantic } fun _ => ""
    let o : Options := { excludedFunctions := ["DROP"] }
    let r := Registry.ofList [skill "A" "one" "" true, skill "B" "two" "Ends.\n\n" false,
      skill "this" "own" "" false, skill "a" "ONE" "Done." false, skill "B" "drop" "" false,
      skill "B" "three\n" "" false]
    catalog o r.listing =
      "// Done.\na.ONE\nNo parameters.\n// Ends.\n\n.\nB.two\nNo parameters.\n// .\nB.three\n\nNo parameters." := by
  intro skill o r
  obtain ⟨hcatalog, -, -⟩ := catalog_lists_each o [skill "A" "one" "" true,
    skill "B" "two" "Ends.\n\n" false, skill "this" "own" "" false, skill "a" "ONE" "Done." false,
    skill "B" "drop" "" false, skill "B" "three\n" "" false]
  rw [hcatalog]
  decide +kernel

/-- A function that is found in an excluded collection is offered exactly if it was given no
    collection, and then only if functions without one are not excluded in their own right and its
    name is not excluded. Functions without a collection are in the global one, but the options are
    asked about the collection that a function gives. -/
theorem offered_in_excluded_iff (fs : List (SkillFunction W)) {o : Options} {c name : String}
    (hexcluded : c ∈ o.excludedCollections) (hgiven : c ≠ "") {f : SkillFunction W}
    (hfound : (Registry.ofList fs).resolve? (some c) name = some f) :
    let r := Registry.ofList fs
    catalog o r.listing = "\n".intercalate ((offered o r.listing).map block) ∧
      (f.view ∈ offered o r.listing ↔ f.view.collection = "" ∧ "" ∉ o.excludedCollections ∧
        ∀ n ∈ o.excludedFunctions, fold n ≠ fold f.view.name) ∧
      (f.view.collection = "" → fold c = fold globalCollection) := by
  intro r
  have hfiled : r.Filed := .ofList fs
  have hf : f ∈ r.toList := Registry.mem_toList_of_get? hfound
  have hshelf : Registry.shelfKey c = Registry.shelfKey f.view.collection := by
    rw [Registry.resolve?_ofList] at hfound
    have hplace := SkillFunction.goesBy_iff.mp (List.find?_some hfound)
    exact (congrArg Prod.fst hplace).symm
  rw [Registry.shelfKey, if_neg hgiven, Registry.shelfKey] at hshelf
  refine ⟨catalog_eq_intercalate o _, ?_, fun hnone => by rwa [if_pos hnone] at hshelf⟩
  rw [mem_offered_listing hfiled o hf, Options.keepsBack_eq_false_iff]
  by_cases hnone : f.view.collection = ""
  · have hown : fold "" ≠ ownCollection := by decide
    have hempty : (∀ c ∈ o.excludedCollections, fold c ≠ fold "") ↔ "" ∉ o.excludedCollections :=
      ⟨fun h hmem => h "" hmem rfl, fun h c hc heq => h (Text.fold_eq_empty_iff.mp heq ▸ hc)⟩
    rw [hnone, hempty]
    exact ⟨fun h => ⟨rfl, h.2⟩, fun h => ⟨hown, h.2⟩⟩
  · rw [if_neg hnone] at hshelf
    exact ⟨fun h => absurd hshelf (h.2.1 c hexcluded), fun h => absurd h.1 hnone⟩

/-- A function that gives the excluded collection in another case is not offered, although one of its
    name without a collection is. -/
theorem offered_in_excluded_iff_cased :
    let f : SkillFunction Machine := .ofText { collection := "Math", name := "Add" } fun _ => "1"
    let g : SkillFunction Machine := .ofText { collection := "", name := "Add" } fun _ => "2"
    let o : Options := { excludedCollections := ["MATH"] }
    let r := Registry.ofList [f, g]
    "MATH" ∈ o.excludedCollections ∧ r.resolve? (some "MATH") "ADD" = some f ∧
      f.view ∉ offered o r.listing ∧ catalog o r.listing = "// .\n.Add\nNo parameters." := by
  intro f g o r
  have hexcluded : "MATH" ∈ o.excludedCollections := List.mem_cons_self
  have hfound : r.resolve? (some "MATH") "ADD" = some f :=
    (Registry.get?_add _ _ _ _).trans <| (if_neg (by decide +kernel)).trans <|
      (Registry.get?_add _ _ _ _).trans (if_pos (by decide +kernel))
  obtain ⟨hcatalog, hoffered, -⟩ := offered_in_excluded_iff [f, g] hexcluded (by decide) hfound
  refine ⟨hexcluded, hfound, fun h => absurd (hoffered.mp h).1 (by decide), ?_⟩
  rw [hcatalog]
  decide +kernel

/-- The global collection is excluded, and yet a function that is found in it is offered. -/
theorem offered_although_excluded :
    let f : SkillFunction Machine := .ofText { collection := "", name := "Riddle" } fun _ => "?"
    let o : Options := { excludedCollections := [ownCollection, globalCollection] }
    let r := Registry.ofList [f]
    globalCollection ∈ o.excludedCollections ∧ globalCollection ≠ "" ∧
      r.resolve? (some globalCollection) "Riddle" = some f ∧ f.view ∈ offered o r.listing ∧
      catalog o r.listing = "// .\n.Riddle\nNo parameters." := by
  intro f o r
  have hfound : r.resolve? (some globalCollection) "Riddle" = some f :=
    (Registry.get?_add _ _ _ _).trans (if_pos (by decide +kernel))
  exact ⟨by decide, by decide, hfound, by decide +kernel, by decide +kernel⟩

end Planner

end SkillPlan

import Mathlib.Data.List.DropRight
import SkillPlan.Machine
import SkillPlan.Planner.Choice
import SkillPlan.Proofs.Registry

/-!
# What the catalog lists

The catalog of a registry has an entry for each of its functions that is not kept back. An entry
holds the identifier of its function on lines of its own, and an answer that gives this identifier
chooses the function.
-/

namespace SkillPlan

open Text (fold)

variable {W : Type}

/-! ## Groups of views -/

namespace FunctionGroups

variable {gs : FunctionGroups} {v w : FunctionView}

/-- Every view stands in the group of its collection. -/
def Grouped (gs : FunctionGroups) : Prop := ∀ g ∈ gs, ∀ v ∈ g.2, v.collection = g.1

theorem mem_views : w ∈ gs.views ↔ ∃ g ∈ gs, w ∈ g.2 := List.mem_flatMap

theorem mem_views_add : w ∈ (gs.add v).views ↔ w ∈ gs.views ∨ w = v := by
  simp only [mem_views]
  induction gs with
  | nil => simp [add]
  | cons g rest ih =>
    obtain ⟨c, vs⟩ := g
    unfold add
    split
    · simp only [List.mem_cons, List.mem_append, exists_eq_or_imp, List.not_mem_nil, or_false]
      rw [or_right_comm]
    · simp only [List.mem_cons, exists_eq_or_imp, ih, or_assoc]

theorem Grouped.add (h : gs.Grouped) (v : FunctionView) : Grouped (gs.add v) := by
  induction gs with
  | nil =>
    intro g hg w hw
    obtain rfl := List.mem_singleton.mp hg
    rw [List.mem_singleton.mp hw]
  | cons first rest ih =>
    obtain ⟨c, vs⟩ := first
    obtain ⟨hfirst, hrest⟩ := List.forall_mem_cons.mp h
    unfold FunctionGroups.add
    split
    · rename_i hc
      refine List.forall_mem_cons.mpr ⟨fun w hw => ?_, hrest⟩
      obtain hw | hw := List.mem_append.mp hw
      · exact hfirst w hw
      · rw [List.mem_singleton.mp hw, ← hc]
    · exact List.forall_mem_cons.mpr ⟨hfirst, ih hrest⟩

end FunctionGroups

namespace FunctionListing

variable {l : FunctionListing} {v w : FunctionView}

/-- Every view stands in the group of its collection, among the functions of its sort. -/
structure Grouped (l : FunctionListing) : Prop where
  native : l.native.Grouped
  semantic : l.semantic.Grouped

theorem mem_toList : w ∈ l.toList ↔ w ∈ l.native.views ∨ w ∈ l.semantic.views := by
  rw [toList, List.mem_append, or_comm]

theorem mem_toList_add : w ∈ (l.add v).toList ↔ w ∈ l.toList ∨ w = v := by
  unfold add
  split
  · simp only [mem_toList, FunctionGroups.mem_views_add, or_assoc]
  · simp only [mem_toList, FunctionGroups.mem_views_add]
    rw [or_right_comm]

theorem Grouped.add (h : l.Grouped) (v : FunctionView) : (l.add v).Grouped := by
  unfold FunctionListing.add
  split
  · exact ⟨h.native, h.semantic.add v⟩
  · exact ⟨h.native.add v, h.semantic⟩

theorem grouped_ofViews (vs : List FunctionView) : (ofViews vs).Grouped := by
  have hfold : ∀ l : FunctionListing, l.Grouped → (vs.foldl FunctionListing.add l).Grouped := by
    induction vs with
    | nil => exact fun l hl => hl
    | cons v rest ih => exact fun l hl => ih _ (hl.add v)
  exact hfold {} ⟨nofun, nofun⟩

/-- A listing of some views lists these and no others. -/
theorem mem_ofViews {vs : List FunctionView} : w ∈ (ofViews vs).toList ↔ w ∈ vs := by
  have hfold : ∀ l : FunctionListing,
      w ∈ (vs.foldl FunctionListing.add l).toList ↔ w ∈ l.toList ∨ w ∈ vs := by
    induction vs with
    | nil => simp
    | cons v rest ih =>
      intro l
      rw [List.foldl_cons, ih, mem_toList_add, List.mem_cons, or_assoc]
  have hnone : w ∉ ({} : FunctionListing).toList := List.not_mem_nil
  rw [ofViews, hfold, or_iff_right hnone]

end FunctionListing

/-! ## Texts -/

namespace Text

/-- Nothing is taken off a text that white space neither begins nor ends. -/
theorem trim_eq_self {s : String} (hstart : ∀ c ∈ s.toList.head?, isBlank c = false)
    (hend : ∀ c ∈ s.toList.getLast?, isBlank c = false) : trim s = s := by
  have htrimStart : trimStart s.toList = s.toList := by
    cases hs : s.toList with
    | nil => rfl
    | cons c cs =>
      rw [hs] at hstart
      exact List.dropWhile_cons_of_neg (by simp [hstart c rfl])
  have htrimEnd : trimEnd s.toList = s.toList := by
    refine List.rdropWhile_eq_self_iff.mpr fun hne => ?_
    rw [hend _ (List.getLast?_eq_getLast_of_ne_nil hne)]
    exact Bool.false_ne_true
  rw [trim, htrimStart, htrimEnd, String.ofList_toList]

theorem splitOnce?_append {sep : Char} {cs : List Char} (h : sep ∉ cs) (rest : List Char) :
    splitOnce? sep (cs ++ sep :: rest) = some (cs, rest) := by
  induction cs with
  | nil => simp [splitOnce?]
  | cons c cs ih =>
    rw [List.mem_cons, not_or] at h
    rw [List.cons_append, splitOnce?, if_neg (Ne.symm h.1), ih h.2, Option.map_some]

end Text

namespace Planner

/-! ## Views that are offered -/

/-- A function is kept back by its own collection or its name. -/
def Options.keepsBack (o : Options) (v : FunctionView) : Bool :=
  o.excludesCollection v.collection || o.excludesFunction v.name

/-- What is offered among some groups is what is not kept back, in the order of the groups. -/
theorem offeredAmong_eq {o : Options} {gs : FunctionGroups} (h : gs.Grouped) :
    offeredAmong o gs = gs.views.filter (!o.keepsBack ·) := by
  induction gs with
  | nil => rfl
  | cons g rest ih =>
    obtain ⟨hg, hrest⟩ := List.forall_mem_cons.mp h
    have hkept : g.2.filter (!o.keepsBack ·) = if o.excludesCollection g.1 then []
        else g.2.filter (!o.excludesFunction ·.name) := by
      split
      · rename_i hexcluded
        refine List.filter_eq_nil_iff.mpr fun v hv => ?_
        simp [Options.keepsBack, hg v hv, hexcluded]
      · rename_i hincluded
        refine List.filter_congr fun v hv => ?_
        simp [Options.keepsBack, hg v hv, hincluded]
    rw [offeredAmong] at ih ⊢
    rw [FunctionGroups.views, List.flatMap_cons, List.filter_append, hkept, ← FunctionGroups.views,
      ← ih hrest, List.filter_cons]
    cases o.excludesCollection g.1 <;> rfl

theorem mem_offeredAmong {o : Options} {gs : FunctionGroups} (h : gs.Grouped) {v : FunctionView} :
    v ∈ offeredAmong o gs ↔ v ∈ gs.views ∧ o.keepsBack v = false := by
  rw [offeredAmong_eq h, List.mem_filter, Bool.not_eq_true']

/-- Where no two views are of the same function, none is left out. -/
theorem mem_firstOfEach {vs : List FunctionView} {v : FunctionView}
    (hdistinct : ∀ u ∈ vs, sameFunction u v = true → u = v) : v ∈ firstOfEach vs ↔ v ∈ vs := by
  have hfold : ∀ seen : List FunctionView, (∀ u ∈ seen, sameFunction u v = true → u = v) →
      (v ∈ vs.foldl (fun seen v => if seen.any (sameFunction · v) then seen else seen ++ [v]) seen ↔
        v ∈ seen ∨ v ∈ vs) := by
    induction vs with
    | nil => simp
    | cons u rest ih =>
      obtain ⟨hu, hrest⟩ := List.forall_mem_cons.mp hdistinct
      intro seen hseen
      rw [List.foldl_cons, List.mem_cons]
      split
      · rename_i hany
        rw [ih hrest seen hseen]
        -- a function that is left out is there already
        refine ⟨fun h => h.imp_right .inr, fun h => ?_⟩
        obtain hv | rfl | hv := h
        · exact .inl hv
        · obtain ⟨t, ht, hsame⟩ := List.any_eq_true.mp hany
          exact .inl (hseen t ht hsame ▸ ht)
        · exact .inr hv
      · have hseen' : ∀ t ∈ seen ++ [u], sameFunction t v = true → t = v :=
          List.forall_mem_append.mpr ⟨hseen, List.forall_mem_singleton.mpr hu⟩
        rw [ih hrest _ hseen', List.mem_append, List.mem_singleton, or_assoc]
  exact (hfold [] (by simp)).trans (by simp)

theorem mem_offered {o : Options} {l : FunctionListing} (hgrouped : l.Grouped) {v : FunctionView}
    (hdistinct : ∀ u ∈ l.toList, sameFunction u v = true → u = v) :
    v ∈ offered o l ↔ v ∈ l.toList ∧ o.keepsBack v = false := by
  have hmem : ∀ u, u ∈ offeredAmong o l.native ++ offeredAmong o l.semantic ↔
      u ∈ l.toList ∧ o.keepsBack u = false := by
    intro u
    rw [List.mem_append, mem_offeredAmong hgrouped.native, mem_offeredAmong hgrouped.semantic,
      FunctionListing.mem_toList, or_and_right]
  rw [offered, mem_firstOfEach fun u hu => hdistinct u ((hmem u).mp hu).1, hmem]

/-- Of the functions that a registry holds, those are offered that are not kept back. -/
theorem mem_offered_listing {r : Registry W} (h : r.Filed) (o : Options) {f : SkillFunction W}
    (hf : f ∈ r.toList) : f.view ∈ offered o r.listing ↔ o.keepsBack f.view = false := by
  have hmem : ∀ u, u ∈ r.listing.toList ↔ ∃ g ∈ r.toList, g.view = u := fun u => by
    rw [Registry.listing, FunctionListing.mem_ofViews, List.mem_map]
  have hdistinct : ∀ u ∈ r.listing.toList, sameFunction u f.view = true → u = f.view := by
    intro u hu hsame
    obtain ⟨g, hg, rfl⟩ := (hmem u).mp hu
    rw [sameFunction, Bool.and_eq_true, Text.sameName_iff, Text.sameName_iff] at hsame
    rw [h.eq_of_sameName hg hf hsame.1 hsame.2]
  have hgrouped : r.listing.Grouped := FunctionListing.grouped_ofViews _
  rw [mem_offered hgrouped hdistinct]
  exact and_iff_right ((hmem _).mpr ⟨f, hf, rfl⟩)

/-! ## Entries -/

/-- The last line of the text ends with a period. -/
def EndsLine (text : String) : Prop := ∃ cs, text.toList = cs ++ ['.', '\n']

theorem EndsLine.append {text : String} (h : EndsLine text) (before : String) :
    EndsLine (before ++ text) := by
  obtain ⟨cs, hcs⟩ := h
  exact ⟨before.toList ++ cs, by rw [String.toList_append, hcs, List.append_assoc]⟩

theorem EndsLine.join {texts : List String} (hne : texts ≠ [])
    (h : ∀ text ∈ texts, EndsLine text) : EndsLine (String.join texts) := by
  obtain ⟨before, last, rfl⟩ := List.eq_nil_or_concat' texts |>.resolve_left hne
  rw [String.join_append, String.join_cons, String.join_nil, String.append_empty]
  exact (h last (List.mem_append_right _ List.mem_cons_self)).append _

theorem endsLine_withPeriod (text : String) : EndsLine (withPeriod text ++ "\n") := by
  obtain ⟨cs, hcs⟩ : ∃ cs, (withPeriod text).toList = cs ++ ['.'] := by
    unfold withPeriod
    split
    · rename_i hlast
      exact List.getLast?_eq_some_iff.mp hlast
    · exact ⟨text.toList, String.toList_append⟩
  exact ⟨cs, by rw [String.toList_append, hcs, List.append_assoc]; rfl⟩

theorem endsLine_parameterLine (p : ParameterView) : EndsLine (parameterLine p) := by
  rw [parameterLine, String.append_assoc]
  exact (endsLine_withPeriod _).append _

/-- What follows the identifier in the entry of a function. -/
def parameterLines (v : FunctionView) : String :=
  if v.parameters.isEmpty then "No parameters.\n" else String.join (v.parameters.map parameterLine)

theorem endsLine_parameterLines (v : FunctionView) : EndsLine (parameterLines v) := by
  unfold parameterLines
  split
  · exact ⟨"No parameters".toList, by decide⟩
  · rename_i hne
    refine EndsLine.join (by simpa using hne) fun text htext => ?_
    obtain ⟨p, -, rfl⟩ := List.mem_map.mp htext
    exact endsLine_parameterLine p

theorem endsLine_entry (v : FunctionView) : EndsLine (entry v) :=
  (endsLine_parameterLines v).append _

/-- The catalog is one entry after the other, without the line break at the end. -/
theorem catalog_append_break {o : Options} {l : FunctionListing} (h : offered o l ≠ []) :
    catalog o l ++ "\n" = String.join ((offered o l).map entry) := by
  obtain ⟨cs, hcs⟩ : EndsLine (String.join ((offered o l).map entry)) := by
    refine EndsLine.join (by simpa using h) fun text htext => ?_
    obtain ⟨v, -, rfl⟩ := List.mem_map.mp htext
    exact endsLine_entry v
  have hbreaks : (catalog o l).toList = cs ++ ['.'] := by
    rw [catalog, withoutFinalBreaks, String.toList_ofList, hcs]
    simp
  rw [← String.toList_inj, String.toList_append, hbreaks, hcs, List.append_assoc]
  rfl

/-- The identifier of a function that is offered stands in the catalog on lines of its own. -/
theorem identifier_infix_catalog {o : Options} {l : FunctionListing} {v : FunctionView}
    (hv : v ∈ offered o l) :
    ("\n" ++ v.qualifiedName ++ "\n").toList <:+: (catalog o l).toList := by
  obtain ⟨before, after, hoffered⟩ := List.append_of_mem hv
  have hcatalog := catalog_append_break (List.ne_nil_of_mem hv)
  -- the identifier is followed by the parameters, so the last line break is not its own
  have hlines : (parameterLines v).toList ≠ [] := by
    obtain ⟨cs, hcs⟩ := endsLine_parameterLines v
    simp [hcs]
  obtain ⟨heading, hentry⟩ : ∃ heading,
      entry v = heading ++ ("\n" ++ v.qualifiedName ++ "\n") ++ parameterLines v :=
    ⟨"// " ++ withPeriod v.description, by simp only [entry, parameterLines, String.append_assoc]⟩
  generalize "\n" ++ v.qualifiedName ++ "\n" = identifier at hentry ⊢
  rw [hoffered, List.map_append, List.map_cons, String.join_append, String.join_cons, hentry,
    ← String.toList_inj] at hcatalog
  simp only [String.toList_append, List.append_assoc] at hcatalog
  rw [← List.append_assoc, ← List.append_assoc] at hcatalog
  refine ⟨(String.join (before.map entry)).toList ++ heading.toList,
    ((parameterLines v).toList ++ (String.join (after.map entry)).toList).dropLast, ?_⟩
  rw [← List.dropLast_append_of_ne_nil (List.append_ne_nil_of_left_ne_nil hlines _), ← hcatalog]
  exact List.dropLast_concat

/-! ## Identifiers -/

/-- An identifier whose collection has no point in it is cut where it was put together, if white
    space does not begin or end it. -/
theorem functionParts?_qualifiedName {v : FunctionView} (hpoint : '.' ∉ v.collection.toList)
    (hstart : ∀ c ∈ v.collection.toList.head?, Text.isBlank c = false)
    (hend : ∀ c ∈ v.name.toList.getLast?, Text.isBlank c = false) :
    Answer.functionParts? v.qualifiedName = some (some v.collection, v.name) := by
  have htext : v.qualifiedName.toList = v.collection.toList ++ '.' :: v.name.toList := by
    simp [FunctionView.qualifiedName]
  have htrim : Text.trim v.qualifiedName = v.qualifiedName := by
    refine Text.trim_eq_self (fun c hc => ?_) fun c hc => ?_
    · rw [htext, List.head?_append] at hc
      cases hfirst : v.collection.toList.head? with
      | none =>
        obtain rfl : '.' = c := by simpa [hfirst] using hc
        decide
      | some first => exact hstart c (by simpa [hfirst] using hc)
    · rw [htext, List.getLast?_append, List.getLast?_cons] at hc
      cases hlast : v.name.toList.getLast? with
      | none =>
        obtain rfl : '.' = c := by simpa [hlast] using hc
        decide
      | some last => exact hend c (by simpa [hlast] using hc)
  have hne : v.qualifiedName ≠ "" := by
    rw [ne_eq, ← String.toList_inj, htext]
    simp
  simp only [Answer.functionParts?, htrim, hne, htext, Text.splitOnce?_append hpoint,
    String.ofList_toList, ↓reduceIte]

/-- The identifier under which the catalog lists a function, in an answer, chooses this function,
    unless the collection has a point in it or white space begins or ends the identifier. -/
theorem identifier_resolves (fs : List (SkillFunction W)) {f : SkillFunction W}
    (hf : f ∈ (Registry.ofList fs).toList) (hpoint : '.' ∉ f.view.collection.toList)
    (hstart : ∀ c ∈ f.view.collection.toList.head?, Text.isBlank c = false)
    (hend : ∀ c ∈ f.view.name.toList.getLast?, Text.isBlank c = false) :
    let r := Registry.ofList fs
    (∀ o : Options, o.keepsBack f.view = false →
      ("\n" ++ f.view.qualifiedName ++ "\n").toList <:+: (catalog o r.listing).toList) ∧
      Answer.functionParts? f.view.qualifiedName = some (some f.view.collection, f.view.name) ∧
      r.resolve? (some f.view.collection) f.view.name = some f ∧
      ∀ rationale args,
        stepOf r ⟨rationale, f.view.qualifiedName, args⟩ = .ok (some (.ofFunction f)) := by
  intro r
  have hfiled : r.Filed := .ofList fs
  have hparts := functionParts?_qualifiedName hpoint hstart hend
  have hresolve : r.resolve? (some f.view.collection) f.view.name = some f := hfiled.get?_of_mem hf
  refine ⟨fun o hoffered => ?_, hparts, hresolve, fun rationale args => ?_⟩
  · exact identifier_infix_catalog ((mem_offered_listing hfiled o hf).mpr hoffered)
  · simp only [stepOf, hparts, Registry.resolve, hresolve]

/-- A function without a collection and with a point in its name, which was filed in the place of
    one of the global collection in another case. -/
theorem identifier_resolves_replaced :
    let f : SkillFunction Machine := .ofText { collection := "", name := "sum.total" } fun _ => "2"
    let g : SkillFunction Machine :=
      .ofText { collection := "_global_FUNCTIONS_", name := "Sum.Total" } fun _ => "1"
    let r := Registry.ofList [g, f]
    f ∈ r.toList ∧ "\n.sum.total\n".toList <:+: (catalog {} r.listing).toList ∧
      Answer.functionParts? ".sum.total" = some (some "", "sum.total") ∧
      r.resolve? (some "") "sum.total" = some f := by
  intro f g r
  have hfound : r.get? "" "sum.total" = some f :=
    (Registry.get?_add _ _ _ _).trans (if_pos (by decide +kernel))
  have hf : f ∈ r.toList := Registry.mem_toList_of_get? hfound
  have hend : ∀ c ∈ f.view.name.toList.getLast?, Text.isBlank c = false := by
    have hlast : f.view.name.toList.getLast? = some 'l' := by decide +kernel
    intro c hc
    rw [hlast] at hc
    cases hc
    decide +kernel
  obtain ⟨hlisted, hparts, hresolve, -⟩ := identifier_resolves [g, f] hf (by decide) nofun hend
  exact ⟨hf, hlisted {} (by decide +kernel), hparts, hresolve⟩

end Planner

end SkillPlan

import SkillPlan.Registry

/-!
# What a registry holds

Every function stands on the shelf of its own collection and under its own name, and no place is
taken twice. So each function that a registry holds is the one that is found under its collection
and name.
-/

namespace SkillPlan

open Text (fold)

variable {W : Type}

/-! ## Lists of pairs as maps -/

namespace Filing

variable {α : Type}

theorem lookup_of_mem {es : List (String × α)} (hdistinct : (es.map Prod.fst).Nodup)
    {e : String × α} (he : e ∈ es) : es.lookup e.1 = some e.2 := by
  induction es with
  | nil => cases he
  | cons first rest ih =>
    obtain ⟨hfirst, hrest⟩ := List.nodup_cons.mp hdistinct
    obtain rfl | he := List.mem_cons.mp he
    · exact List.lookup_cons_self
    · have hne : (e.1 == first.1) = false := by
        rw [beq_eq_false_iff_ne]
        exact fun h => hfirst (h ▸ List.mem_map_of_mem he)
      rw [List.lookup_cons, hne]
      exact ih hrest he

theorem mem_of_lookup {es : List (String × α)} {key : String} {value : α}
    (h : es.lookup key = some value) : (key, value) ∈ es := by
  obtain ⟨before, after, rfl, -⟩ := List.lookup_eq_some_iff.mp h
  exact List.mem_append_right _ List.mem_cons_self

end Filing

/-- A name is empty in every case or in none. -/
theorem Text.fold_eq_empty_iff {s : String} : fold s = "" ↔ s = "" := by
  rw [← String.toList_inj, ← String.toList_inj, toList_fold]
  exact List.map_eq_nil_iff

namespace Registry

/-! ## Shelves -/

/-- Whether a collection is given does not depend on the case of its letters. -/
theorem shelfKey_congr {c c' : String} (h : fold c = fold c') : shelfKey c = shelfKey c' := by
  have hiff : c = "" ↔ c' = "" := by rw [← Text.fold_eq_empty_iff, h, Text.fold_eq_empty_iff]
  unfold shelfKey
  by_cases hc : c = ""
  · rw [if_pos hc, if_pos (hiff.mp hc)]
  · rw [if_neg hc, if_neg fun hc' => hc (hiff.mpr hc'), h]

/-- Every function stands on the shelf of its collection and under its name, no shelf is there twice
    and on no shelf a name. -/
structure Filed (r : Registry W) : Prop where
  shelves : (r.shelves.map Prod.fst).Nodup
  names : ∀ shelf ∈ r.shelves, (shelf.2.map Prod.fst).Nodup
  places : ∀ shelf ∈ r.shelves, ∀ e ∈ shelf.2,
    shelf.1 = shelfKey e.2.view.collection ∧ e.1 = fold e.2.view.name

theorem mem_toList {r : Registry W} {f : SkillFunction W} :
    f ∈ r.toList ↔ ∃ shelf ∈ r.shelves, ∃ e ∈ shelf.2, e.2 = f := by
  simp only [toList, List.mem_flatMap, List.mem_map]

/-- What is found is held. -/
theorem mem_toList_of_get? {r : Registry W} {collection name : String} {f : SkillFunction W}
    (h : r.get? collection name = some f) : f ∈ r.toList := by
  obtain ⟨shelf, hshelf, hf⟩ := Option.bind_eq_some_iff.mp h
  exact mem_toList.mpr ⟨_, Filing.mem_of_lookup hshelf, _, Filing.mem_of_lookup hf, rfl⟩

namespace Filed

variable {r : Registry W}

theorem empty : (∅ : Registry W).Filed where
  shelves := List.nodup_nil
  names _ h := by cases h
  places _ h := by cases h

theorem add (h : r.Filed) (f : SkillFunction W) : (r.add f).Filed := by
  -- what was on the shelf of the function before, if it was there
  have hnames : (((r.shelves.lookup (shelfKey f.view.collection)).getD []).map Prod.fst).Nodup := by
    cases hshelf : r.shelves.lookup (shelfKey f.view.collection) with
    | none => exact List.nodup_nil
    | some shelf => exact h.names _ (Filing.mem_of_lookup hshelf)
  have hplaces : ∀ e ∈ (r.shelves.lookup (shelfKey f.view.collection)).getD [],
      shelfKey f.view.collection = shelfKey e.2.view.collection ∧ e.1 = fold e.2.view.name := by
    cases hshelf : r.shelves.lookup (shelfKey f.view.collection) with
    | none => exact fun e he => by cases he
    | some shelf => exact h.places _ (Filing.mem_of_lookup hshelf)
  refine ⟨Filing.nodup_keys_put h.shelves _ _, fun shelf hshelf => ?_, fun shelf hshelf e he => ?_⟩
  · obtain rfl | hold := Filing.mem_put hshelf
    · exact Filing.nodup_keys_put hnames _ _
    · exact h.names shelf hold
  · obtain rfl | hold := Filing.mem_put hshelf
    · obtain rfl | he := Filing.mem_put he
      · exact ⟨rfl, rfl⟩
      · exact hplaces e he
    · exact h.places shelf hold e he

theorem addAll (h : r.Filed) (fs : List (SkillFunction W)) : (r.addAll fs).Filed := by
  induction fs generalizing r with
  | nil => exact h
  | cons f rest ih => exact ih (h.add f)

/-- However functions were filed, each is in its place. -/
theorem ofList (fs : List (SkillFunction W)) : (Registry.ofList fs).Filed := empty.addAll fs

/-- A function that the registry holds is found under its own collection and name. -/
theorem get?_of_mem (h : r.Filed) {f : SkillFunction W} (hf : f ∈ r.toList) :
    r.get? f.view.collection f.view.name = some f := by
  obtain ⟨shelf, hshelf, e, he, rfl⟩ := mem_toList.mp hf
  obtain ⟨hkey, hname⟩ := h.places shelf hshelf e he
  rw [Registry.get?, ← hkey, ← hname, Filing.lookup_of_mem h.shelves hshelf, Option.bind_some,
    Filing.lookup_of_mem (h.names shelf hshelf) he]

/-- Two functions that the registry holds have different collections or different names. -/
theorem eq_of_sameName (h : r.Filed) {f g : SkillFunction W} (hf : f ∈ r.toList)
    (hg : g ∈ r.toList) (hcollection : fold f.view.collection = fold g.view.collection)
    (hname : fold f.view.name = fold g.view.name) : f = g := by
  have hfound : r.get? f.view.collection f.view.name = r.get? g.view.collection g.view.name := by
    rw [Registry.get?, Registry.get?, shelfKey_congr hcollection, hname]
  rw [h.get?_of_mem hf, h.get?_of_mem hg] at hfound
  exact Option.some.inj hfound

end Filed

end Registry

end SkillPlan

import SkillPlan.Bag

/-!
# Looking up in bags

What is found under a name after variables were written or merged, and bags that hold the same
values except under some names.
-/

namespace SkillPlan

open Text (fold)

theorem Pairs.put_of_not_mem {key : String} {es : List (String × String)} (h : fold key ∉ keys es)
    (value : String) : put key value es = es ++ [(key, value)] := by
  induction es with
  | nil => rfl
  | cons e rest ih =>
    obtain ⟨k, v⟩ := e
    rw [keys_cons, List.mem_cons, not_or] at h
    rw [put, if_neg (Ne.symm h.1), ih h.2, List.cons_append]

theorem Pairs.map_fst_put (key value : String) (es : List (String × String)) :
    (put key value es).map Prod.fst =
      if fold key ∈ keys es then es.map Prod.fst else es.map Prod.fst ++ [key] := by
  induction es with
  | nil => rfl
  | cons e rest ih =>
    obtain ⟨k, v⟩ := e
    by_cases hk : fold k = fold key
    · rw [put, if_pos hk, keys_cons, if_pos (hk ▸ List.mem_cons_self)]
      rfl
    · have hmem : fold key ∈ keys ((k, v) :: rest) ↔ fold key ∈ keys rest := by
        rw [keys_cons, List.mem_cons]
        exact or_iff_right (Ne.symm hk)
      rw [put, if_neg hk, List.map_cons, ih]
      simp only [hmem]
      split <;> rfl

/-- A pair that is there stays at its place when another name is written. -/
theorem Pairs.getElem?_put {key : String} {e : String × String} (he : fold e.1 ≠ fold key)
    (value : String) {es : List (String × String)} {i : Nat} (h : es[i]? = some e) :
    (put key value es)[i]? = some e := by
  induction es generalizing i with
  | nil => cases h
  | cons f rest ih =>
    obtain ⟨k, v⟩ := f
    rw [put]
    cases i with
    | zero =>
      obtain rfl := Option.some.inj h
      rw [if_neg he]
      rfl
    | succ i =>
      split
      · exact h
      · exact ih h

/-- A write puts no pair of another name there. -/
theorem Pairs.mem_of_mem_put {key value : String} {es : List (String × String)}
    {e : String × String} (he : fold e.1 ≠ fold key) (h : e ∈ put key value es) : e ∈ es := by
  induction es with
  | nil =>
    rw [List.mem_singleton.mp h] at he
    exact absurd rfl he
  | cons f rest ih =>
    obtain ⟨k, v⟩ := f
    rw [put] at h
    split at h
    · rename_i hk
      obtain rfl | h := List.mem_cons.mp h
      · exact absurd hk he
      · exact List.mem_cons_of_mem _ h
    · obtain rfl | h := List.mem_cons.mp h
      · exact List.mem_cons_self
      · exact List.mem_cons_of_mem _ (ih h)

/-- The last value that is written under a name stands there. -/
theorem Pairs.put_put (key value value' : String) (es : List (String × String)) :
    put key value' (put key value es) = put key value' es := by
  induction es with
  | nil => simp [put]
  | cons e rest ih =>
    obtain ⟨k, v⟩ := e
    by_cases hk : fold k = fold key
    · simp [put, hk]
    · simp [put, hk, ih]

/-- The pairs whose value is not empty, looked up. -/
theorem Pairs.find_filter_nonEmpty {es : List (String × String)} (hdistinct : (keys es).Nodup)
    (key : String) : find key (es.filter (·.2 ≠ "")) = (find key es).filter (· ≠ "") := by
  induction es with
  | nil => rfl
  | cons e rest ih =>
    obtain ⟨k, v⟩ := e
    obtain ⟨hk, hrest⟩ := List.nodup_cons.mp hdistinct
    have hfilter := ih hrest
    by_cases hkey : fold k = fold key
    · -- no other pair has the key
      have hnone : find key rest = none := by
        rw [find_eq_none_iff, ← hkey]
        exact hk
      rw [hnone, Option.filter_none] at hfilter
      by_cases hv : v = "" <;> simp [find, hkey, hv, Option.filter, ← hfilter]
    · by_cases hv : v = "" <;> simpa [find, hkey, hv] using hfilter

namespace Bag

/-- The names of the variables, folded. -/
def names (b : Bag) : List String := Pairs.keys b.entries

@[simp] theorem fold_inputKey : fold inputKey = inputKey := by decide

theorem isInput_iff {key : String} : isInput key = true ↔ fold key = inputKey := by
  rw [isInput, Text.sameName_iff, fold_inputKey]

theorem nonEmpty?_congr {b b' : Bag} {key : String} (h : b.get? key = b'.get? key) :
    b.nonEmpty? key = b'.nonEmpty? key :=
  congrArg (Option.filter _) h

theorem nonEmpty?_eq_some_iff {b : Bag} {key value : String} :
    b.nonEmpty? key = some value ↔ b.get? key = some value ∧ value ≠ "" := by
  rw [nonEmpty?, Option.filter_eq_some_iff, decide_eq_true_iff]

theorem nonEmpty?_of_get?_eq {b b' : Bag} {key : String} (h : b.get? key = b'.nonEmpty? key) :
    b.nonEmpty? key = b'.nonEmpty? key := by
  cases hvalue : b'.nonEmpty? key with
  | none => rw [nonEmpty?, h, hvalue, Option.filter_none]
  | some value =>
    exact nonEmpty?_eq_some_iff.mpr ⟨h.trans hvalue, (nonEmpty?_eq_some_iff.mp hvalue).2⟩

/-! ## Writing -/

theorem get?_withInput (b : Bag) (value key : String) :
    (b.withInput value).get? key = if fold key = inputKey then some value else b.get? key := by
  rw [withInput, get?_set, fold_inputKey]

@[simp] theorem input_withInput (b : Bag) (value : String) : (b.withInput value).input = value := by
  rw [input, get?_withInput, if_pos fold_inputKey, Option.getD_some]

theorem withInput_withInput (b : Bag) (value value' : String) :
    (b.withInput value).withInput value' = b.withInput value' :=
  ext (Pairs.put_put inputKey value value' b.entries)

theorem get?_inputKey (b : Bag) (key : String) (h : fold key = inputKey) :
    b.get? key = b.get? inputKey :=
  get?_congr (h.trans fold_inputKey.symm)

/-- The same value written under several names. -/
theorem get?_foldl_set (keys : List String) (value : String) (b : Bag) (key : String) :
    (keys.foldl (fun b k => b.set k value) b).get? key =
      if fold key ∈ keys.map fold then some value else b.get? key := by
  induction keys generalizing b with
  | nil => simp
  | cons k rest ih =>
    rw [List.foldl_cons, ih, get?_set, List.map_cons]
    by_cases hrest : fold key ∈ rest.map fold
    · rw [if_pos hrest, if_pos (List.mem_cons_of_mem _ hrest)]
    · rw [if_neg hrest]
      by_cases hk : fold key = fold k
      · rw [if_pos hk, if_pos (hk ▸ List.mem_cons_self)]
      · rw [if_neg hk, if_neg fun h => (List.mem_cons.mp h).elim hk hrest]

/-- Variables with new names are added at the end, in their order. -/
theorem foldl_set (pairs : List (String × String)) (b : Bag)
    (hdistinct : (Pairs.keys (b.entries ++ pairs)).Nodup) :
    pairs.foldl (fun b e => b.set e.1 e.2) b = ⟨b.entries ++ pairs, hdistinct⟩ := by
  induction pairs generalizing b with
  | nil => exact ext (List.append_nil _).symm
  | cons e rest ih =>
    obtain ⟨k, v⟩ := e
    have hfresh : fold k ∉ Pairs.keys b.entries := by
      rw [Pairs.keys, List.map_append, List.nodup_append] at hdistinct
      exact fun hmem => hdistinct.2.2 _ hmem _ List.mem_cons_self rfl
    have hentries : (b.set k v).entries = b.entries ++ [(k, v)] := Pairs.put_of_not_mem hfresh v
    have happend : (b.set k v).entries ++ rest = b.entries ++ (k, v) :: rest := by
      rw [hentries, List.append_assoc, List.singleton_append]
    have hrest := ih (b.set k v) (by rwa [happend])
    exact hrest.trans (ext happend)

/-- Setting the variables of a bag in turn gives the bag. -/
theorem foldl_set_entries (b : Bag) : b.entries.foldl (fun b e => b.set e.1 e.2) ∅ = b :=
  foldl_set b.entries ∅ b.distinct

/-! ## Keys after writing -/

/-- A key that is there keeps its place and its casing, a new one comes last. -/
theorem keys_set (b : Bag) (key value : String) :
    (b.set key value).keys = if b.contains key then b.keys else b.keys ++ [key] := by
  simp only [contains_iff]
  exact Pairs.map_fst_put key value b.entries

theorem contains_set_of_ne {b : Bag} {key k : String} (h : fold k ≠ fold key) (value : String) :
    (b.set key value).contains k = b.contains k := by
  rw [contains, get?_set, if_neg h, contains]

theorem contains_iff_mem_keys {b : Bag} {key : String} :
    b.contains key = true ↔ fold key ∈ b.keys.map fold := by
  rw [contains_iff, keys, List.map_map]
  rfl

/-- Of several names with the same value, those that are new are added at the end, in their
    order. -/
theorem keys_foldl_set (names : List String) (value : String) (b : Bag)
    (hdistinct : (names.map fold).Nodup) :
    (names.foldl (fun b k => b.set k value) b).keys =
      b.keys ++ names.filter (!b.contains ·) := by
  induction names generalizing b with
  | nil => exact (List.append_nil _).symm
  | cons k rest ih =>
    obtain ⟨hk, hrest⟩ := List.nodup_cons.mp hdistinct
    -- writing the first name does not make another one present
    have hfilter : rest.filter (!(b.set k value).contains ·) = rest.filter (!b.contains ·) := by
      refine List.filter_congr fun name hname => ?_
      have hne : fold name ≠ fold k := fun h => hk (h ▸ List.mem_map_of_mem hname)
      rw [contains_set_of_ne hne]
    rw [List.foldl_cons, ih _ hrest, hfilter, keys_set, List.filter_cons]
    cases b.contains k with
    | true => rfl
    | false => exact List.append_assoc _ _ _

/-! ## Values that are not empty -/

/-- The variables that are not empty. -/
def withoutEmpty (b : Bag) : Bag :=
  ⟨b.entries.filter (·.2 ≠ ""), b.distinct.sublist (List.filter_sublist.map _)⟩

theorem get?_withoutEmpty (b : Bag) (key : String) :
    b.withoutEmpty.get? key = b.nonEmpty? key :=
  Pairs.find_filter_nonEmpty b.distinct key

/-- The main value as a value among others. -/
theorem nonEmpty?_input {b : Bag} {name : String} (h : fold name = inputKey) :
    b.nonEmpty? name = if b.input = "" then none else some b.input := by
  rw [nonEmpty?, get?_inputKey b name h, input]
  cases b.get? inputKey with
  | none => rfl
  | some value => by_cases hvalue : value = "" <;> simp [hvalue]

/-! ## Merging -/

theorem get?_setMissing (b : Bag) (key value k : String) :
    (b.setMissing key value).get? k =
      (b.get? k).or (if fold key = fold k then some value else none) := by
  rw [setMissing, contains]
  by_cases hk : fold key = fold k
  · rw [get?_congr hk, if_pos hk]
    cases hget : b.get? k with
    | none => simp [hk]
    | some v => simp [hget]
  · have hk' : ¬ fold k = fold key := fun h => hk h.symm
    rw [if_neg hk, Option.or_none]
    split
    · rfl
    · rw [get?_set, if_neg hk']

/-- A merge adds what is missing and overwrites nothing. -/
theorem get?_mergeMissing (b other : Bag) (key : String) :
    (b.mergeMissing other).get? key = (b.get? key).or (other.get? key) := by
  rw [mergeMissing, get?, get?, get?]
  change get? _ key = (get? b key).or _
  generalize other.entries = es
  -- the entries are merged one after the other, and the first of a name wins
  induction es generalizing b with
  | nil => rw [List.foldl_nil, Pairs.find, Option.or_none]
  | cons e rest ih =>
    obtain ⟨k, v⟩ := e
    rw [List.foldl_cons, ih, get?_setMissing, Option.or_assoc, Pairs.find]
    by_cases hk : fold k = fold key
    · rw [if_pos hk, if_pos hk, Option.some_or]
    · rw [if_neg hk, if_neg hk, Option.none_or]

theorem mem_names_iff {b : Bag} {key : String} : fold key ∈ b.names ↔ b.get? key ≠ none := by
  rw [ne_eq, get?, Pairs.find_eq_none_iff, Classical.not_not, names]

/-- Merging what is there already changes nothing. -/
theorem mergeMissing_eq_self {b other : Bag} (h : ∀ name ∈ other.names, name ∈ b.names) :
    b.mergeMissing other = b := by
  rw [mergeMissing]
  rw [names] at h
  generalize other.entries = es at h
  induction es with
  | nil => rfl
  | cons e rest ih =>
    -- the entry is skipped, so the others are merged into the same bag
    have hmem : b.contains e.1 = true := contains_iff.mpr (h _ List.mem_cons_self)
    rw [List.foldl_cons, setMissing, if_pos hmem]
    exact ih fun name hname => h name (List.mem_cons_of_mem _ hname)

/-- What a merge adds comes last, in its order and its casing. -/
theorem entries_mergeMissing (b other : Bag) :
    (b.mergeMissing other).entries =
      b.entries ++ other.entries.filter fun e => !b.contains e.1 := by
  rw [mergeMissing]
  have hdistinct := other.distinct
  generalize other.entries = es at hdistinct
  induction es generalizing b with
  | nil => exact (List.append_nil _).symm
  | cons e rest ih =>
    obtain ⟨k, v⟩ := e
    obtain ⟨hk, hrest⟩ := List.nodup_cons.mp hdistinct
    rw [List.foldl_cons, ih _ hrest, List.filter_cons, setMissing]
    cases hcontains : b.contains k with
    | true => rfl
    | false =>
      -- with the first one written the others are missing as before
      have hfilter : rest.filter (fun e => !(b.set k v).contains e.1) =
          rest.filter fun e => !b.contains e.1 := by
        refine List.filter_congr fun e he => ?_
        have hne : fold e.1 ≠ fold k := fun h => hk (List.mem_map.mpr ⟨e, he, h⟩)
        rw [contains_set_of_ne hne]
      have hentries : (b.set k v).entries = b.entries ++ [(k, v)] := by
        refine Pairs.put_of_not_mem (fun hmem => ?_) v
        rw [contains_iff.mpr hmem] at hcontains
        cases hcontains
      simp [hfilter, hentries]

theorem mergeMissing_mergeMissing (b other : Bag) :
    (b.mergeMissing other).mergeMissing other = b.mergeMissing other := by
  refine mergeMissing_eq_self fun name hname => ?_
  obtain ⟨e, he, rfl⟩ := List.mem_map.mp hname
  rw [mem_names_iff, get?_mergeMissing, ne_eq, Option.or_eq_none_iff, not_and]
  intro _
  exact mem_names_iff.mp hname

end Bag

end SkillPlan

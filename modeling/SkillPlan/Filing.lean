/-!
# Filing

Lists of pairs as maps from texts, in the order in which the keys were first filed.
-/

namespace SkillPlan.Filing

variable {α : Type}

/-- Files a value under a key: in place where the key is present, at the end where it is not. -/
def put (key : String) (value : α) : List (String × α) → List (String × α)
  | [] => [(key, value)]
  | (k, v) :: rest => if k = key then (k, value) :: rest else (k, v) :: put key value rest

/-- Takes out what is filed under a key. -/
def remove (key : String) (es : List (String × α)) : List (String × α) :=
  es.filter fun e => e.1 ≠ key

theorem lookup_put (key k : String) (value : α) (es : List (String × α)) :
    (put key value es).lookup k = if k = key then some value else es.lookup k := by
  induction es with
  | nil =>
    by_cases h : k = key
    · simp [put, h]
    · have hb : (k == key) = false := by simpa using h
      simp [put, List.lookup_cons, h, hb]
  | cons e rest ih =>
    obtain ⟨k₀, v₀⟩ := e
    by_cases h : k₀ = key
    · subst h
      by_cases hk : k = k₀
      · simp [put, hk]
      · have hb : (k == k₀) = false := by simpa using hk
        simp [put, List.lookup_cons, hk, hb]
    · by_cases hk : k = k₀
      · simp [put, hk, h]
      · have hb : (k == k₀) = false := by simpa using hk
        simp [put, List.lookup_cons, h, hb, ih]

theorem lookup_remove (key k : String) (es : List (String × α)) :
    (remove key es).lookup k = if k = key then none else es.lookup k := by
  induction es with
  | nil => simp [remove]
  | cons e rest ih =>
    obtain ⟨k₀, v₀⟩ := e
    unfold remove at ih ⊢
    by_cases h : k₀ = key
    · subst h
      by_cases hk : k = k₀
      · simpa [hk] using ih
      · have hb : (k == k₀) = false := by simpa using hk
        simpa [List.lookup_cons, hk, hb] using ih
    · by_cases hk : k = k₀
      · simp [h, hk]
      · have hb : (k == k₀) = false := by simpa using hk
        simpa [List.filter_cons, List.lookup_cons, h, hb] using ih

theorem lookup_eq_none {k : String} {es : List (String × α)} :
    es.lookup k = none ↔ k ∉ es.map Prod.fst := by
  rw [List.lookup_eq_none_iff, List.mem_map]
  constructor
  · rintro h ⟨e, he, rfl⟩
    simpa using h e he
  · intro h e he
    rw [bne_iff_ne]
    rintro rfl
    exact h ⟨e, he, rfl⟩

theorem remove_of_lookup_eq_none {key : String} {es : List (String × α)}
    (h : es.lookup key = none) : remove key es = es := by
  rw [lookup_eq_none] at h
  refine List.filter_eq_self.mpr fun e he => ?_
  simp only [decide_eq_true_eq]
  rintro rfl
  exact h (List.mem_map_of_mem he)

theorem mem_put {key : String} {value : α} {es : List (String × α)} {e : String × α}
    (h : e ∈ put key value es) : e = (key, value) ∨ e ∈ es := by
  induction es with
  | nil => exact .inl (List.mem_singleton.mp h)
  | cons first rest ih =>
    obtain ⟨k, v⟩ := first
    unfold put at h
    split at h
    · rename_i hk
      obtain h | h := List.mem_cons.mp h
      · exact .inl (h.trans (by rw [hk]))
      · exact .inr (List.mem_cons_of_mem _ h)
    · obtain h | h := List.mem_cons.mp h
      · exact .inr (h ▸ List.mem_cons_self)
      · exact (ih h).imp id (List.mem_cons_of_mem _)

theorem keys_put (key : String) (value : α) (es : List (String × α)) :
    (put key value es).map Prod.fst =
      if key ∈ es.map Prod.fst then es.map Prod.fst else es.map Prod.fst ++ [key] := by
  induction es with
  | nil => simp [put]
  | cons first rest ih =>
    obtain ⟨k, v⟩ := first
    by_cases hk : k = key
    · simp [put, hk]
    · simp only [put, if_neg hk, List.map_cons, ih, List.mem_cons, Ne.symm hk, false_or]
      split <;> simp

theorem nodup_keys_put {es : List (String × α)} (h : (es.map Prod.fst).Nodup) (key : String)
    (value : α) : ((put key value es).map Prod.fst).Nodup := by
  rw [keys_put]
  split
  · exact h
  · rename_i hnew
    rw [List.nodup_append]
    refine ⟨h, by simp, ?_⟩
    rintro k hk _ hkey rfl
    exact hnew (List.mem_singleton.mp hkey ▸ hk)

theorem nodup_keys_remove {es : List (String × α)} (h : (es.map Prod.fst).Nodup) (key : String) :
    ((remove key es).map Prod.fst).Nodup :=
  h.sublist (List.filter_sublist.map _)

end SkillPlan.Filing

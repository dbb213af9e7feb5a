import SkillPlan.Proofs.Json.Text

/-!
# One field among others

An object in which one field goes by a name, ignoring case, and no other field does. What the other
fields mean does not depend on the value of that field, so the object means the same around whatever
value is put there: `Raw.Slot.exists_read`.
-/

namespace SkillPlan.Json

open Text (fold)

/-! ## Values -/

theorem mem_of_mem_putField {key : String} {value : Json} {fields : List (String × Json)}
    {f : String × Json} (h : f ∈ putField key value fields) : f = (key, value) ∨ f ∈ fields := by
  induction fields with
  | nil => exact .inl (List.mem_singleton.mp h)
  | cons g rest ih =>
    obtain ⟨k, v⟩ := g
    rw [putField] at h
    split at h
    · rename_i hk
      rw [← hk]
      exact (List.mem_cons.mp h).imp_right (List.mem_cons_of_mem _)
    · obtain hhead | htail := List.mem_cons.mp h
      · exact .inr (hhead ▸ List.mem_cons_self)
      · exact (ih htail).imp_right (List.mem_cons_of_mem _)

theorem putField_append (key : String) (value : Json) (front back : List (String × Json)) :
    putField key value (front ++ back) =
      if key ∈ front.map Prod.fst then putField key value front ++ back
      else front ++ putField key value back := by
  induction front with
  | nil => rfl
  | cons f front ih =>
    obtain ⟨k, v⟩ := f
    by_cases hk : k = key
    · simp [putField, hk]
    · rw [List.cons_append, putField, if_neg hk, ih, putField, if_neg hk]
      simp only [List.map_cons, List.mem_cons, Ne.symm hk, false_or]
      split <;> rfl

/-- The place of a field in an object. The key goes by the name, whatever its case, and no other key
    does. -/
structure Slot (name : String) where
  before : List (String × Json)
  key : String
  after : List (String × Json)
  same : fold key = fold name
  before_ne : ∀ f ∈ before, fold f.1 ≠ fold name
  after_ne : ∀ f ∈ after, fold f.1 ≠ fold name

namespace Slot

variable {name : String}

/-- The fields of the object with a value in the place. -/
def fields (s : Slot name) (v : Json) : List (String × Json) := s.before ++ (s.key, v) :: s.after

/-- The object with a value in the place. -/
def fill (s : Slot name) (v : Json) : Json := .obj (s.fields v)

/-- Writing another field leaves the place in the object. -/
theorem exists_put (s : Slot name) {key : String} (hkey : fold key ≠ fold name) (value : Json) :
    ∃ t : Slot name, ∀ v, putField key value (s.fields v) = t.fields v := by
  have hput : ∀ fields : List (String × Json), (∀ f ∈ fields, fold f.1 ≠ fold name) →
      ∀ f ∈ putField key value fields, fold f.1 ≠ fold name := fun fields hfields f hf => by
    obtain rfl | hf := mem_of_mem_putField hf
    · exact hkey
    · exact hfields f hf
  have hne : s.key ≠ key := fun h => hkey (h ▸ s.same)
  by_cases hbefore : key ∈ s.before.map Prod.fst
  · refine ⟨{ s with
      before := putField key value s.before
      before_ne := hput _ s.before_ne }, fun v => ?_⟩
    rw [fields, putField_append, if_pos hbefore]
    rfl
  · refine ⟨{ s with
      after := putField key value s.after
      after_ne := hput _ s.after_ne }, fun v => ?_⟩
    rw [fields, putField_append, if_neg hbefore, putField, if_neg hne]
    rfl

end Slot

/-! ## Texts taken apart -/

theorem fieldsOfRaw?_append (levels : Nat) (front back : List (List Char × Raw))
    (done : List (String × Json)) :
    fieldsOfRaw? levels (front ++ back) done =
      (fieldsOfRaw? levels front done).bind (fieldsOfRaw? levels back) := by
  induction front generalizing done with
  | nil => rfl
  | cons f front ih =>
    obtain ⟨key, x⟩ := f
    rw [List.cons_append, fieldsOfRaw?, fieldsOfRaw?]
    cases text? key with
    | none => rfl
    | some k =>
      cases ofRaw? levels x with
      | none => rfl
      | some v => exact ih _

/-- A field that is read after others. -/
theorem fieldsOfRaw?_cons_eq_some {levels : Nat} {key : List Char} {x : Raw}
    {rest : List (List Char × Raw)} {done out : List (String × Json)}
    (h : fieldsOfRaw? levels ((key, x) :: rest) done = some out) :
    ∃ k v, text? key = some k ∧ ofRaw? levels x = some v ∧
      fieldsOfRaw? levels rest (putField k v done) = some out := by
  rw [fieldsOfRaw?] at h
  obtain ⟨k, hk, h⟩ := Option.bind_eq_some_iff.mp h
  obtain ⟨v, hv, h⟩ := Option.bind_eq_some_iff.mp h
  exact ⟨k, v, hk, hv, h⟩

/-- What holds of all keys of an object holds of all keys of its value. -/
theorem keys_of_fieldsOfRaw? {P : String → Prop} {levels : Nat} {fields : List (List Char × Raw)}
    {done out : List (String × Json)} (hfields : ∀ f ∈ fields, ∀ k, text? f.1 = some k → P k)
    (hdone : ∀ f ∈ done, P f.1) (h : fieldsOfRaw? levels fields done = some out) :
    ∀ f ∈ out, P f.1 := by
  induction fields generalizing done with
  | nil =>
    cases h
    exact hdone
  | cons f rest ih =>
    obtain ⟨key, x⟩ := f
    obtain ⟨k, v, hk, -, h⟩ := fieldsOfRaw?_cons_eq_some h
    refine ih (fun g hg => hfields g (List.mem_cons_of_mem _ hg)) (fun g hg => ?_) h
    obtain rfl | hg := mem_of_mem_putField hg
    · exact hfields _ List.mem_cons_self k hk
    · exact hdone g hg

/-- Fields of other names are read around the value in a place, whatever it is. -/
theorem Slot.exists_fieldsOfRaw? {name : String} {levels : Nat} {fields : List (List Char × Raw)}
    (hfields : ∀ f ∈ fields, ∀ k, text? f.1 = some k → fold k ≠ fold name) (s : Slot name)
    {v : Json} {out : List (String × Json)}
    (h : fieldsOfRaw? levels fields (s.fields v) = some out) :
    ∃ t : Slot name, ∀ w, fieldsOfRaw? levels fields (s.fields w) = some (t.fields w) := by
  induction fields generalizing s with
  | nil => exact ⟨s, fun w => rfl⟩
  | cons f rest ih =>
    obtain ⟨key, x⟩ := f
    obtain ⟨k, value, hk, hvalue, h⟩ := fieldsOfRaw?_cons_eq_some h
    obtain ⟨t, ht⟩ := s.exists_put (hfields _ List.mem_cons_self k hk) value
    rw [ht] at h
    obtain ⟨t', ht'⟩ := ih (fun g hg => hfields g (List.mem_cons_of_mem _ hg)) t h
    refine ⟨t', fun w => ?_⟩
    rw [fieldsOfRaw?, hk, Option.bind_eq_bind, Option.bind_some, hvalue, Option.bind_eq_bind,
      Option.bind_some, ht, ht']

namespace Raw

/-- The place of a field in an object that was taken apart. The key goes by the name, whatever its
    case, and no other key does. -/
structure Slot (name : String) where
  before : List (List Char × Raw)
  key : List Char
  after : List (List Char × Raw)
  same : (text? key).map fold = some (fold name)
  before_ne : ∀ f ∈ before, (text? f.1).map fold ≠ some (fold name)
  after_ne : ∀ f ∈ after, (text? f.1).map fold ≠ some (fold name)

namespace Slot

variable {name : String}

/-- The object with a value in the place. -/
def fill (s : Slot name) (x : Raw) : Raw := .obj (s.before ++ (s.key, x) :: s.after)

theorem fold_ne {key : List Char} (h : (text? key).map fold ≠ some (fold name)) (k : String)
    (hk : text? key = some k) : fold k ≠ fold name :=
  fun hfold => h (by rw [hk, Option.map_some, hfold])

/-- An object that means something with one value in a place means the same around every value that
    means something. -/
theorem exists_read (s : Slot name) {levels : Nat} {x : Raw} {root : Json}
    (h : ofRaw? levels (s.fill x) = some root) :
    ∃ t : Json.Slot name, (∃ v, ofRaw? (levels - 1) x = some v ∧ root = t.fill v) ∧
      ∀ y v, ofRaw? (levels - 1) y = some v → ofRaw? levels (s.fill y) = some (t.fill v) := by
  obtain ⟨k, hk, hsame⟩ := Option.map_eq_some_iff.mp s.same
  rw [fill, ofRaw?] at h
  split at h
  · cases h
  rename_i hlevels
  obtain ⟨out, hout, hroot⟩ := Option.map_eq_some_iff.mp h
  rw [fieldsOfRaw?_append] at hout
  obtain ⟨front, hfront, hout⟩ := Option.bind_eq_some_iff.mp hout
  obtain ⟨k', v, hk', hv, hout⟩ := fieldsOfRaw?_cons_eq_some hout
  obtain rfl : k = k' := Option.some.inj (hk.symm.trans hk')
  have hbefore : ∀ f ∈ front, fold f.1 ≠ fold name :=
    keys_of_fieldsOfRaw? (fun f hf => fold_ne (s.before_ne f hf))
      (fun f hf => absurd hf List.not_mem_nil) hfront
  -- the field comes behind those that were read before
  let t₀ : Json.Slot name :=
    ⟨front, k, [], hsame, hbefore, fun f hf => absurd hf List.not_mem_nil⟩
  have ht₀ : ∀ w, putField k w front = t₀.fields w := fun w => by
    refine putField_of_not_mem (fun hmem => ?_) w
    obtain ⟨f, hf, rfl⟩ := List.mem_map.mp hmem
    exact hbefore f hf hsame
  rw [ht₀] at hout
  obtain ⟨t, ht⟩ := t₀.exists_fieldsOfRaw? (fun f hf => fold_ne (s.after_ne f hf)) hout
  refine ⟨t, ⟨v, hv, ?_⟩, fun y w hw => ?_⟩
  · rw [← hroot, Json.Slot.fill, Option.some.inj (hout.symm.trans (ht v))]
  · rw [fill, ofRaw?, if_neg hlevels, fieldsOfRaw?_append, hfront, Option.bind_some, fieldsOfRaw?,
      hk, Option.bind_eq_bind, Option.bind_some, hw, Option.bind_eq_bind, Option.bind_some, ht₀,
      ht, Option.map_some]
    rfl

theorem ofRaw?_fill_eq_none (s : Slot name) {levels : Nat} {x : Raw}
    (h : ofRaw? (levels - 1) x = none) : ofRaw? levels (s.fill x) = none := by
  cases hread : ofRaw? levels (s.fill x) with
  | none => rfl
  | some root =>
    obtain ⟨-, ⟨v, hv, -⟩, -⟩ := s.exists_read hread
    cases h.symm.trans hv

end Slot

end Raw

end SkillPlan.Json

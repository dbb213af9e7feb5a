import Mathlib.Data.List.Forall2
import SkillPlan.Proofs.Bag
import SkillPlan.Proofs.Json.Layout

/-!
# Records are read back field by field

What the readers of fields make of a value that was taken apart: texts, whole numbers of 64 bits,
bags and lists are what they were, and an object whose fields the record all has gives every one of
them.
-/

namespace SkillPlan.Json

/-! ## Fields -/

theorem asString?_toRaw (s : String) : asString? (toRaw (.str s)) = some s := by
  rw [toRaw, asString?]
  exact text?_escaped s

theorem asOption?_toRaw_str (s : String) :
    asOption? asString? (toRaw (.str s)) = some (some s) := by
  rw [toRaw, asOption?]
  · rw [← toRaw, asString?_toRaw, Option.map_some]
  · intro h
    cases h

theorem asWord?_toRaw {n : Nat} (h : n < wordBound) : asWord? (toRaw (.ofNat n)) = some n := by
  simp [ofNat, toRaw, asWord?, number?_toLiteral h]

/-- A bag is read back with the order and the casing of its keys. -/
theorem asBag?_toRaw (levels : Nat) (b : Bag) : asBag? (levels + 1) (toRaw (ofBag b)) = some b := by
  have hpairs : ∀ (pairs : List (String × String)) (done : Bag),
      (fieldsToRaw (pairs.map fun e => (e.1, .str e.2))).foldlM
          (fun (b : Bag) e => do return b.set (← text? e.1) (← asString? e.2)) done =
        some (pairs.foldl (fun b e => b.set e.1 e.2) done) := by
    intro pairs
    induction pairs with
    | nil => intro done; rfl
    | cons e rest ih =>
      intro done
      have hkey : text? (e.1.toList.flatMap escapeChar) = some e.1 := text?_escaped e.1
      simp only [List.map_cons, fieldsToRaw, List.foldlM_cons, hkey, asString?_toRaw,
        Option.bind_eq_bind, Option.bind_some, List.foldl_cons]
      exact ih _
  rw [ofBag, toRaw, asBag?, if_neg (Nat.succ_ne_zero levels), hpairs, Bag.foldl_set_entries]

theorem asList?_toRaw {α β : Type} {read : Nat → Raw → Option α} {write : β → Json} {out : β → α}
    {levels : Nat} {xs : List β} (h : ∀ x ∈ xs, read levels (toRaw (write x)) = some (out x)) :
    asList? (levels + 1) read (toRaw (.arr (xs.map write))) = some (xs.map out) := by
  rw [toRaw, asList?, if_neg (Nat.succ_ne_zero levels), Nat.add_sub_cancel]
  induction xs with
  | nil => rfl
  | cons x rest ih =>
    have hrest := ih fun y hy => h y (List.mem_cons_of_mem _ hy)
    simp [itemsToRaw, h x List.mem_cons_self, hrest]

theorem asWord?_lt {x : Raw} {n : Nat} (h : asWord? x = some n) : n < wordBound := by
  unfold asWord? at h
  split at h
  · split at h
    · rename_i hk
      cases h
      exact Literal.lt_of_number? hk
    · cases h
  · cases h

/-- Only a text is read as the value of one. -/
theorem asString?_of_ofRaw? {levels : Nat} {x : Raw} {s : String}
    (h : ofRaw? levels x = some (.str s)) : asString? x = some s := by
  cases x with
  | str body =>
    obtain ⟨text, htext, hs⟩ := Option.map_eq_some_iff.mp h
    cases hs
    exact htext
  | _ => simp [ofRaw?] at h

/-! ## Lists -/

section Lists

variable {α : Type} {read : Nat → Raw → Option α} {levels : Nat}

theorem forall₂_of_mapM {f : Raw → Option α} {items : List Raw} {out : List α}
    (h : items.mapM f = some out) : List.Forall₂ (fun x a => f x = some a) items out := by
  induction items generalizing out with
  | nil =>
    cases h
    exact .nil
  | cons x rest ih =>
    rw [List.mapM_cons] at h
    obtain ⟨a, ha, h⟩ := Option.bind_eq_some_iff.mp h
    obtain ⟨out', hout', h⟩ := Option.bind_eq_some_iff.mp h
    cases h
    exact .cons ha (ih hout')

/-- A list is read from an array item by item, with a container less to open. -/
theorem forall₂_of_asList? {x : Raw} {out : List α} (h : asList? levels read x = some out) :
    ∃ items, x = .arr items ∧ List.Forall₂ (fun y a => read (levels - 1) y = some a) items out := by
  unfold asList? at h
  split at h
  · split at h
    · cases h
    · exact ⟨_, rfl, forall₂_of_mapM h⟩
  · cases h

/-- Whatever is in a list that was read has been read itself, with a container less to open. -/
theorem exists_of_mem_asList? {x : Raw} {out : List α} (h : asList? levels read x = some out)
    {a : α} (ha : a ∈ out) : ∃ y, read (levels - 1) y = some a := by
  obtain ⟨items, -, hread⟩ := forall₂_of_asList? h
  clear h
  induction hread with
  | nil => cases ha
  | cons hb _ ih =>
    obtain rfl | hmem := List.mem_cons.mp ha
    · exact ⟨_, hb⟩
    · exact ih hmem

/-- A list with an item that is not read is not read. -/
theorem asList?_toRaw_eq_none {β : Type} {write : β → Json} {xs : List β} {x : β} (hx : x ∈ xs)
    (h : read levels (toRaw (write x)) = none) :
    asList? (levels + 1) read (toRaw (.arr (xs.map write))) = none := by
  rw [toRaw, asList?, if_neg (Nat.succ_ne_zero levels), Nat.add_sub_cancel]
  induction xs with
  | nil => cases hx
  | cons y rest ih =>
    rw [List.map_cons, itemsToRaw, List.mapM_cons]
    obtain rfl | hrest := List.mem_cons.mp hx
    · rw [h]
      rfl
    · rw [ih hrest]
      cases read levels (toRaw (write y)) <;> rfl

end Lists

/-! ## Records -/

namespace Raw

/-- What stands in an object under a key. -/
def valueOf? (name : String) (fields : List (List Char × Raw)) : Option Raw :=
  (fields.find? fun e => text? e.1 = some name).map (·.2)

/-- What stands in a record under a name: in an object under that key, in an array at the place that the
    name has among those of the fields. -/
def member? (names : List String) (name : String) : Raw → Option Raw
  | .obj fields => valueOf? name fields
  | .arr items => (names.zip items).lookup name
  | _ => none

theorem valueOf?_cons {name k : String} {key : List Char} (hkey : text? key = some k) (x : Raw)
    (fields : List (List Char × Raw)) :
    valueOf? name ((key, x) :: fields) = if k = name then some x else valueOf? name fields := by
  unfold valueOf?
  rw [List.find?_cons, hkey]
  by_cases hk : k = name <;> simp [hk]

end Raw

namespace Fields

/-- What is picked under a name is what was there before or stands in the object. -/
theorem lookup_of_pick? {names : List String} {name : String} {fields : List (List Char × Raw)}
    {done given : List (String × Raw)} (h : pick? names fields done = some given)
    (hname : name ∈ names) :
    given.lookup name = (done.lookup name).or (Raw.valueOf? name fields) := by
  induction fields generalizing done with
  | nil =>
    cases h
    exact Option.or_none.symm
  | cons field rest ih =>
    obtain ⟨key, x⟩ := field
    unfold pick? at h
    obtain ⟨k, hkey, h⟩ := Option.bind_eq_some_iff.mp h
    rw [Raw.valueOf?_cons hkey]
    split at h
    · split at h
      · cases h
      · rw [ih h, List.lookup_append, Option.or_assoc]
        by_cases hk : k = name
        · simp [hk]
        · have hne : (name == k) = false := by simpa using Ne.symm hk
          simp [hk, hne, List.lookup_cons]
    · rename_i hother
      have hk : k ≠ name := fun hk => hother (hk ▸ hname)
      rw [ih h, if_neg hk]

/-- The fields of a record are what stands under their names. -/
theorem get?_eq_member? {levels : Nat} {names : List String} {name : String} {x : Raw} {f : Fields}
    (h : of? levels names x = some f) (hname : name ∈ names) :
    f.get? name = x.member? names name := by
  unfold of? at h
  split at h
  · split at h
    · cases h
    · obtain ⟨given, hgiven, rfl⟩ := Option.map_eq_some_iff.mp h
      exact lookup_of_pick? hgiven hname
  · split at h
    · cases h
    · cases h
      rfl
  · cases h

/-- A field that must be given was read from what stands under its name. -/
theorem member?_of_required? {α : Type} {levels : Nat} {names : List String} {name : String} {x : Raw}
    {f : Fields} {read : Raw → Option α} {a : α} (hf : of? levels names x = some f)
    (h : f.required? name read = some a) (hname : name ∈ names) :
    (x.member? names name).bind read = some a := by
  rwa [required?, get?_eq_member? hf hname] at h

/-- Every field of an object is kept, if the record has them all and none comes twice. -/
theorem pick?_fieldsToRaw {names : List String} {fields : List (String × Json)}
    {done : List (String × Raw)} (hnames : ∀ f ∈ fields, f.1 ∈ names)
    (hdistinct : (done.map Prod.fst ++ fields.map Prod.fst).Nodup) :
    pick? names (fieldsToRaw fields) done =
      some (done ++ fields.map fun f => (f.1, toRaw f.2)) := by
  induction fields generalizing done with
  | nil => simp [fieldsToRaw, pick?]
  | cons f rest ih =>
    obtain ⟨k, v⟩ := f
    have hkey : text? (k.toList.flatMap escapeChar) = some k := text?_escaped k
    have hname : k ∈ names := hnames (k, v) List.mem_cons_self
    have hfresh : done.any (·.1 == k) = false := by
      rw [List.nodup_append] at hdistinct
      simp only [List.any_eq_false, beq_iff_eq]
      intro e he hek
      exact hdistinct.2.2 e.1 (List.mem_map_of_mem he) k List.mem_cons_self hek
    have hrest : pick? names (fieldsToRaw rest) (done ++ [(k, toRaw v)]) =
        some (done ++ [(k, toRaw v)] ++ rest.map fun f => (f.1, toRaw f.2)) :=
      ih (fun g hg => hnames g (List.mem_cons_of_mem _ hg)) (by simpa using hdistinct)
    simp [fieldsToRaw, pick?, hkey, hname, hfresh, hrest]

/-- The fields of an object that was written. -/
def ofFields (fields : List (String × Json)) : Fields := ⟨false, fields.map fun f => (f.1, toRaw f.2)⟩

theorem of?_toRaw_obj {levels : Nat} {names : List String} {fields : List (String × Json)}
    (hnames : ∀ f ∈ fields, f.1 ∈ names) (hdistinct : (fields.map Prod.fst).Nodup) :
    of? (levels + 1) names (toRaw (.obj fields)) =
      some (ofFields fields) := by
  have hpick : pick? names (fieldsToRaw fields) [] =
      some ([] ++ fields.map fun f => (f.1, toRaw f.2)) := pick?_fieldsToRaw hnames hdistinct
  rw [toRaw, of?, if_neg (Nat.succ_ne_zero levels), hpick, List.nil_append, Option.map_some,
    ofFields]

theorem get?_ofFields (fields : List (String × Json)) (name : String) :
    (ofFields fields).get? name = (fields.lookup name).map toRaw := by
  unfold get? ofFields
  induction fields with
  | nil => rfl
  | cons f rest ih =>
    rw [List.map_cons, List.lookup_cons, List.lookup_cons]
    cases name == f.1 with
    | true => rfl
    | false => exact ih

variable {α : Type} {fields : List (String × Json)} {name : String}

theorem withDefault?_of_lookup {v : Json} (h : fields.lookup name = some v) (default : α)
    (read : Raw → Option α) : (ofFields fields).withDefault? name default read = read (toRaw v) := by
  unfold withDefault?
  rw [get?_ofFields, h]
  rfl

theorem withDefault?_eq_some {f : Fields} {default a : α} {read : Raw → Option α}
    (h : f.withDefault? name default read = some a) : a = default ∨ ∃ x, read x = some a := by
  unfold withDefault? at h
  split at h
  · exact .inr ⟨_, h⟩
  · exact .inl (Option.some.inj h).symm

theorem withDefault?_of_missing (h : fields.lookup name = none) (default : α)
    (read : Raw → Option α) : (ofFields fields).withDefault? name default read = some default := by
  unfold withDefault?
  rw [get?_ofFields, h]
  rfl

end Fields

end SkillPlan.Json

import SkillPlan.Text.Fold

/-!
# Variable bags

The text variables that steps read and write. Two keys that differ only in the case of the letters
A to Z are the same key; the casing of the first write is kept. Pairs keep the order in which their
keys were first written. One key, `input`, carries the main value from step to step.
-/

namespace SkillPlan

open Text (fold)

/-! ## Lists of pairs -/

namespace Pairs

/-- The folded keys, in order. -/
def keys (es : List (String × String)) : List String := es.map fun e => fold e.1

/-- Gives `key` the value: in place where the key is present, at the end where it is not. -/
def put (key value : String) : List (String × String) → List (String × String)
  | [] => [(key, value)]
  | (k, v) :: rest => if fold k = fold key then (k, value) :: rest else (k, v) :: put key value rest

/-- The value under `key`. -/
def find (key : String) : List (String × String) → Option String
  | [] => none
  | (k, v) :: rest => if fold k = fold key then some v else find key rest

/-- The pairs other than the one under `key`. -/
def drop (key : String) (es : List (String × String)) : List (String × String) :=
  es.filter fun e => fold e.1 ≠ fold key

@[simp] theorem keys_nil : keys [] = [] := rfl

@[simp] theorem keys_cons (e : String × String) (es : List (String × String)) :
    keys (e :: es) = fold e.1 :: keys es := rfl

theorem keys_put (key value : String) (es : List (String × String)) :
    keys (put key value es) = if fold key ∈ keys es then keys es else keys es ++ [fold key] := by
  induction es with
  | nil => simp [put]
  | cons e rest ih =>
    obtain ⟨k, v⟩ := e
    by_cases h : fold k = fold key
    · simp [put, h]
    · have h' : ¬ fold key = fold k := fun e => h e.symm
      by_cases hm : fold key ∈ keys rest <;> simp [put, h, h', ih, hm]

theorem nodup_keys_put {key value : String} {es : List (String × String)}
    (h : (keys es).Nodup) : (keys (put key value es)).Nodup := by
  rw [keys_put]
  split
  · exact h
  · rename_i hm
    rw [List.nodup_append]
    refine ⟨h, by simp, ?_⟩
    intro a ha b hb hab
    simp only [List.mem_singleton] at hb
    exact hm (hb ▸ hab ▸ ha)

theorem nodup_keys_drop {key : String} {es : List (String × String)}
    (h : (keys es).Nodup) : (keys (drop key es)).Nodup := by
  have hs : (keys (drop key es)).Sublist (keys es) := (List.filter_sublist (l := es)).map _
  exact h.sublist hs

theorem find_put (key value k : String) (es : List (String × String)) :
    find k (put key value es) = if fold k = fold key then some value else find k es := by
  induction es with
  | nil =>
    by_cases h : fold key = fold k
    · simp [put, find, h]
    · have h' : ¬ fold k = fold key := fun e => h e.symm
      simp [put, find, h, h']
  | cons e rest ih =>
    obtain ⟨k₀, v₀⟩ := e
    by_cases h : fold k₀ = fold key
    · by_cases hk : fold key = fold k
      · simp [put, find, h, hk]
      · have hk' : ¬ fold k = fold key := fun e => hk e.symm
        simp [put, find, h, hk, hk']
    · by_cases hk : fold k₀ = fold k
      · have hk' : ¬ fold k = fold key := fun e => h (hk.trans e)
        simp [put, find, hk, hk']
      · simp [put, find, h, hk, ih]

theorem find_eq_none_iff {key : String} {es : List (String × String)} :
    find key es = none ↔ fold key ∉ keys es := by
  induction es with
  | nil => simp [find]
  | cons e rest ih =>
    obtain ⟨k, v⟩ := e
    by_cases h : fold k = fold key
    · simp [find, h]
    · have h' : ¬ fold key = fold k := fun e => h e.symm
      simp [find, h, h', ih]

end Pairs

/-! ## Bags -/

/-- Text variables in the order of their first writes, no two keys the same name. -/
structure Bag where
  entries : List (String × String)
  distinct : (Pairs.keys entries).Nodup := by decide

namespace Bag

/-- The key of the main value. -/
def inputKey : String := "input"

/-- Whether `key` names the main value. -/
def isInput (key : String) : Bool := Text.sameName key inputKey

theorem ext {a b : Bag} (h : a.entries = b.entries) : a = b := by
  cases a
  cases b
  cases h
  rfl

/-- A bag without variables. -/
def empty : Bag := ⟨[], List.nodup_nil⟩

instance : EmptyCollection Bag := ⟨empty⟩
instance : Inhabited Bag := ⟨empty⟩
instance : DecidableEq Bag := fun a b =>
  decidable_of_iff (a.entries = b.entries) ⟨ext, fun h => h ▸ rfl⟩

/-- The value under `key`, if it is present. -/
def get? (b : Bag) (key : String) : Option String := Pairs.find key b.entries

/-- The value under `key`, if it is present and not empty. -/
def nonEmpty? (b : Bag) (key : String) : Option String := (b.get? key).filter (· ≠ "")

/-- Whether `key` is present, possibly with an empty value. -/
def contains (b : Bag) (key : String) : Bool := (b.get? key).isSome

/-- The bag with `value` under `key`. A present key keeps its place and its casing. -/
def set (b : Bag) (key value : String) : Bag :=
  ⟨Pairs.put key value b.entries, Pairs.nodup_keys_put b.distinct⟩

/-- The bag without `key`; the other variables keep their order. -/
def erase (b : Bag) (key : String) : Bag :=
  ⟨Pairs.drop key b.entries, Pairs.nodup_keys_drop b.distinct⟩

/-- The main value, empty when it is missing. -/
def input (b : Bag) : String := (b.get? inputKey).getD ""

/-- The bag with a new main value. -/
def withInput (b : Bag) (value : String) : Bag := b.set inputKey value

/-- The keys as they were first written, in order. -/
def keys (b : Bag) : List String := b.entries.map Prod.fst

/-- The number of variables. -/
def size (b : Bag) : Nat := b.entries.length

/-- Whether the bag has no variables. -/
def isEmpty (b : Bag) : Bool := b.entries.isEmpty

/-- Sets `key` only where it is missing. -/
def setMissing (b : Bag) (key value : String) : Bag :=
  if b.contains key then b else b.set key value

/-- The bag with every variable of `other` written over it. -/
def merge (b other : Bag) : Bag := other.entries.foldl (fun b e => b.set e.1 e.2) b

/-- The bag with those variables of `other` that it lacks. -/
def mergeMissing (b other : Bag) : Bag := other.entries.foldl (fun b e => b.setMissing e.1 e.2) b

/-- The bag that results from setting each pair in turn. -/
def ofList (es : List (String × String)) : Bag := es.foldl (fun b e => b.set e.1 e.2) empty

/-- Whether two bags hold the same variables, in the same casing, in any order. -/
def sameVariables (a b : Bag) : Bool :=
  a.size == b.size && a.entries.all fun e => b.entries.contains e

@[simp] theorem entries_empty : (empty).entries = [] := rfl

@[simp] theorem get?_empty (key : String) : (empty).get? key = none := rfl

@[simp] theorem get?_set (b : Bag) (key value k : String) :
    (b.set key value).get? k = if fold k = fold key then some value else b.get? k :=
  Pairs.find_put key value k b.entries

theorem get?_congr {b : Bag} {j k : String} (h : fold j = fold k) : b.get? j = b.get? k := by
  unfold get?
  generalize b.entries = es
  induction es with
  | nil => rfl
  | cons e rest ih => simp [Pairs.find, h, ih]

theorem contains_iff {b : Bag} {key : String} :
    b.contains key = true ↔ fold key ∈ Pairs.keys b.entries := by
  rw [contains, Option.isSome_iff_ne_none, get?, ne_eq, Pairs.find_eq_none_iff, Classical.not_not]

end Bag

end SkillPlan

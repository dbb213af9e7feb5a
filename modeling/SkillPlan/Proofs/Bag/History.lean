import Mathlib.Data.List.Induction
import Mathlib.Data.List.Nodup
import Mathlib.Data.List.Perm.Subperm
import SkillPlan.Proofs.Json.Decode

/-!
# Bags and what was done to them

A bag is told by the writes and removals that made it. Every operation comes down to them: a merge
writes, one that only adds what is missing writes the names that are not there, and a bag that is
read from a text begins anew. The value of a name is the one that was written last, unless the name
was removed after that, and the names stand in the order of the writes that began them
(`agrees_with_history`).
-/

namespace SkillPlan

open Text (fold sameName)

/-- Nothing is found under a key that was dropped. -/
theorem Pairs.find_drop (key name : String) (es : List (String × String)) :
    find name (drop key es) = if fold name = fold key then none else find name es := by
  induction es with
  | nil => simp [drop, find]
  | cons e rest ih =>
    obtain ⟨k, v⟩ := e
    unfold drop at ih ⊢
    by_cases hk : fold k = fold key
    · rw [List.filter_cons_of_neg (by simpa using hk), ih, find]
      by_cases hname : fold name = fold key
      · rw [if_pos hname, if_pos hname]
      · have hne : ¬ fold k = fold name := fun h => hname (h.symm.trans hk)
        rw [if_neg hname, if_neg hname, if_neg hne]
    · rw [List.filter_cons_of_pos (by simpa using hk), find, find, ih]
      by_cases hname : fold k = fold name
      · have hne : ¬ fold name = fold key := fun h => hk (hname.trans h)
        rw [if_pos hname, if_pos hname, if_neg hne]
      · rw [if_neg hname, if_neg hname]

namespace Bag

/-! ## Histories -/

/-- What is done to a name. -/
inductive Event where
  | wrote (key value : String)
  | removed (key : String)
  deriving DecidableEq, Repr

/-- What was done to the names of a bag, in order. -/
abbrev History := List Event

namespace Event

/-- The name, as it was given. -/
def key : Event → String
  | wrote key _ => key
  | removed key => key

/-- The value that a name has after the event. -/
def value? : Event → Option String
  | wrote _ value => some value
  | removed _ => none

/-- Whether the event removes a name. -/
def removes (name : String) : Event → Bool
  | wrote _ _ => false
  | removed key => sameName key name

/-- The name that the event begins, in its casing, beside those that are there: it is written. -/
def begins? (there : String → Bool) : Event → Option String
  | wrote key _ => if there key then none else some key
  | removed _ => none

/-- The bag after the event. -/
def applyTo (b : Bag) : Event → Bag
  | wrote key value => b.set key value
  | removed key => b.erase key

end Event

/-- Pairs as writes. -/
def writes (pairs : List (String × String)) : History := pairs.map fun e => .wrote e.1 e.2

namespace History

/-- The value of a name: what was written last, if the name was not removed after that. -/
def value? (h : History) (name : String) : Option String :=
  (h.filter fun e => sameName e.key name).getLast?.bind Event.value?

/-- The name that the event at a place began: one that was not there before, and was not removed
    after it. -/
def begun? (h : History) (i : Nat) : Option String :=
  (h[i]?.bind (·.begins? fun name => (value? (h.take i) name).isSome)).filter fun name =>
    (h.drop (i + 1)).all (!·.removes name)

/-- The names that are there, in the order in which they were begun. -/
def names (h : History) : List String := (List.range h.length).filterMap h.begun?

/-- The bag of a history. -/
def bag (h : History) : Bag := h.foldl Event.applyTo ∅

end History

/-! ## Operations -/

/-- What can be done to a bag. -/
inductive Operation where
  | set (key value : String)
  | update (value : String)
  | remove (key : String)
  | merge (other : Bag)
  | mergeMissing (other : Bag)
  /-- Reads the bag from a text; one that cannot be read leaves it as it is. -/
  | decode (text : String)

/-- The bag in a text. -/
def ofText? (text : String) : Option Bag := Json.decodeText? Json.asBag? text

/-- The bag after an operation. -/
def perform (b : Bag) : Operation → Bag
  | .set key value => b.set key value
  | .update value => b.withInput value
  | .remove key => b.erase key
  | .merge other => b.merge other
  | .mergeMissing other => b.mergeMissing other
  | .decode text => (ofText? text).getD b

/-- The bag after some operations, beginning with none. -/
def performed (ops : List Operation) : Bag := ops.foldl perform ∅

/-- The key and the text of a field. -/
def member? (field : List Char × Json.Raw) : Option (String × String) := do
  return (← Json.text? field.1, ← Json.asString? field.2)

/-- The texts of the object in a JSON text, under their keys and in their order. -/
def members? (text : String) : Option (List (String × String)) :=
  match Json.Raw.ofChars? text.toList with
  | some (.obj fields) => fields.mapM member?
  | _ => none

namespace History

/-- A history after one more operation. -/
def andThen (h : History) : Operation → History
  | .set key value => h ++ [.wrote key value]
  | .update value => h ++ [.wrote inputKey value]
  | .remove key => h ++ [.removed key]
  | .merge other => h ++ writes other.entries
  | .mergeMissing other => h ++ writes (other.entries.filter fun e => (h.value? e.1).isNone)
  | .decode text => ((members? text).map writes).getD h

/-- The history of some operations. -/
def ofOperations (ops : List Operation) : History := ops.foldl andThen []

end History

/-! ## Values -/

@[simp] theorem get?_erase (b : Bag) (key name : String) :
    (b.erase key).get? name = if fold name = fold key then none else b.get? name :=
  Pairs.find_drop key name b.entries

theorem get?_applyTo (b : Bag) (e : Event) (name : String) :
    (e.applyTo b).get? name = if fold name = fold e.key then e.value? else b.get? name := by
  cases e with
  | wrote key value => exact get?_set b key value name
  | removed key => exact get?_erase b key name

namespace History

theorem bag_append (h h' : History) : (h ++ h').bag = h'.foldl Event.applyTo h.bag :=
  List.foldl_append

theorem value?_concat (h : History) (e : Event) (name : String) :
    (h ++ [e]).value? name = if fold name = fold e.key then e.value? else h.value? name := by
  unfold value?
  rw [List.filter_append]
  by_cases hname : fold e.key = fold name
  · rw [List.filter_cons_of_pos (by simpa using hname), if_pos hname.symm]
    simp
  · rw [List.filter_cons_of_neg (by simpa using hname), if_neg (Ne.symm hname)]
    simp

/-- What is found in the bag is what was written last. -/
theorem get?_bag (h : History) (name : String) : h.bag.get? name = h.value? name := by
  induction h using List.reverseRecOn with
  | nil => rfl
  | append_singleton h e ih =>
    rw [bag_append, value?_concat, List.foldl_cons, List.foldl_nil, get?_applyTo, ih]

theorem contains_bag (h : History) (name : String) :
    h.bag.contains name = (h.value? name).isSome := by
  rw [contains, get?_bag]

end History

/-! ## Order and casing -/

theorem keys_erase (b : Bag) (key : String) :
    (b.erase key).keys = b.keys.filter fun k => !sameName key k := by
  unfold keys erase Pairs.drop
  rw [List.filter_map]
  refine congrArg _ (List.filter_congr fun e _ => ?_)
  rw [Bool.eq_iff_iff, decide_eq_true_iff, Function.comp_apply, Bool.not_eq_true',
    ← Bool.not_eq_true, Text.sameName_iff, ne_comm]

theorem keys_applyTo (b : Bag) (e : Event) :
    (e.applyTo b).keys = b.keys.filter (!e.removes ·) ++ (e.begins? b.contains).toList := by
  cases e with
  | removed key => exact (keys_erase b key).trans (List.append_nil _).symm
  | wrote key value =>
    have hall : b.keys.filter (!(Event.wrote key value).removes ·) = b.keys :=
      List.filter_eq_self.mpr fun _ _ => rfl
    rw [Event.applyTo, keys_set, hall, Event.begins?]
    split
    · exact (List.append_nil _).symm
    · rfl

namespace History

variable {h : History} {e : Event} {i : Nat}

/-- An event takes away the names that it removes, wherever they were begun. -/
theorem begun?_concat_of_lt (hi : i < h.length) :
    (h ++ [e]).begun? i = (h.begun? i).filter (!e.removes ·) := by
  have hdrop : (h ++ [e]).drop (i + 1) = h.drop (i + 1) ++ [e] :=
    List.drop_append_of_le_length hi
  have htake : (h ++ [e]).take i = h.take i := List.take_append_of_le_length (Nat.le_of_lt hi)
  simp only [begun?, List.getElem?_append_left hi, htake, hdrop, List.all_append, List.all_cons,
    List.all_nil, Bool.and_true, Option.filter_filter]

/-- The last event begins what it writes, if that is not there. -/
theorem begun?_concat_length (h : History) (e : Event) :
    (h ++ [e]).begun? h.length = e.begins? fun name => (h.value? name).isSome := by
  have hdrop : (h ++ [e]).drop (h.length + 1) = [] := List.drop_eq_nil_of_le (by simp)
  unfold begun?
  rw [hdrop, List.getElem?_concat_length, List.take_left, Option.bind_some]
  cases e.begins? _ <;> rfl

theorem names_concat (h : History) (e : Event) :
    (h ++ [e]).names = h.names.filter (!e.removes ·) ++
      (e.begins? fun name => (h.value? name).isSome).toList := by
  -- earlier places keep their names unless the event removes them, and it has a place of its own
  have hkept : (List.range h.length).filterMap (h ++ [e]).begun? =
      h.names.filter (!e.removes ·) := by
    rw [names, List.filter_filterMap]
    exact List.filterMap_congr fun i hi => begun?_concat_of_lt (List.mem_range.mp hi)
  rw [names, List.length_append, List.length_singleton, List.range_succ, List.filterMap_append,
    hkept, ← begun?_concat_length]
  cases hbegun : (h ++ [e]).begun? h.length <;> simp [hbegun]

/-- The keys of the bag are the names in the order in which they were begun. -/
theorem keys_bag (h : History) : h.bag.keys = h.names := by
  induction h using List.reverseRecOn with
  | nil => rfl
  | append_singleton h e ih =>
    have hthere : (bag h).contains = fun name => (value? h name).isSome :=
      funext (contains_bag h)
    rw [bag_append, List.foldl_cons, List.foldl_nil, keys_applyTo, names_concat, ih, hthere]

end History

/-- A bag is told by its keys and what is found under them. -/
theorem entries_eq (b : Bag) : b.entries = b.keys.map fun key => (key, (b.get? key).getD "") := by
  have hpairs : ∀ es : List (String × String), (Pairs.keys es).Nodup →
      es = (es.map Prod.fst).map fun key => (key, (Pairs.find key es).getD "") := by
    intro es hdistinct
    induction es with
    | nil => rfl
    | cons e rest ih =>
      obtain ⟨k, v⟩ := e
      obtain ⟨hk, hrest⟩ := List.nodup_cons.mp hdistinct
      -- the first pair is not found under the other keys
      have hothers : ∀ key ∈ rest.map Prod.fst,
          Pairs.find key ((k, v) :: rest) = Pairs.find key rest := by
        intro key hkey
        obtain ⟨e, he, rfl⟩ := List.mem_map.mp hkey
        exact if_neg fun h => hk (List.mem_map.mpr ⟨e, he, h.symm⟩)
      have hfirst : Pairs.find k ((k, v) :: rest) = some v := if_pos rfl
      rw [List.map_cons, List.map_cons, hfirst, Option.getD_some]
      congr 1
      refine (ih hrest).trans (List.map_congr_left fun key hkey => ?_)
      rw [hothers key hkey]
  exact hpairs b.entries b.distinct

/-! ## Operations as writes and removals -/

theorem foldl_applyTo_writes (pairs : List (String × String)) (b : Bag) :
    (writes pairs).foldl Event.applyTo b = pairs.foldl (fun b e => b.set e.1 e.2) b := by
  rw [writes, List.foldl_map]
  rfl

theorem mergeMissing_eq_foldl_set (b other : Bag) :
    b.mergeMissing other =
      (other.entries.filter fun e => !b.contains e.1).foldl (fun b e => b.set e.1 e.2) b := by
  have hentries := entries_mergeMissing b other
  have hdistinct := (b.mergeMissing other).distinct
  rw [hentries] at hdistinct
  rw [foldl_set _ b hdistinct]
  exact ext hentries

/-- A bag is read by writing the texts of the object one after the other. -/
theorem ofText?_eq (text : String) : ofText? text = (members? text).map ofList := by
  have hfields : ∀ (fields : List (List Char × Json.Raw)) (b : Bag),
      fields.foldlM (fun (b : Bag) e => do
          return b.set (← Json.text? e.1) (← Json.asString? e.2)) b =
        (fields.mapM member?).map fun pairs => pairs.foldl (fun b e => b.set e.1 e.2) b := by
    intro fields
    -- for any bag: what was read before stays
    induction fields with
    | nil => exact fun b => rfl
    | cons e rest ih =>
      intro b
      rw [List.foldlM_cons, List.mapM_cons, member?]
      cases Json.text? e.1 with
      | none => rfl
      | some key =>
        cases Json.asString? e.2 with
        | none => rfl
        | some value =>
          refine (ih (b.set key value)).trans ?_
          cases rest.mapM member? <;> rfl
  unfold ofText? members? Json.decodeText?
  cases Json.Raw.ofChars? text.toList with
  | none => rfl
  | some raw =>
    cases raw with
    | obj fields => exact hfields fields ∅
    | _ => rfl

namespace History

/-- An operation does to the bag what its writes and removals do. -/
theorem bag_andThen (h : History) (op : Operation) : (h.andThen op).bag = h.bag.perform op := by
  cases op with
  | set key value => exact bag_append h _
  | update value => exact bag_append h _
  | remove key => exact bag_append h _
  | merge other =>
    rw [andThen, bag_append, foldl_applyTo_writes]
    rfl
  | mergeMissing other =>
    -- the history knows which names are there as well as the bag does
    have hmissing : ∀ e : String × String, (h.value? e.1).isNone = !h.bag.contains e.1 := by
      intro e
      rw [contains_bag, Option.not_isSome]
    rw [andThen, bag_append, foldl_applyTo_writes, perform, mergeMissing_eq_foldl_set]
    simp only [hmissing]
  | decode text =>
    rw [andThen, perform, ofText?_eq]
    cases members? text with
    | none => rfl
    | some pairs => exact foldl_applyTo_writes pairs ∅

theorem bag_ofOperations (ops : List Operation) : (ofOperations ops).bag = performed ops := by
  induction ops using List.reverseRecOn with
  | nil => rfl
  | append_singleton ops op ih =>
    rw [ofOperations, performed, List.foldl_append, List.foldl_append, List.foldl_cons,
      List.foldl_cons, List.foldl_nil, List.foldl_nil, bag_andThen]
    exact congrArg (perform · op) ih

end History

/-! ## Bags that are the same -/

theorem nodup_entries (b : Bag) : b.entries.Nodup := List.Nodup.of_map _ b.distinct

theorem sameVariables_iff {a b : Bag} :
    a.sameVariables b = true ↔ ∀ e, e ∈ a.entries ↔ e ∈ b.entries := by
  rw [sameVariables, Bool.and_eq_true, beq_iff_eq, List.all_eq_true]
  simp only [List.contains_iff_mem]
  constructor
  · rintro ⟨hsize, hsubset⟩ e
    have hperm : a.entries.Perm b.entries :=
      (List.Nodup.subperm a.nodup_entries hsubset).perm_of_length_le (Nat.le_of_eq hsize.symm)
    exact hperm.mem_iff
  · intro h
    have hperm := (List.perm_ext_iff_of_nodup a.nodup_entries b.nodup_entries).mpr h
    exact ⟨hperm.length_eq, fun e he => (h e).mp he⟩

/-- A bag after any operations. No two of its keys are the same name. Under a name is found what was
    written there last, unless it was removed after that, in whatever casing the name is given. The
    pairs stand in the order of the writes that began their names, with the casing of these writes.
    Another bag is the same when it has the same pairs, whatever their order. -/
theorem agrees_with_history (ops : List Operation) :
    let b := performed ops
    let h := History.ofOperations ops
    (b.keys.Pairwise fun key key' => sameName key key' = false) ∧
      (∀ name, b.get? name = h.value? name) ∧
      b.entries = h.names.map (fun key => (key, (h.value? key).getD "")) ∧
      ∀ other, b.sameVariables other = true ↔
        ∀ key value, (key, value) ∈ b.entries ↔ (key, value) ∈ other.entries := by
  intro b h
  have hb : h.bag = b := History.bag_ofOperations ops
  have hvalue : ∀ name, b.get? name = h.value? name := fun name => hb ▸ h.get?_bag name
  refine ⟨?_, hvalue, ?_, fun other => ?_⟩
  · refine List.pairwise_map.mpr ((List.pairwise_map.mp b.distinct).imp fun hne => ?_)
    rwa [← Bool.not_eq_true, Text.sameName_iff]
  · rw [entries_eq, ← hb, h.keys_bag]
    simp only [hb, hvalue]
  · rw [sameVariables_iff, Prod.forall]

/-- A name that was removed begins anew: in another place and in another casing. -/
example : (performed [.set "Path" "a", .merge (ofList [("PATH", "b"), ("mode", "w")]),
    .remove "path", .mergeMissing (ofList [("Mode", "r"), ("path", "c")])]).entries =
      [("mode", "w"), ("path", "c")] := by
  decide +kernel

end Bag

end SkillPlan

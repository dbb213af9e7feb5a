import SkillPlan.Json.Reader
import SkillPlan.Json.Writer
import SkillPlan.Bag

/-!
# Reading records

A record is read from an object, where fields that the record does not have are passed over unread
and no field may come twice, or from an array that lists its fields in order. Readers take the
number of containers that may still be opened.
-/

namespace SkillPlan.Json

open Number (Decimal)

/-! ## Values as text taken apart -/

/-- A number as it is written. -/
def Num.toLiteral : Num → Literal
  | .natural n => ⟨false, Decimal.digitChars n, [], none⟩
  | .negative n => ⟨true, Decimal.digitChars n, [], none⟩
  | .decimal d | .single d =>
    ⟨d.negative, Decimal.digitChars d.digits, [],
      some (d.exponent < 0, Decimal.digitChars d.exponent.natAbs)⟩

mutual
/-- The text of a value, taken apart. -/
def toRaw : Json → Raw
  | .null => .null
  | .bool b => .bool b
  | .num n => .num n.toLiteral
  | .str s => .str (s.toList.flatMap escapeChar)
  | .arr items => .arr (itemsToRaw items)
  | .obj fields => .obj (fieldsToRaw fields)

/-- The items of an array, taken apart. -/
def itemsToRaw : List Json → List Raw
  | [] => []
  | x :: rest => toRaw x :: itemsToRaw rest

/-- The fields of an object, taken apart. -/
def fieldsToRaw : List (String × Json) → List (List Char × Raw)
  | [] => []
  | (k, v) :: rest => (k.toList.flatMap escapeChar, toRaw v) :: fieldsToRaw rest
end

mutual
/-- How many containers are open at once inside a value. -/
def depth : Json → Nat
  | .arr items => depthItems items + 1
  | .obj fields => depthFields fields + 1
  | _ => 0

/-- The greatest depth of some items. -/
def depthItems : List Json → Nat
  | [] => 0
  | x :: rest => max (depth x) (depthItems rest)

/-- The greatest depth of some fields. -/
def depthFields : List (String × Json) → Nat
  | [] => 0
  | (_, v) :: rest => max (depth v) (depthFields rest)
end

/-! ## Scalars -/

/-- A text. -/
def asString? : Raw → Option String
  | .str body => text? body
  | _ => none

/-- A truth value. -/
def asBool? : Raw → Option Bool
  | .bool b => some b
  | _ => none

/-- A whole number of 64 bits, written without fraction and exponent. -/
def asWord? : Raw → Option Nat
  | .num n =>
    match n.number? with
    | some (.natural k) => some k
    | _ => none
  | _ => none

/-- A number, rounded to single precision. -/
def asSingle? : Raw → Option Number.Single
  | .num n =>
    match n.number? with
    | some (.natural k) => some (.ofMagnitude false (Number.single.round k 1))
    | some (.negative k) => some (.ofMagnitude true (Number.single.round k 1))
    | some (.decimal d) | some (.single d) =>
      let exact := Number.double.ofDecimal d.digits d.exponent
      some (.ofMagnitude d.negative (exact.convert Number.single))
    | none => none
  | _ => none

/-- Reads `null` as nothing and anything else with the given reader. -/
def asOption? {α : Type} (read : Raw → Option α) : Raw → Option (Option α)
  | .null => some none
  | x => (read x).map some

/-- Reads every item of an array. -/
def asList? {α : Type} (levels : Nat) (read : Nat → Raw → Option α) : Raw → Option (List α)
  | .arr items => if levels = 0 then none else items.mapM (read (levels - 1))
  | _ => none

/-- Reads an object of texts as a bag; keys that are the same name overwrite each other. -/
def asBag? (levels : Nat) : Raw → Option Bag
  | .obj fields =>
    if levels = 0 then none
    else fields.foldlM (fun (b : Bag) e => do return b.set (← text? e.1) (← asString? e.2)) ∅
  | _ => none

/-! ## Records -/

/-- The fields that were given for a record, and whether they were given in order, by an array. -/
structure Fields where
  inOrder : Bool
  given : List (String × Raw)

namespace Fields

/-- Keeps the fields of an object that the record has. -/
def pick? (names : List String) :
    List (List Char × Raw) → List (String × Raw) → Option (List (String × Raw))
  | [], done => some done
  | (key, x) :: rest, done => do
    let k ← text? key
    if k ∈ names then
      if done.any (·.1 == k) then none else pick? names rest (done ++ [(k, x)])
    else pick? names rest done

/-- The fields of a record with the given field names. -/
def of? (levels : Nat) (names : List String) : Raw → Option Fields
  | .obj fields => if levels = 0 then none else (pick? names fields []).map (⟨false, ·⟩)
  | .arr items =>
    if levels = 0 || names.length < items.length then none else some ⟨true, names.zip items⟩
  | _ => none

/-- What was given for a field. -/
def get? (f : Fields) (name : String) : Option Raw := f.given.lookup name

/-- A field that must be given. -/
def required? {α : Type} (f : Fields) (name : String) (read : Raw → Option α) : Option α :=
  (f.get? name).bind read

/-- A field with a default. -/
def withDefault? {α : Type} (f : Fields) (name : String) (default : α) (read : Raw → Option α) :
    Option α :=
  match f.get? name with
  | some x => read x
  | none => some default

/-- A field that may be left out of an object, but not off the end of an array. -/
def optional? {α : Type} (f : Fields) (name : String) (read : Raw → Option α) :
    Option (Option α) :=
  match f.get? name with
  | some x => asOption? read x
  | none => if f.inOrder then none else some none

end Fields

/-- Reads the whole of a text as a record. -/
def decodeText? {α : Type} (read : Nat → Raw → Option α) (s : String) : Option α :=
  (Raw.ofChars? s.toList).bind (read maxDepth)

/-- Reads a value as a record, however deep it is. -/
def decodeValue? {α : Type} (read : Nat → Raw → Option α) (v : Json) : Option α :=
  read (depth v + 1) (toRaw v)

/-- A bag as an object. -/
def ofBag (b : Bag) : Json := .obj (b.entries.map fun e => (e.1, .str e.2))

end SkillPlan.Json

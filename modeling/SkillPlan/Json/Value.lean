import SkillPlan.Number.Decimal

/-!
# JSON values

Values as they are stored and written: objects keep the order in which their keys were first
written. Whole numbers of 64 bits are kept as they are; every other number is known by its shortest
decimal, in double precision unless it was put there in single precision.
-/

namespace SkillPlan

open Number (Decimal)

namespace Json

/-- A number: a whole number of 64 bits, the negative of one, or the shortest decimal of a number of
    double or of single precision. -/
inductive Num where
  | natural (n : Nat)
  | negative (n : Nat)
  | decimal (d : Decimal)
  | single (d : Decimal)
  deriving DecidableEq, Repr

end Json

/-- A JSON value. -/
inductive Json where
  | null
  | bool (b : Bool)
  | num (n : Json.Num)
  | str (s : String)
  | arr (items : List Json)
  | obj (fields : List (String × Json))
  deriving Repr

namespace Json

instance : Inhabited Json := ⟨.null⟩

/-- Gives `key` the value: in place where the key is present, at the end where it is not. -/
def putField (key : String) (value : Json) : List (String × Json) → List (String × Json)
  | [] => [(key, value)]
  | (k, v) :: rest => if k = key then (k, value) :: rest else (k, v) :: putField key value rest

/-- The value under exactly this key. -/
def findField (key : String) : List (String × Json) → Option Json
  | [] => none
  | (k, v) :: rest => if k = key then some v else findField key rest

/-- A whole number. -/
def ofNat (n : Nat) : Json := .num (.natural n)

/-- An array of texts. -/
def ofStrings (xs : List String) : Json := .arr (xs.map .str)

end Json

end SkillPlan

/-!
# Binary magnitudes

Sizes of floating point numbers, held exactly: a whole mantissa times a power of two, or a size
beyond the largest that a format can hold. Every operation gives the exact result, rounded once to
the nearest member of the format, a tie going to the even mantissa.
-/

namespace SkillPlan.Number

/-- A binary format: the bits of its mantissas and the range of its exponents. -/
structure Format where
  precision : Nat
  minExponent : Int
  maxExponent : Int

/-- Double precision. -/
def double : Format := ⟨53, -1074, 971⟩

/-- Single precision. -/
def single : Format := ⟨24, -149, 104⟩

/-- A size: `mantissa * 2 ^ exponent`, or one that is out of range. -/
inductive Magnitude where
  | finite (mantissa : Nat) (exponent : Int)
  | infinite
  deriving DecidableEq, Repr

/-- The whole number nearest to a quotient, a tie going to the even one. -/
def roundDiv (num den : Nat) : Nat :=
  let q := num / den
  let r := 2 * (num % den)
  if r < den then q else if den < r then q + 1 else q + q % 2

/-- The quotient `num / den` scaled by `2 ^ e`, again as a quotient. -/
def scaleTwo (e : Int) (num den : Nat) : Nat × Nat :=
  if 0 ≤ e then (num * Nat.pow 2 e.toNat, den) else (num, den * Nat.pow 2 (-e).toNat)

/-- The exponent of the greatest power of two that is at most `num / den`, both being positive. -/
def floorLog2 (num den : Nat) : Int :=
  let e : Int := (num.log2 : Int) - (den.log2 : Int)
  let (a, b) := scaleTwo (-e) num den
  if b ≤ a then e else e - 1

/-- The member of the format nearest to `num / den`. -/
def Format.round (f : Format) (num den : Nat) : Magnitude :=
  if num = 0 then .finite 0 f.minExponent
  else
    let q := max f.minExponent (floorLog2 num den - (f.precision - 1 : Int))
    let (a, b) := scaleTwo (-q) num den
    let m := roundDiv a b
    let (m, q) := if m = Nat.pow 2 f.precision then (m / 2, q + 1) else (m, q)
    if f.maxExponent < q then .infinite else .finite m q

namespace Magnitude

/-- Whether the size is zero. -/
def isZero : Magnitude → Bool
  | finite m _ => m == 0
  | infinite => false

/-- The product in a format. -/
def mul (f : Format) : Magnitude → Magnitude → Magnitude
  | finite m q, finite n r =>
    let (a, b) := scaleTwo (q + r) (m * n) 1
    f.round a b
  | _, _ => infinite

/-- The quotient of two finite sizes in a format, the second one not zero. -/
def div (f : Format) : Magnitude → Magnitude → Magnitude
  | finite m q, finite n r =>
    let (a, b) := scaleTwo (q - r) m n
    f.round a b
  | _, _ => infinite

/-- The same size in another format. -/
def convert (f : Format) : Magnitude → Magnitude
  | finite m q =>
    let (a, b) := scaleTwo q m 1
    f.round a b
  | infinite => infinite

end Magnitude

/-- `digits * 10 ^ exponent` in a format, rounded once. -/
def Format.ofDecimal (f : Format) (digits : Nat) (exponent : Int) : Magnitude :=
  if 0 ≤ exponent then f.round (digits * Nat.pow 10 exponent.toNat) 1
  else f.round digits (Nat.pow 10 (-exponent).toNat)

end SkillPlan.Number

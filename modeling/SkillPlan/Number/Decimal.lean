import SkillPlan.Number.Binary

/-!
# Shortest decimals

A number of a binary format is written with the fewest digits that read back as the same number;
of several such decimals the one nearest to it is taken. `Layout` says how the digits are set out.
-/

namespace SkillPlan.Number

/-- `digits * 10 ^ exponent`, with a sign that zero has too. -/
structure Decimal where
  negative : Bool
  digits : Nat
  exponent : Int
  deriving DecidableEq, Repr

namespace Decimal

/-- Zero. -/
def zero : Decimal := ⟨false, 0, 0⟩

/-- Moves zeros at the end of the digits into the exponent, at most `fuel` of them. -/
def dropZeros : Nat → Nat → Int → Nat × Int
  | 0, digits, exponent => (digits, exponent)
  | fuel + 1, digits, exponent =>
    if digits % 10 = 0 then dropZeros fuel (digits / 10) (exponent + 1) else (digits, exponent)

/-- The whole number of steps of `10 ^ k` nearest to `m * 2 ^ q`, if it reads back as the same
    member of the format. Members lie halfway apart from their neighbours, except below a power of
    two, where the lower half of the gap is as wide as a quarter. An end of the interval itself
    reads back as the member with the even mantissa. -/
def onGrid? (f : Format) (m : Nat) (q : Int) (k : Int) : Option Nat :=
  let up := Nat.pow 2 (q - 2).toNat * Nat.pow 10 (-k).toNat
  let down := Nat.pow 2 (2 - q).toNat * Nat.pow 10 k.toNat
  let value := 4 * m * up
  let least := m = Nat.pow 2 (f.precision - 1) ∧ f.minExponent < q
  let low := (if least then 4 * m - 1 else 4 * m - 2) * up
  let high := (4 * m + 2) * up
  let inside (d : Nat) : Bool :=
    if m % 2 = 0 then low ≤ d * down && d * down ≤ high else low < d * down && d * down < high
  let below := value / down
  let above := below + 1
  match inside below, inside above with
  | true, true =>
    let toBelow := value - below * down
    let toAbove := above * down - value
    if toBelow < toAbove then some below
    else if toAbove < toBelow then some above
    else some (below + below % 2)
  | true, false => some below
  | false, true => some above
  | false, false => none

/-- The first grid that has a hit, from the coarsest on. -/
def search (f : Format) (m : Nat) (q : Int) : Nat → Int → Nat × Int
  | 0, k => (0, k)
  | fuel + 1, k =>
    match onGrid? f m q k with
    | some d => (d, k)
    | none => search f m q fuel (k - 1)

/-- The shortest decimal of a finite member `m * 2 ^ q` of the format. -/
def ofFinite (f : Format) (negative : Bool) (m : Nat) (q : Int) : Decimal :=
  if m = 0 then ⟨negative, 0, 0⟩
  else
    let coarsest := (q + (f.precision + 1 : Int)) * 30103 / 100000 + 1
    let (digits, exponent) := search f m q 60 coarsest
    let (digits, exponent) := dropZeros 20 digits exponent
    ⟨negative, digits, exponent⟩

/-- How a decimal is set out: the exponents of its first digit that are written in positional
    form, and whether a positive exponent has a plus sign. -/
structure Layout where
  leastPositional : Int
  beyondPositional : Int
  plus : Bool

/-- The digits of a number in base 10. -/
def digitChars (n : Nat) : List Char := Nat.toDigits 10 n

/-- The characters of the decimal without its sign. -/
def unsigned (l : Layout) (d : Decimal) : List Char :=
  if d.digits = 0 then ['0', '.', '0']
  else
    let ds := digitChars d.digits
    let lead := d.exponent + (ds.length : Int) - 1
    if l.leastPositional ≤ lead ∧ lead < l.beyondPositional then
      if lead < 0 then ['0', '.'] ++ List.replicate (-lead - 1).toNat '0' ++ ds
      else
        let whole := lead.toNat + 1
        if ds.length ≤ whole then ds ++ List.replicate (whole - ds.length) '0' ++ ['.', '0']
        else ds.take whole ++ ['.'] ++ ds.drop whole
    else
      let fraction := if ds.length ≤ 1 then [] else '.' :: ds.drop 1
      let sign := if lead < 0 then ['-'] else if l.plus then ['+'] else []
      ds.take 1 ++ fraction ++ ['e'] ++ sign ++ digitChars lead.natAbs

/-- The characters of the decimal. -/
def chars (l : Layout) (d : Decimal) : List Char :=
  (if d.negative then ['-'] else []) ++ unsigned l d

end Decimal

/-! ## Single precision numbers -/

/-- A number of single precision, known by its shortest decimal. -/
inductive Single where
  | finite (value : Decimal)
  | infinite (negative : Bool)
  deriving DecidableEq, Repr

namespace Single

/-- Zero. -/
def zero : Single := .finite .zero

/-- The single precision number of a size and a sign. -/
def ofMagnitude (negative : Bool) : Magnitude → Single
  | .finite m q => .finite (Decimal.ofFinite single negative m q)
  | .infinite => .infinite negative

/-- The layout of numbers in descriptions of values. -/
def descriptionLayout : Decimal.Layout := ⟨-4, 16, false⟩

/-- The number as a description of a value shows it. -/
def describe : Single → String
  | .finite d => String.ofList (d.chars descriptionLayout)
  | .infinite false => "inf"
  | .infinite true => "-inf"

end Single

end SkillPlan.Number

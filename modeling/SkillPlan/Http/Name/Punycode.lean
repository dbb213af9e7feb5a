/-!
# Punycode

Labels with characters beyond ASCII, written in the letters a to z, digits and hyphens: first the
ASCII characters, then a hyphen, then for each other character, in ascending order, how many places
and code points further on it stands. These counts are numbers of digits in base 36, whose last
digit is below a threshold that moves with the size of the counts before.
-/

namespace SkillPlan.Http.Name.Punycode

/-! ## Digits -/

/-- The number of digits. -/
def base : Nat := 36

/-- The least threshold. -/
def leastThreshold : Nat := 1

/-- The greatest threshold. -/
def greatestThreshold : Nat := 26

/-- How far the thresholds lie from the first digit at the start. -/
def startBias : Nat := 72

/-- The first code point beyond ASCII. -/
def firstBeyond : Nat := 0x80

/-- The character of a digit. -/
def digitChar (d : Nat) : Char :=
  if d < 26 then Char.ofNat ('a'.toNat + d) else Char.ofNat ('0'.toNat + (d - 26))

/-- The digit of a character. -/
def digit? (c : Char) : Option Nat :=
  if 'a' ≤ c && c ≤ 'z' then some (c.toNat - 'a'.toNat)
  else if c.isDigit then some (c.toNat - '0'.toNat + 26)
  else none

/-- The threshold of the digit that stands at `place`. -/
def threshold (bias place : Nat) : Nat :=
  max leastThreshold (min greatestThreshold (place - bias))

theorem threshold_pos (bias place : Nat) : 0 < threshold bias place :=
  Nat.lt_of_lt_of_le Nat.one_pos (Nat.le_max_left ..)

/-- How far the thresholds move for a count, scaled down step by step. -/
def scaledBias (count bias : Nat) : Nat :=
  if h : count ≤ (base - leastThreshold) * greatestThreshold / 2 then
    bias + base * count / (count + 38)
  else scaledBias (count / (base - leastThreshold)) (bias + base)
termination_by count
decreasing_by
  simp only [base, leastThreshold, greatestThreshold] at *
  omega

/-- The bias after a count, when `written` characters stand in the label. -/
def nextBias (count written : Nat) (isFirst : Bool) : Nat :=
  let count := if isFirst then count / 700 else count / 2
  scaledBias (count + count / written) 0

/-! ## Writing -/

/-- The digits of a count, from the one at `place` on. -/
def countDigits (bias place count : Nat) : List Char :=
  let t := threshold bias place
  if _h : count < t then [digitChar count]
  else
    digitChar (t + (count - t) % (base - t)) ::
      countDigits bias (place + base) ((count - t) / (base - t))
termination_by count
decreasing_by
  have h₁ := threshold_pos bias place
  have h₂ : (count - threshold bias place) / (base - threshold bias place) ≤
      count - threshold bias place := Nat.div_le_self ..
  omega

/-- What is known while a label is written: the digits so far, the count since the last character
    that was written, the bias, and how many characters are written. -/
structure Writing where
  digits : List Char := []
  count : Nat := 0
  bias : Nat := startBias
  written : Nat

/-- Passes a character of the label while the code point `n` is written. -/
def Writing.pass (plain n : Nat) (w : Writing) (c : Char) : Writing :=
  if c.toNat < n then { w with count := w.count + 1 }
  else if c.toNat = n then
    { digits := w.digits ++ countDigits w.bias base w.count
      count := 0
      bias := nextBias w.count (w.written + 1) (w.written = plain)
      written := w.written + 1 }
  else w

/-- Writes the code points given, in ascending order, each after `last`. -/
def Writing.all (label : List Char) (plain : Nat) : Nat → List Nat → Writing → Writing
  | _, [], w => w
  | last, n :: rest, w =>
    let w := { w with count := w.count + (n - last) * (w.written + 1) }
    let w := label.foldl (Writing.pass plain n) w
    Writing.all label plain (n + 1) rest { w with count := w.count + 1 }

/-- The code points of a label that are beyond ASCII, each once, in ascending order. -/
def beyond (label : List Char) : List Nat :=
  (((label.map Char.toNat).filter (firstBeyond ≤ ·)).mergeSort).eraseDups

/-- The Punycode of a label. -/
def encode (label : List Char) : List Char :=
  let plain := label.filter (·.toNat < firstBeyond)
  let w := Writing.all label plain.length firstBeyond (beyond label) { written := plain.length }
  plain ++ (if plain.isEmpty then [] else ['-']) ++ w.digits

/-! ## Reading -/

/-- The bound of counts. -/
def countBound : Nat := Nat.pow 2 32

/-- Reads the digits of a count: the count, and what follows it. -/
def readCount? (bias place weight count : Nat) : List Char → Option (Nat × List Char)
  | [] => none
  | c :: rest => do
    let d ← digit? c
    let count := count + d * weight
    if countBound ≤ count then none
    else
      let t := threshold bias place
      if d < t then return (count, rest)
      else
        let weight := weight * (base - t)
        if countBound ≤ weight then none
        else readCount? bias (place + base) weight count rest

/-- Puts a character before the one at a position. -/
def insertAt (c : Char) : Nat → List Char → List Char
  | 0, cs => c :: cs
  | n + 1, x :: cs => x :: insertAt c n cs
  | _ + 1, [] => [c]

/-- Reads counts and puts a character into the label for each, at most `fuel` of them. `n` is the
    last code point and `position` the place behind it. -/
def insertAll (bias n position : Nat) (isFirst : Bool) (label : List Char) :
    Nat → List Char → Option (List Char)
  | _, [] => some label
  | 0, _ :: _ => none
  | fuel + 1, digits@(_ :: _) => do
    let (count, rest) ← readCount? bias base 1 0 digits
    let written := label.length + 1
    let total := position + count
    let n := n + total / written
    if h : n.isValidChar then
      let bias := nextBias count written isFirst
      let position := total % written
      insertAll bias n (position + 1) false
        (insertAt (Char.ofNatAux n h) position label) fuel rest
    else none

/-- The label of some Punycode. -/
def decode? (code : List Char) : Option (List Char) :=
  let digits := (code.reverse.takeWhile (· ≠ '-')).reverse
  let plain := code.take (code.length - digits.length - 1)
  if plain.isEmpty then insertAll startBias firstBeyond 0 true [] code.length code
  else insertAll startBias firstBeyond 0 true plain digits.length digits

end SkillPlan.Http.Name.Punycode

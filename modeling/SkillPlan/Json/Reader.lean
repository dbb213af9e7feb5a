import SkillPlan.Json.Raw
import SkillPlan.Json.Value

/-!
# Reading JSON

What the parts of a JSON text mean. A string must not hold half of a surrogate pair, a number must
be in the range of doubles, and at most `maxDepth` containers may be open at once. A whole number
that fits 64 bits is kept as it is. Every other number is read as a double: its digits, as far as
they fit 64 bits, make a whole number, and that is multiplied or divided by a power of ten.
-/

namespace SkillPlan.Json

open Number (Decimal Magnitude double)

/-! ## Numbers -/

/-- The first whole number that does not fit 64 bits. -/
def wordBound : Nat := Nat.pow 2 64

/-- The value of a digit. -/
def digitValue (c : Char) : Nat := c.toNat - '0'.toNat

/-- Appends digits to a whole number as long as it fits 64 bits: the number, and how many digits
    were left over. -/
def absorbDigits (n : Nat) : List Char → Nat × Nat
  | [] => (n, 0)
  | c :: rest =>
    if n * 10 + digitValue c < wordBound then absorbDigits (n * 10 + digitValue c) rest
    else (n, rest.length + 1)

/-- The value of a run of digits. -/
def digitsValue (cs : List Char) : Nat := cs.foldl (fun n c => n * 10 + digitValue c) 0

/-- A power of ten, as a double. -/
def tenTo (k : Nat) : Magnitude := double.ofDecimal 1 k

/-- `n * 10 ^ e` as a double, in one multiplication or division by a power of ten, or in two
    divisions where the power is out of range. `none` when the result is out of range. -/
def scaleTen (n : Nat) (e : Int) : Option Magnitude :=
  let x := double.round n 1
  if x.isZero then some x
  else if 308 < e then none
  else if 0 ≤ e then
    match x.mul double (tenTo e.toNat) with
    | .infinite => none
    | y => some y
  else if -308 ≤ e then some (x.div double (tenTo (-e).toNat))
  else if -616 ≤ e then
    let y := x.div double (tenTo 308)
    some (if y.isZero then y else y.div double (tenTo (-e - 308).toNat))
  else some (double.round 0 1)

/-- The size of a literal that is read as a double. -/
def Literal.magnitude? (n : Literal) : Option Magnitude :=
  let (sig, beyond) := absorbDigits 0 n.whole
  let (sig, left) := absorbDigits sig n.fraction
  let shift : Int := beyond - (n.fraction.length - left : Int)
  let power : Int :=
    match n.exponent with
    | none => 0
    | some (true, ds) => -(digitsValue ds : Int)
    | some (false, ds) => digitsValue ds
  scaleTen sig (shift + power)

/-- The number that a literal stands for, if it is in range. -/
def Literal.number? (n : Literal) : Option Num :=
  let (sig, beyond) := absorbDigits 0 n.whole
  if n.isWhole && beyond == 0 && !n.negative then some (.natural sig)
  else if n.isWhole && beyond == 0 && 1 ≤ sig && sig ≤ Nat.pow 2 63 then some (.negative sig)
  else
    match n.magnitude? with
    | some (.finite m q) => some (.decimal (Decimal.ofFinite double n.negative m q))
    | _ => none

/-! ## Strings -/

/-- The value of a digit in base 16. -/
def hexValue (c : Char) : Nat :=
  if c ≤ '9' then c.toNat - '0'.toNat
  else if c ≤ 'F' then c.toNat - 'A'.toNat + 10
  else c.toNat - 'a'.toNat + 10

/-- The value of four digits in base 16. -/
def hexValue4 (a b c d : Char) : Nat :=
  ((hexValue a * 16 + hexValue b) * 16 + hexValue c) * 16 + hexValue d

/-- The character of an escape of one character. -/
def shortEscape (c : Char) : Char :=
  match c with
  | 'b' => '\x08'
  | 'f' => '\x0c'
  | 'n' => '\n'
  | 'r' => '\r'
  | 't' => '\t'
  | c => c

/-- The characters that the body of a string stands for. -/
def unescape? : List Char → Option (List Char)
  | [] => some []
  | '\\' :: 'u' :: a :: b :: c :: d :: rest =>
    let n := hexValue4 a b c d
    if n < 0xD800 || 0xDFFF < n then (unescape? rest).map (Char.ofNat n :: ·)
    else if 0xDC00 ≤ n then none
    else
      match rest with
      | '\\' :: 'u' :: a :: b :: c :: d :: rest =>
        let m := hexValue4 a b c d
        if 0xDC00 ≤ m && m ≤ 0xDFFF then
          (unescape? rest).map (Char.ofNat (0x10000 + (n - 0xD800) * 0x400 + (m - 0xDC00)) :: ·)
        else none
      | _ => none
  | '\\' :: e :: rest => (unescape? rest).map (shortEscape e :: ·)
  | c :: rest => (unescape? rest).map (c :: ·)

/-- The text that the body of a string stands for. -/
def text? (body : List Char) : Option String := (unescape? body).map String.ofList

/-! ## Values -/

/-- How many containers may be open at once. -/
def maxDepth : Nat := 127

mutual
/-- The value of a text taken apart, with at most `levels` containers open at once. -/
def ofRaw? (levels : Nat) : Raw → Option Json
  | .null => some .null
  | .bool b => some (.bool b)
  | .num n => n.number?.map .num
  | .str body => (text? body).map .str
  | .arr items => if levels = 0 then none else (itemsOfRaw? (levels - 1) items).map .arr
  | .obj fields => if levels = 0 then none else (fieldsOfRaw? (levels - 1) fields []).map .obj

/-- The values of the items of an array. -/
def itemsOfRaw? (levels : Nat) : List Raw → Option (List Json)
  | [] => some []
  | x :: rest => do
    let v ← ofRaw? levels x
    let vs ← itemsOfRaw? levels rest
    return v :: vs

/-- The fields of an object, added to those already read. -/
def fieldsOfRaw? (levels : Nat) :
    List (List Char × Raw) → List (String × Json) → Option (List (String × Json))
  | [], done => some done
  | (key, x) :: rest, done => do
    let k ← text? key
    let v ← ofRaw? levels x
    fieldsOfRaw? levels rest (putField k v done)
end

/-- The value of a text that holds one value and nothing else. -/
def ofText? (s : String) : Option Json := (Raw.ofChars? s.toList).bind (ofRaw? maxDepth)

/-- Whether a character may follow a number or a word such as `null` at the start of a text. -/
def endsWord (cs : List Char) : Bool :=
  match cs with
  | [] => true
  | c :: _ => Raw.isSpace c || c == '"' || c == '[' || c == ']' || c == '\x7b' || c == '\x7d' ||
      c == ',' || c == ':'

/-- What a text begins with. -/
inductive First where
  | nothing
  | malformed
  | value (v : Json)

/-- The first value of a text, whatever follows it. -/
def firstOfText (s : String) : First :=
  let cs := Raw.skipSpace s.toList
  if cs.isEmpty then .nothing
  else
    match Raw.first? cs with
    | none => .malformed
    | some (raw, rest) =>
      match ofRaw? maxDepth raw with
      | none => .malformed
      | some v =>
        match v with
        | .str _ | .arr _ | .obj _ => .value v
        | _ => if endsWord rest then .value v else .malformed

end SkillPlan.Json

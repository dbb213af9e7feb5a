/-!
# Percent signs

Characters that a part of an address cannot hold stand there as the bytes of their UTF-8 form, each
a percent sign and two digits in base 16.
-/

namespace SkillPlan.Http

/-! ## Digits -/

/-- The value of a digit in base 16. -/
def hexDigit? (c : Char) : Option Nat :=
  if c.isDigit then some (c.toNat - '0'.toNat)
  else if 'a' ≤ c && c ≤ 'f' then some (c.toNat - 'a'.toNat + 10)
  else if 'A' ≤ c && c ≤ 'F' then some (c.toNat - 'A'.toNat + 10)
  else none

/-- The number that some digits stand for. -/
def ofDigits (base : Nat) (ds : List Nat) : Nat := ds.foldl (fun n d => n * base + d) 0

/-- The number that digits in base 10 stand for. -/
def decimal? (cs : List Char) : Option Nat :=
  if cs.all Char.isDigit then some (ofDigits 10 (cs.map fun c => c.toNat - '0'.toNat)) else none

/-! ## Writing -/

/-- A byte as a percent sign and two digits. -/
def percentByte (b : UInt8) : List Char :=
  let digit (n : Nat) : Char := (Nat.digitChar n).toUpper
  ['%', digit (b.toNat / 16), digit (b.toNat % 16)]

/-- Writes characters that are controls, not ASCII, or among `others` as bytes. -/
def percentEncode (others : List Char) (cs : List Char) : List Char :=
  cs.flatMap fun c =>
    if c.toNat ≤ 0x1F || 0x7F ≤ c.toNat || others.contains c then
      c.toString.toUTF8.toList.flatMap percentByte
    else [c]

/-- What the fragment cannot hold. -/
def fragmentEscapes : List Char := [' ', '"', '<', '>', '\x60']

/-- What the path cannot hold. -/
def pathEscapes : List Char := fragmentEscapes ++ ['#', '?', '\x7b', '\x7d']

/-- What the name and the password of a user cannot hold. -/
def userEscapes : List Char := pathEscapes ++ ['/', ':', ';', '=', '@', '[', '\\', ']', '^', '|']

/-- What the query cannot hold. -/
def queryEscapes : List Char := [' ', '"', '#', '<', '>']

/-- What the query of an address of the web cannot hold. -/
def webQueryEscapes : List Char := '\'' :: queryEscapes

/-! ## Reading -/

/-- The bytes of a text in which some are written with percent signs. -/
def percentBytes : List Char → List UInt8
  | '%' :: a :: b :: rest =>
    match hexDigit? a, hexDigit? b with
    | some high, some low => UInt8.ofNat (high * 16 + low) :: percentBytes rest
    | _, _ => '%'.toString.toUTF8.toList ++ percentBytes (a :: b :: rest)
  | c :: rest => c.toString.toUTF8.toList ++ percentBytes rest
  | [] => []

/-- The text in which some bytes are written with percent signs, if its bytes are one. -/
def percentDecode? (cs : List Char) : Option String :=
  String.fromUTF8? ⟨(percentBytes cs).toArray⟩

end SkillPlan.Http

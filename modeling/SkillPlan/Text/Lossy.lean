/-!
# Bytes read as text

Bytes that are not the UTF-8 form of a text are read as one all the same: what can begin no
character, or breaks off within one, becomes the replacement character.
-/

namespace SkillPlan.Text

/-- The replacement character. -/
def replacement : Char := '\uFFFD'

/-- A character that has begun: its bits so far, the bytes still to come, and the range of the next
    of them. -/
structure Begun where
  bits : Nat
  missing : Nat
  low : Nat := 0x80
  high : Nat := 0xBF

/-- What a byte means where no character has begun. -/
def beginChar (b : Nat) : List Char × Option Begun :=
  if b < 0x80 then ([Char.ofNat b], none)
  else if b < 0xC2 then ([replacement], none)
  else if b < 0xE0 then ([], some { bits := b - 0xC0, missing := 1 })
  else if b = 0xE0 then ([], some { bits := 0, missing := 2, low := 0xA0 })
  else if b = 0xED then ([], some { bits := 0xD, missing := 2, high := 0x9F })
  else if b < 0xF0 then ([], some { bits := b - 0xE0, missing := 2 })
  else if b = 0xF0 then ([], some { bits := 0, missing := 3, low := 0x90 })
  else if b < 0xF4 then ([], some { bits := b - 0xF0, missing := 3 })
  else if b = 0xF4 then ([], some { bits := 4, missing := 3, high := 0x8F })
  else ([replacement], none)

/-- What a byte means behind a character that may have begun. -/
def nextByte (begun : Option Begun) (b : Nat) : List Char × Option Begun :=
  match begun with
  | none => beginChar b
  | some s =>
    if s.low ≤ b && b ≤ s.high then
      let bits := s.bits * 64 + (b - 0x80)
      if s.missing ≤ 1 then ([Char.ofNat bits], none)
      else ([], some { bits := bits, missing := s.missing - 1 })
    else
      let (cs, begun) := beginChar b
      (replacement :: cs, begun)

/-- Adds what a byte means to characters that are kept last one first. -/
def addByte (read : List Char × Option Begun) (b : UInt8) : List Char × Option Begun :=
  let (cs, begun) := nextByte read.2 b.toNat
  (cs.reverse ++ read.1, begun)

/-- The text of some bytes. -/
def ofBytes (bs : List UInt8) : String :=
  let (cs, begun) := bs.foldl addByte ([], none)
  String.ofList (if begun.isSome then replacement :: cs else cs).reverse

end SkillPlan.Text

import SkillPlan.Http.Name
import SkillPlan.Http.Percent

/-!
# Hosts

A host is given by its name or by its number, which has 32 or 128 bits. There are many ways to write
a number; the text of a host has one for each.
-/

namespace SkillPlan.Http

/-- A host: a name, a number of 32 bits, or one of 128 bits in eight pieces. -/
inductive Host where
  | name (s : String)
  | short (n : Nat)
  | long (pieces : List Nat)
  deriving DecidableEq, Repr

namespace Host

/-! ## Numbers of 32 bits -/

/-- A part of a number: in base 16 behind `0x`, in base 8 behind `0`, and in base 10 else. -/
def part? (cs : List Char) : Option Nat :=
  let digits (base : Nat) (cs : List Char) : Option Nat := do
    let ds ← cs.mapM hexDigit?
    if ds.all (· < base) then some (ofDigits base ds) else none
  match cs with
  | [] => none
  | '0' :: 'x' :: rest | '0' :: 'X' :: rest => digits 16 rest
  | '0' :: d :: rest => digits 8 (d :: rest)
  | cs => digits 10 cs

/-- The parts of a name; a point at the end begins none. -/
def nameParts (cs : List Char) : List (List Char) :=
  let parts := Text.splitChars '.' cs
  if 1 < parts.length && parts.getLast? = some [] then parts.dropLast else parts

/-- Whether the last part of a name is a number, so that the whole has to be one. -/
def endsInNumber (cs : List Char) : Bool :=
  (nameParts cs).getLast?.any fun last =>
    (!last.isEmpty && last.all Char.isDigit) || (part? last).isSome

/-- The number that parts stand for: each but the last is a byte, and the last fills the rest. -/
def joinParts? (parts : List Nat) : Option Nat := do
  let last ← parts.getLast?
  let bytes := parts.dropLast
  if 4 < parts.length || bytes.any (255 < ·) || Nat.pow 256 (4 - bytes.length) ≤ last then none
  else return ofDigits 256 bytes * Nat.pow 256 (4 - bytes.length) + last

/-- Reads a number of 32 bits. -/
def short? (cs : List Char) : Option Nat :=
  ((nameParts cs).mapM part?).bind joinParts?

/-- The four bytes of a number with points between them. -/
def shortText (n : Nat) : String :=
  let bytes := [n / Nat.pow 256 3 % 256, n / Nat.pow 256 2 % 256, n / 256 % 256, n % 256]
  ".".intercalate (bytes.map toString)

/-! ## Numbers of 128 bits -/

/-- The pieces of a number of 128 bits. -/
def pieceCount : Nat := 8

/-- A piece: up to four digits in base 16. -/
def piece? (cs : List Char) : Option Nat :=
  if cs.isEmpty || 4 < cs.length then none else (cs.mapM hexDigit?).map (ofDigits 16)

/-- A byte in base 10, which has no zeros in front. -/
def byte? (cs : List Char) : Option Nat := do
  if cs.isEmpty || (1 < cs.length && cs.head? = some '0') then none
  else
    let n ← decimal? cs
    if n ≤ 255 then return n else none

/-- Four bytes with points between them, as two pieces. -/
def bytePieces? (cs : List Char) : Option (List Nat) := do
  match ← (Text.splitChars '.' cs).mapM byte? with
  | [a, b, c, d] => return [a * 256 + b, c * 256 + d]
  | _ => none

/-- The pieces of a row with colons between them. Where the number ends with the row, the last of it
    may be four bytes. -/
def row? (isLast : Bool) : List (List Char) → Option (List Nat)
  | [] => some []
  | [cs] => if isLast && cs.contains '.' then bytePieces? cs else (piece? cs).map ([·])
  | cs :: rest => do
    let n ← piece? cs
    let ns ← row? isLast rest
    return n :: ns

/-- The row before a pair of colons and the row after it. -/
def cutAtPair (cs : List Char) : Option (List Char × List Char) :=
  match cs with
  | ':' :: ':' :: rest => some ([], rest)
  | c :: rest => (cutAtPair rest).map fun r => (c :: r.1, r.2)
  | [] => none

/-- The pieces of one side of a pair of colons. -/
def side? (isLast : Bool) (cs : List Char) : Option (List Nat) :=
  if cs.isEmpty then some [] else row? isLast (Text.splitChars ':' cs)

/-- Reads a number of 128 bits. A pair of colons stands for one or more pieces that are zero. -/
def long? (cs : List Char) : Option (List Nat) := do
  match cutAtPair cs with
  | some (before, after) =>
    let front ← side? false before
    let back ← side? true after
    let given := front.length + back.length
    if given < pieceCount then return front ++ List.replicate (pieceCount - given) 0 ++ back
    else none
  | none =>
    let ns ← row? true (Text.splitChars ':' cs)
    if ns.length = pieceCount then return ns else none

/-- The length of the row of zeros at the start. -/
def zeros (ns : List Nat) : Nat := (ns.takeWhile (· = 0)).length

/-- The greatest length of a row of zeros. -/
def longestZeros : List Nat → Nat
  | [] => 0
  | n :: rest => max (zeros (n :: rest)) (longestZeros rest)

/-- The pieces before the first row of zeros of a length. -/
def beforeZeros (length : Nat) : List Nat → List Nat
  | [] => []
  | n :: rest => if zeros (n :: rest) = length then [] else n :: beforeZeros length rest

/-- Pieces with colons between them. -/
def rowText (ns : List Nat) : String :=
  ":".intercalate (ns.map fun n => String.ofList (Nat.toDigits 16 n))

/-- The text of a number of 128 bits, with a pair of colons for the first of the longest rows of
    zeros, unless that is a single one. -/
def longText (ns : List Nat) : String :=
  let most := longestZeros ns
  if most < 2 then rowText ns
  else
    let front := beforeZeros most ns
    rowText front ++ "::" ++ rowText (ns.drop (front.length + most))

/-! ## Hosts -/

/-- The text of a host in an address. -/
def text : Host → String
  | name s => s
  | short n => shortText n
  | long pieces => "[" ++ longText pieces ++ "]"

/-- The number in brackets, if the characters begin with one. -/
def bracketed? : List Char → Option (Option Host)
  | '[' :: rest =>
    some (if rest.getLast? = some ']' then (long? rest.dropLast).map long else none)
  | _ => none

/-- Reads the host of an address of the web. -/
def ofWeb? (cs : List Char) : Option Host :=
  match bracketed? cs with
  | some host => host
  | none => do
    let decoded ← percentDecode? cs
    let ascii ← Name.ascii? decoded.toList
    if ascii.isEmpty then none
    else if endsInNumber ascii then (short? ascii).map short
    else return name (String.ofList ascii)

/-- Whether no host can hold the character. -/
def isForbidden (c : Char) : Bool :=
  ['\x00', '\t', '\n', '\r', ' ', '#', '/', ':', '<', '>', '?', '@', '[', '\\', ']', '^',
    '|'].contains c

/-- Reads the host of any other address, whose names are kept as they are. -/
def ofForeign? (cs : List Char) : Option Host :=
  match bracketed? cs with
  | some host => host
  | none =>
    if cs.any isForbidden then none else some (name (String.ofList (percentEncode [] cs)))

end Host

end SkillPlan.Http

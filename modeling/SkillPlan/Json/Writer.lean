import SkillPlan.Json.Value

/-!
# Writing JSON

Two layouts. The compact one has no white space. The wide one puts every item on a line of its own,
two spaces further in than the container, and writes an empty container as a bare pair of brackets.
-/

namespace SkillPlan.Json

open Number (Decimal)

/-- Numbers in JSON text: positional from 0.00001 to below 1e16, and a signed exponent beyond. -/
def numberLayout : Decimal.Layout := ⟨-5, 16, true⟩

/-- Numbers of single precision in JSON text: positional from 0.000001 to below 1e13. -/
def singleLayout : Decimal.Layout := ⟨-6, 13, true⟩

/-- The characters of a number. -/
def Num.chars : Num → List Char
  | .natural n => Decimal.digitChars n
  | .negative n => '-' :: Decimal.digitChars n
  | .decimal d => d.chars numberLayout
  | .single d => d.chars singleLayout

/-- The digits of a small number, two of them, in base 16. -/
def twoHex (n : Nat) : List Char := [Nat.digitChar (n / 16 % 16), Nat.digitChar (n % 16)]

/-- One character inside a string. -/
def escapeChar (c : Char) : List Char :=
  match c with
  | '"' => ['\\', '"']
  | '\\' => ['\\', '\\']
  | '\x08' => ['\\', 'b']
  | '\x0c' => ['\\', 'f']
  | '\n' => ['\\', 'n']
  | '\r' => ['\\', 'r']
  | '\t' => ['\\', 't']
  | c => if c.toNat < 0x20 then ['\\', 'u', '0', '0'] ++ twoHex c.toNat else [c]

/-- A text in quotes. -/
def quoteChars (cs : List Char) : List Char := '"' :: cs.flatMap escapeChar ++ ['"']

/-- A text in quotes. -/
def quote (s : String) : List Char := quoteChars s.toList

/-! ## Compact -/

mutual
/-- The value without any white space. -/
def compact : Json → List Char
  | .null => ['n', 'u', 'l', 'l']
  | .bool true => ['t', 'r', 'u', 'e']
  | .bool false => ['f', 'a', 'l', 's', 'e']
  | .num n => n.chars
  | .str s => quote s
  | .arr items => '[' :: compactItems items ++ [']']
  | .obj fields => '\x7b' :: compactFields fields ++ ['\x7d']

/-- Items with commas between them. -/
def compactItems : List Json → List Char
  | [] => []
  | [x] => compact x
  | x :: y :: rest => compact x ++ ',' :: compactItems (y :: rest)

/-- Fields with commas between them. -/
def compactFields : List (String × Json) → List Char
  | [] => []
  | [(k, v)] => quote k ++ ':' :: compact v
  | (k, v) :: f :: rest => quote k ++ ':' :: compact v ++ ',' :: compactFields (f :: rest)
end

/-- The compact text of a value. -/
def toText (v : Json) : String := String.ofList (compact v)

/-! ## Wide -/

/-- A new line, indented to the given level. -/
def newLine (level : Nat) : List Char := '\n' :: List.replicate (2 * level) ' '

mutual
/-- The value with every item on a line of its own; `level` is how far in the value stands. -/
def wide (level : Nat) : Json → List Char
  | .null => ['n', 'u', 'l', 'l']
  | .bool true => ['t', 'r', 'u', 'e']
  | .bool false => ['f', 'a', 'l', 's', 'e']
  | .num n => n.chars
  | .str s => quote s
  | .arr [] => ['[', ']']
  | .arr (x :: rest) => '[' :: wideItems (level + 1) (x :: rest) ++ newLine level ++ [']']
  | .obj [] => ['\x7b', '\x7d']
  | .obj (f :: rest) => '\x7b' :: wideFields (level + 1) (f :: rest) ++ newLine level ++ ['\x7d']

/-- Items, each after a new line, with commas between them. -/
def wideItems (level : Nat) : List Json → List Char
  | [] => []
  | [x] => newLine level ++ wide level x
  | x :: y :: rest => newLine level ++ wide level x ++ ',' :: wideItems level (y :: rest)

/-- Fields, each after a new line, with commas between them. -/
def wideFields (level : Nat) : List (String × Json) → List Char
  | [] => []
  | [(k, v)] => newLine level ++ quote k ++ [':', ' '] ++ wide level v
  | (k, v) :: f :: rest =>
    newLine level ++ quote k ++ [':', ' '] ++ wide level v ++ ',' :: wideFields level (f :: rest)
end

/-- The wide text of a value. -/
def toWideText (v : Json) : String := String.ofList (wide 0 v)

end SkillPlan.Json

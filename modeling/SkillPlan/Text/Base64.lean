/-!
# Base 64

Bytes as letters, digits and two marks, four characters for three bytes.
-/

namespace SkillPlan.Text

/-- The digits of base 64. -/
def base64Digits : List Char :=
  "ABCDEFGHIJKLMNOPQRSTUVWXYZabcdefghijklmnopqrstuvwxyz0123456789+/".toList

/-- The digit at a place of a number, the last one being at place 0. -/
def base64Digit (n place : Nat) : Char := base64Digits.getD (n / Nat.pow 64 place % 64) '='

/-- The bytes in base 64, filled up to four characters. -/
def base64 : List UInt8 → List Char
  | a :: b :: c :: rest =>
    let n := (a.toNat * 256 + b.toNat) * 256 + c.toNat
    [3, 2, 1, 0].map (base64Digit n) ++ base64 rest
  | [a, b] => [3, 2, 1].map (base64Digit ((a.toNat * 256 + b.toNat) * 256)) ++ ['=']
  | [a] => [3, 2].map (base64Digit (a.toNat * 256 * 256)) ++ ['=', '=']
  | [] => []

end SkillPlan.Text

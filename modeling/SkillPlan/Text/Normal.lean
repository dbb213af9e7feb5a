import SkillPlan.Text.Composites
import SkillPlan.Text.Marks

/-!
# The normal form of text

One text can be written in several ways, with letters and marks apart or together. Its normal form
takes every composite apart, puts the marks after each letter in the order of their classes, and
puts together again what can be.
-/

namespace SkillPlan.Text

/-! ## Taking apart -/

/-- The first of the Hangul syllables. -/
def firstSyllable : Nat := 0xAC00

/-- The first of the consonants that begin a syllable. -/
def firstLead : Nat := 0x1100

/-- How many consonants begin a syllable. -/
def leadCount : Nat := 19

/-- The first of the vowels. -/
def firstVowel : Nat := 0x1161

/-- How many vowels there are. -/
def vowelCount : Nat := 21

/-- The code point before the first of the consonants that end a syllable. -/
def noTail : Nat := 0x11A7

/-- How many ways a syllable can end, one of which is without a consonant. -/
def tailCount : Nat := 28

/-- How many syllables there are. -/
def syllableCount : Nat := leadCount * vowelCount * tailCount

/-- The parts of a Hangul syllable. -/
def syllableParts (n : Nat) : List Nat :=
  let i := n - firstSyllable
  let tail := i % tailCount
  [firstLead + i / (vowelCount * tailCount),
    firstVowel + i % (vowelCount * tailCount) / tailCount] ++
    if tail = 0 then [] else [noTail + tail]

/-- What a code point stands for under a second number. -/
def double? : List (Nat × List Nat) → Nat → Option Nat
  | [], _ => none
  | (first, others) :: rest, n =>
    if n < first then none
    else if n < first + others.length then others[n - first]? else double? rest n

/-- The parts of a code point, if it has any. -/
def parts? (n : Nat) : Option (List Nat) :=
  if firstSyllable ≤ n && n < firstSyllable + syllableCount then some (syllableParts n)
  else
    match composites.find? (·.1 = n), divided.lookup n, double? doubles n with
    | some (_, first, second), _, _ => some [first, second]
    | none, some parts, _ => some parts
    | none, none, some other => some [other]
    | none, none, none => none

/-- How often parts have parts themselves. -/
def partsDepth : Nat := 4

/-- The code points that a code point is made of, parts being taken apart at most `fuel` times. -/
def takeApart : Nat → Nat → List Nat
  | 0, n => [n]
  | fuel + 1, n =>
    match parts? n with
    | some parts => parts.flatMap (takeApart fuel)
    | none => [n]

/-! ## Order -/

/-- Puts a code point before the others, behind the marks of lesser classes. -/
def insertMark (n : Nat) : List Nat → List Nat
  | [] => [n]
  | m :: rest =>
    if 0 < combiningClass m && combiningClass m < combiningClass n then m :: insertMark n rest
    else n :: m :: rest

/-- Puts the marks after each letter in the order of their classes. -/
def orderMarks : List Nat → List Nat
  | [] => []
  | n :: rest => insertMark n (orderMarks rest)

/-! ## Putting together -/

/-- The syllable that two parts make. -/
def syllable? (first second : Nat) : Option Nat :=
  if firstLead ≤ first && first < firstLead + leadCount &&
      firstVowel ≤ second && second < firstVowel + vowelCount then
    some (firstSyllable +
      ((first - firstLead) * vowelCount + (second - firstVowel)) * tailCount)
  else if firstSyllable ≤ first && first < firstSyllable + syllableCount &&
      (first - firstSyllable) % tailCount = 0 && noTail < second && second < noTail + tailCount then
    some (first + (second - noTail))
  else none

/-- The composite of two parts. -/
def composite? (first second : Nat) : Option Nat :=
  match syllable? first second with
  | some n => some n
  | none => (composites.find? fun c => c.2.1 = first && c.2.2 = second).map (·.1)

/-- Puts together what follows a letter. `passed` holds the code points that did not join the
    letter, last one first; one behind a mark of its own or a greater class cannot join it. -/
def joinTo (letter : Nat) (passed : List Nat) : List Nat → List Nat
  | [] => letter :: passed.reverse
  | n :: rest =>
    let free := match passed with
      | [] => true
      | m :: _ => combiningClass m < combiningClass n
    match if free then composite? letter n else none with
    | some whole => joinTo whole passed rest
    | none =>
      if combiningClass n = 0 then letter :: passed.reverse ++ joinTo n [] rest
      else joinTo letter (n :: passed) rest

/-- Puts together what can be. Marks before the first letter stay as they are. -/
def putTogether : List Nat → List Nat
  | [] => []
  | n :: rest => if combiningClass n = 0 then joinTo n [] rest else n :: putTogether rest

/-- The normal form of the characters. -/
def normalForm (cs : List Char) : List Char :=
  (putTogether (orderMarks (cs.flatMap fun c => takeApart partsDepth c.toNat))).map Char.ofNat

end SkillPlan.Text

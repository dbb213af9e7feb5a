import SkillPlan.Http.Name.Joining
import SkillPlan.Http.Name.Punycode
import SkillPlan.Text.Normal
import SkillPlan.Text.Split

/-!
# Names of hosts

A name is a row of labels with points between them. Written by people it may hold letters of any
script; the network knows it by its ASCII form, where every label with other letters is spelled in
Punycode behind the mark `xn--`. Two spellings of one name have the same ASCII form.
-/

namespace SkillPlan.Http.Name

/-- What a label in Punycode begins with. -/
def punycodeMark : List Char := ['x', 'n', '-', '-']

/-- The characters that a label may have when it is spelled in Punycode. -/
def maxEncoded : Nat := 1000

/-- The characters of Punycode that are read. -/
def maxDecoded : Nat := 2000

/-- Whether a name cannot hold the ASCII character. -/
def isForbidden (c : Char) : Bool :=
  c.toNat ≤ 0x20 || c.toNat == 0x7F ||
    ['#', '%', '/', ':', '<', '>', '?', '@', '[', '\\', ']', '^', '|'].contains c

/-- Whether all characters are ASCII. -/
def isPlain (cs : List Char) : Bool := cs.all (·.toNat < 0x80)

/-- A label: its characters and its ASCII form. -/
structure Label where
  letters : List Char
  ascii : List Char
  deriving DecidableEq, Repr

/-- Whether the characters can be a label with characters beyond ASCII. -/
def isLabel (cs : List Char) : Bool :=
  !(cs.head?.any Text.isMark) && joinersAllowed [] cs

/-- The letters of a label that is given in Punycode: such as stand for themselves, in their normal
    form, and not what could be given without Punycode. -/
def ofPunycode? (code : List Char) : Option (List Char) := do
  let letters ← if maxDecoded < code.length then none else Punycode.decode? code
  if !isPlain letters && letters.all (fun c => form? c = some [c]) &&
      Text.normalForm letters = letters && !punycodeMark.isPrefixOf letters && isLabel letters
  then return letters else none

/-- The label of some characters in normal form. -/
def label? (cs : List Char) : Option Label :=
  if cs.any isForbidden then none
  else if punycodeMark.isPrefixOf cs then
    if isPlain cs then (ofPunycode? (cs.drop punycodeMark.length)).map (⟨·, cs⟩) else none
  else if isPlain cs then some ⟨cs, cs⟩
  else if isLabel cs && cs.length ≤ maxEncoded then
    some ⟨cs, punycodeMark ++ Punycode.encode cs⟩
  else none

/-- The labels of a name, if all of them are labels and can stand side by side. -/
def labels? (cs : List Char) : Option (List Label) := do
  let forms ← cs.mapM form?
  let labels ← (Text.splitChars '.' (Text.normalForm forms.flatten)).mapM label?
  if labels.any (·.letters.any isRightward) && !labels.all (isOrderly ·.letters) then none
  else return labels

/-- The ASCII form of a name. -/
def ascii? (cs : List Char) : Option (List Char) :=
  (labels? cs).map fun labels => ['.'].intercalate (labels.map (·.ascii))

end SkillPlan.Http.Name

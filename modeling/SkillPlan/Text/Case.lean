import SkillPlan.Text.CaseTables

/-!
# Letter case

The full upper case and lower case forms of a text. A character may become several, and the
capital sigma has a lower case form of its own at the end of a word.
-/

namespace SkillPlan.Text

/-- The form of one character, read from a table of expansions and one of single images. -/
def caseForm (expansions : List (Nat × List Nat)) (runs : List CaseRun) (c : Char) : List Char :=
  match expansions.lookup c.toNat with
  | some form => form.map Char.ofNat
  | none => [((caseImage runs c.toNat).map Char.ofNat).getD c]

/-- The upper case form of the text. -/
def upper (s : String) : String :=
  String.ofList (s.toList.flatMap (caseForm upperExpansions upperRuns))

/-- Whether the first character that is not passed over has a case. -/
def startsCased (cs : List Char) : Bool :=
  match cs.dropWhile fun c => inRanges caseIgnorableRanges c.toNat with
  | [] => false
  | c :: _ => inRanges casedRanges c.toNat

/-- The lower case form of the characters; `before` holds those already passed, last one first.
    A capital sigma that ends a word becomes the final sigma. -/
def lowerFrom (before : List Char) : List Char → List Char
  | [] => []
  | c :: rest =>
    let form :=
      if c = 'Σ' then
        if startsCased before && !startsCased rest then ['ς'] else ['σ']
      else caseForm lowerExpansions lowerRuns c
    form ++ lowerFrom (c :: before) rest

/-- The lower case form of the text. -/
def lower (s : String) : String := String.ofList (lowerFrom [] s.toList)

end SkillPlan.Text

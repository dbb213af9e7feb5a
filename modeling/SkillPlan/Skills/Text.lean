import SkillPlan.Function
import SkillPlan.Text.Blank
import SkillPlan.Text.Case

/-!
# Text skills

Functions of the main value: letter case, trimming, length and concatenation.
-/

namespace SkillPlan.Skills

variable {W : Type}

/-- The collection of the text functions. -/
def textCollection : String := "TextSkill"

/-- The view of a text function. -/
def textView (name description : String) (parameters : List ParameterView) : FunctionView where
  collection := textCollection
  name := name
  description := description
  parameters := parameters

/-- The text functions. -/
def textFunctions : List (SkillFunction W) :=
  [.ofText (textView "Uppercase" "Convert a string to uppercase" []) fun b => Text.upper b.input,
    .ofText (textView "Lowercase" "Convert a string to lowercase" []) fun b => Text.lower b.input,
    .ofText (textView "Trim" "Trim whitespace from the start and end of a string" [])
      fun b => Text.trim b.input,
    .ofText (textView "Length" "Get the length of a string" []) fun b => toString b.input.length,
    .ofText (textView "Concat" "Concatenate two strings into one"
        [⟨"input2", "Second string to append", none⟩])
      fun b => b.input ++ (b.get? "input2").getD ""]

end SkillPlan.Skills

import SkillPlan.Registry
import SkillPlan.Skills.Files
import SkillPlan.Skills.Text
import SkillPlan.Skills.Time

/-!
# Core skills

The functions that are there without any further registration.
-/

namespace SkillPlan.Skills

variable {W : Type} [Holds Moment W] [Holds FileTree W]

/-- The core functions. -/
def coreFunctions : List (SkillFunction W) := textFunctions ++ timeFunctions ++ fileFunctions

/-- The registry of the core functions. -/
def coreRegistry : Registry W := .ofList coreFunctions

end SkillPlan.Skills

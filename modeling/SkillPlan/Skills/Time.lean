import SkillPlan.Calendar
import SkillPlan.Function

/-!
# Time skills

Functions that read the clock of the world.
-/

namespace SkillPlan.Skills

variable {W : Type} [Holds Moment W]

/-- The collection of the time functions. -/
def timeCollection : String := "TimeSkill"

/-- A function that writes down the moment of the call. -/
def timeFunction (name description : String) (write : Moment → String) : SkillFunction W :=
  .native { collection := timeCollection, name := name, description := description }
    fun _ w => (.ok (write (Holds.get w)), w)

/-- The time functions. -/
def timeFunctions : List (SkillFunction W) :=
  [timeFunction "Today" "Get the current date" Moment.today,
    timeFunction "Now" "Get the current date and time in the local time zone" Moment.now,
    timeFunction "Time" "Get the current time" Moment.time,
    timeFunction "Year" "Get the current year" Moment.yearText]

end SkillPlan.Skills

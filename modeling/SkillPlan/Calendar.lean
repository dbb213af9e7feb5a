/-!
# Dates and times of day

A moment as the calendar and the clock show it, and the texts in which it is written.
-/

namespace SkillPlan

/-- A date of the Gregorian calendar, extended to all years, and a time of day. -/
structure Moment where
  year : Int
  month : Nat
  day : Nat
  hour : Nat
  minute : Nat
  second : Nat
  deriving DecidableEq, Repr, Inhabited

namespace Moment

/-! ## Days -/

/-- The days before a date, counted from 1 March of the year 0. Years begin in March here, so that
    the day of a leap year comes last. -/
def dayNumber (year : Int) (month day : Nat) : Int :=
  let shifted : Int := if month ≤ 2 then year - 1 else year
  let fromMarch := (month + 9) % 12
  365 * shifted + shifted.fdiv 4 - shifted.fdiv 100 + shifted.fdiv 400 +
    ((153 * fromMarch + 2) / 5 + day : Nat) - 1

/-- The day of the week, Sunday being 0. The first of March of the year 0 was a Wednesday. -/
def weekday (t : Moment) : Nat := ((dayNumber t.year t.month t.day + 3).emod 7).toNat

/-- The day number of 1 January 1970. -/
def epochDay : Int := dayNumber 1970 1 1

/-- The date with a day number. -/
def ofDayNumber (n : Int) : Int × Nat × Nat :=
  let era := n.fdiv 146097
  let dayOfEra := (n.emod 146097).toNat
  let yearOfEra :=
    (dayOfEra - dayOfEra / 1460 + dayOfEra / 36524 - dayOfEra / 146096) / 365
  let dayOfYear := dayOfEra - (365 * yearOfEra + yearOfEra / 4 - yearOfEra / 100)
  let fromMarch := (5 * dayOfYear + 2) / 153
  let day := dayOfYear - (153 * fromMarch + 2) / 5 + 1
  let month := if fromMarch < 10 then fromMarch + 3 else fromMarch - 9
  let year := era * 400 + yearOfEra
  (if month ≤ 2 then year + 1 else year, month, day)

/-- The moment a number of seconds after the start of 1970. -/
def ofSeconds (seconds : Int) : Moment :=
  let (year, month, day) := ofDayNumber (epochDay + seconds.fdiv 86400)
  let rest := (seconds.emod 86400).toNat
  ⟨year, month, day, rest / 3600, rest / 60 % 60, rest % 60⟩

/-! ## Texts -/

/-- The names of the days, from Sunday on. -/
def dayNames : List String :=
  ["Sunday", "Monday", "Tuesday", "Wednesday", "Thursday", "Friday", "Saturday"]

/-- The names of the months. -/
def monthNames : List String :=
  ["January", "February", "March", "April", "May", "June", "July", "August", "September",
    "October", "November", "December"]

/-- A number with at least the given count of digits. -/
def padded (width n : Nat) : String :=
  let digits := toString n
  String.ofList (List.replicate (width - digits.length) '0') ++ digits

/-- The year with at least four digits; one that is negative or has more than four shows its
    sign. -/
def yearText (t : Moment) : String :=
  if t.year < 0 then "-" ++ padded 4 t.year.natAbs
  else if 9999 < t.year then "+" ++ padded 4 t.year.natAbs
  else padded 4 t.year.natAbs

/-- The name of the day. -/
def dayName (t : Moment) : String := dayNames.getD t.weekday ""

/-- The name of the month. -/
def monthName (t : Moment) : String := monthNames.getD (t.month - 1) ""

/-- The hour on a clock face. -/
def hourOnFace (t : Moment) : Nat := if t.hour % 12 = 0 then 12 else t.hour % 12

/-- The half of the day. -/
def half (t : Moment) : String := if t.hour < 12 then "AM" else "PM"

/-- The date, as in `Sunday, 12 January, 2031`. -/
def today (t : Moment) : String :=
  t.dayName ++ ", " ++ padded 2 t.day ++ " " ++ t.monthName ++ ", " ++ t.yearText

/-- The date and the time, as in `Sunday, January 12, 2031 9:15 PM`. -/
def now (t : Moment) : String :=
  t.dayName ++ ", " ++ t.monthName ++ " " ++ padded 2 t.day ++ ", " ++ t.yearText ++ " " ++
    toString t.hourOnFace ++ ":" ++ padded 2 t.minute ++ " " ++ t.half

/-- The time, as in `09:15:43 PM`. -/
def time (t : Moment) : String :=
  padded 2 t.hourOnFace ++ ":" ++ padded 2 t.minute ++ ":" ++ padded 2 t.second ++ " " ++ t.half

end Moment

end SkillPlan

/-
# The civil calendar

Days of the proleptic Gregorian calendar are counted from 1 January 1970. The
year of a day is estimated from the mean length of a year and corrected by at
most one; the month is the last one that does not begin after the day.

Key definitions: `Calendar.daysBeforeYear`, `Calendar.daysBeforeMonth`,
`Calendar.yearOfDay`, `Calendar.monthOfDay`.
Key theorems: `Calendar.daysBeforeYear_succ`, `Calendar.yearOfDay_bounds`.
-/
namespace FleetTelemetry
namespace Calendar

/-- Every fourth year is a leap year, except those of the centuries that four does not divide. -/
def isLeap (year : Int) : Bool :=
  (year % 4 == 0 && year % 100 != 0) || year % 400 == 0

/-- The leap days up to the end of a year, counted from the year 1. -/
def leapDaysThrough (year : Int) : Int :=
  year / 4 - year / 100 + year / 400

/-- The day on which a year begins. -/
def daysBeforeYear (year : Int) : Int :=
  365 * (year - 1970) + (leapDaysThrough (year - 1) - leapDaysThrough 1969)

/-- The days of a year before one of its months. -/
def daysBeforeMonth (leap : Bool) (month : Nat) : Nat :=
  let february := if leap then 29 else 28
  match month with
  | 0 | 1 => 0
  | 2 => 31
  | 3 => 31 + february
  | 4 => 62 + february
  | 5 => 92 + february
  | 6 => 123 + february
  | 7 => 153 + february
  | 8 => 184 + february
  | 9 => 215 + february
  | 10 => 245 + february
  | 11 => 276 + february
  | 12 => 306 + february
  | _ => 337 + february

/-- The length of a month in days. -/
def daysInMonth (leap : Bool) (month : Nat) : Nat :=
  daysBeforeMonth leap (month + 1) - daysBeforeMonth leap month

/-- The year of a day. 400 years have 146097 days. -/
def yearOfDay (day : Int) : Int :=
  let estimate := 1970 + day * 400 / 146097
  if daysBeforeYear (estimate + 1) ≤ day then estimate + 1
  else if daysBeforeYear estimate ≤ day then estimate
  else estimate - 1

/-- The last month, of those up to `month`, that does not begin after a day of the year. -/
def lastMonthFrom (leap : Bool) (dayOfYear : Nat) : Nat → Nat
  | 0 => 1
  | month + 1 =>
    if daysBeforeMonth leap (month + 1) ≤ dayOfYear then month + 1
    else lastMonthFrom leap dayOfYear month

/-- The month of a day of the year, from 1 to 12. -/
def monthOfDay (leap : Bool) (dayOfYear : Nat) : Nat :=
  lastMonthFrom leap dayOfYear 12

/-- The day of the week, from 1 for Sunday to 7 for Saturday. -/
def weekday (day : Int) : Nat :=
  ((day + 4) % 7).toNat + 1

theorem daysBeforeYear_succ (year : Int) :
    daysBeforeYear (year + 1) = daysBeforeYear year + if isLeap year then 366 else 365 := by
  have : (year + 1 - 1) = year := by omega
  simp only [daysBeforeYear, leapDaysThrough, this, isLeap, Bool.or_eq_true, Bool.and_eq_true,
    beq_iff_eq, bne_iff_ne]
  split <;> omega

/-- A day lies in its year. -/
theorem yearOfDay_bounds (day : Int) :
    daysBeforeYear (yearOfDay day) ≤ day ∧ day < daysBeforeYear (yearOfDay day + 1) := by
  unfold yearOfDay
  simp only
  split
  · rename_i h
    refine ⟨h, ?_⟩
    simp only [daysBeforeYear, leapDaysThrough]
    omega
  · split
    · rename_i h₁ h₂
      exact ⟨h₂, by omega⟩
    · rename_i h₁ h₂
      rw [Int.sub_add_cancel]
      refine ⟨?_, by omega⟩
      simp only [daysBeforeYear, leapDaysThrough]
      omega

end Calendar
end FleetTelemetry

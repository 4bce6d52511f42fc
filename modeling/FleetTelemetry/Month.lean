/-
# Months

Raw rows are kept apart by calendar month in UTC, in one table each. A month
has a table name, bounds on the time line, and a place among the months.

Key definitions: `Month`, `Month.of?`, `Month.containing?`, `Month.name`,
`Month.ofName?`, `Month.ofTables`, `Month.next`, `Month.start`, `Month.stop`,
`Month.overlaps`, `Month.inWindow`.
-/
import FleetTelemetry.Calendar
import FleetTelemetry.Text.Digits
import FleetTelemetry.Timeline
import FleetTelemetry.Word

namespace FleetTelemetry

/-- A year and the number of a month in it, which is from 1 to 12 for a month of the calendar. -/
structure Month where
  year : Int
  number : Nat
  deriving DecidableEq, Repr, Inhabited

namespace Month

/-- A month of the calendar. -/
def Valid (m : Month) : Prop := 1 ≤ m.number ∧ m.number ≤ 12

instance (m : Month) : Decidable m.Valid := inferInstanceAs (Decidable (_ ∧ _))

/-- Earlier years come first, then earlier months. -/
def Before (m n : Month) : Prop := m.year < n.year ∨ (m.year = n.year ∧ m.number < n.number)

instance (m n : Month) : Decidable (m.Before n) := inferInstanceAs (Decidable (_ ∨ _))

instance : LT Month := ⟨Before⟩

instance : DecidableLT Month := fun m n => inferInstanceAs (Decidable (m.Before n))

/-- The month with a number from 1 to 12. -/
def of? (year : Int) (number : Nat) : Option Month :=
  if 1 ≤ number ∧ number ≤ 12 then some ⟨year, number⟩ else none

/-! ### The time line -/

/-- The instants whose dates can be reckoned with: those of the years from -262143 to 262142. -/
def instantInRange (ts : Int) : Bool :=
  within (Calendar.daysBeforeYear (-262143) * millisPerDay)
    (Calendar.daysBeforeYear 262143 * millisPerDay - 1) ts

/-- The month of a day. -/
def ofDay (day : Int) : Month :=
  let year := Calendar.yearOfDay day
  ⟨year, Calendar.monthOfDay (Calendar.isLeap year) (day - Calendar.daysBeforeYear year).toNat⟩

/-- The month that holds an instant. -/
def containing? (ts : Int) : Option Month :=
  if instantInRange ts then some (ofDay (ts / millisPerDay)) else none

/-- The month after this one. -/
def next (m : Month) : Month :=
  if m.number = 12 then ⟨m.year + 1, 1⟩ else ⟨m.year, m.number + 1⟩

/-- The first instant of a month; one after all others for a month that cannot be reckoned with. -/
def start (m : Month) : Int :=
  if m.Valid ∧ -262143 ≤ m.year ∧ m.year ≤ 262142 then
    (Calendar.daysBeforeYear m.year
      + Calendar.daysBeforeMonth (Calendar.isLeap m.year) m.number) * millisPerDay
  else Word.maxSigned64

/-- The first instant after a month. -/
def stop (m : Month) : Int := m.next.start

/-- Whether an instant of the month lies between two instants, both included. -/
def overlaps (m : Month) (first last : Int) : Bool :=
  decide (m.start ≤ last) && decide (first < m.stop)

/-- The months of a list that have an instant in a window, in the order of the list. -/
def inWindow (months : List Month) (first last : Int) : List Month :=
  if last < first then [] else months.filter fun m => m.overlaps first last

/-! ### Table names -/

/-- How the name of every month's table begins. -/
def stem : List Char := "metrics_history_".toList

/-- The name of the table of a month: the year in four places or more, the month in two. -/
def nameChars (m : Month) : List Char :=
  stem ++ Digits.paddedInt 4 m.year ++ '_' :: Digits.padded 2 m.number

/-- The name of the table of a month. -/
def name (m : Month) : String := String.ofList m.nameChars

/-- What follows a text at the front of another. -/
def dropStem : List Char → List Char → Option (List Char)
  | [], text => some text
  | _ :: _, [] => none
  | s :: stem, c :: text => if s = c then dropStem stem text else none

/-- The month whose table bears a name. -/
def ofNameChars? (name : List Char) : Option Month := do
  let rest ← dropStem stem name
  let year := rest.takeWhile (· ≠ '_')
  let number ← (rest.dropWhile (· ≠ '_')).tail?
  if year.length = 4 ∧ number.length = 2 then
    of? (← Digits.int? year) (← Digits.nat? number)
  else none

/-- The month whose table bears a name: four characters for the year and two for the month, each a
number with an optional sign. -/
def ofName? (name : String) : Option Month := ofNameChars? name.toList

/-- Whether a text begins with a pattern, in which an underscore stands for any character; the case
of letters does not count. -/
def beginsLike : List Char → List Char → Bool
  | [], _ => true
  | _ :: _, [] => false
  | p :: pattern, c :: text => (p == '_' || p.toLower == c.toLower) && beginsLike pattern text

/-- The months whose tables are found among those of a database, oldest first. -/
def ofTables (names : List String) : List Month :=
  ((names.filter fun name => beginsLike stem name.toList).filterMap ofName?).mergeSort
    fun m n => !decide (n < m)

end Month
end FleetTelemetry

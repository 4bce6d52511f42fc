/-
# Fields of a schedule

A schedule says at which seconds, minutes, hours, days, months, weekdays and
years something happens, each as a list of specifiers: everything, a value, a
range, or every so many values of those. Months and weekdays have names.

Key definitions: `Schedule.Clock`, `Schedule.Specifier`, `Schedule.Item`,
`Schedule.Clock.values?`.
-/
import FleetTelemetry.Sorted

namespace FleetTelemetry
namespace Schedule

/-- A part of a date and time: its values and their names. -/
structure Clock where
  low : Nat
  high : Nat
  names : List (List String) := []
  /-- Whether a question mark says that any value will do. -/
  question : Bool := false

/-- Some values of a part. -/
inductive Specifier where
  | all
  | point (n : Nat)
  | range (first last : Nat)
  | named (first last : String)
  deriving DecidableEq, Repr

/-- An entry in the list of a part. -/
inductive Item where
  | plain (s : Specifier)
  /-- Every so many of some values. -/
  | every (s : Specifier) (step : Nat)
  | name (s : String)
  deriving DecidableEq, Repr

namespace Clock

def second : Clock := { low := 0, high := 59 }
def minute : Clock := { low := 0, high := 59 }
def hour : Clock := { low := 0, high := 23 }
def dayOfMonth : Clock := { low := 1, high := 31, question := true }

def month : Clock where
  low := 1
  high := 12
  names := [["jan", "january"], ["feb", "february"], ["mar", "march"], ["apr", "april"], ["may"],
    ["jun", "june"], ["jul", "july"], ["aug", "august"], ["sep", "september"],
    ["oct", "october"], ["nov", "november"], ["dec", "december"]]

/-- Weekdays begin with Sunday. -/
def weekday : Clock where
  low := 1
  high := 7
  names := [["sun", "sunday"], ["mon", "monday"], ["tue", "tues", "tuesday"],
    ["wed", "wednesday"], ["thu", "thurs", "thursday"], ["fri", "friday"], ["sat", "saturday"]]
  question := true

/-- The years that a schedule can name. -/
def year : Clock := { low := 1970, high := 2100 }

/-- The values from one to another. -/
def between (first last : Nat) : List Nat :=
  (List.range (last + 1 - first)).map (first + ·)

/-- All values of a part. -/
def all (c : Clock) : List Nat := between c.low c.high

/-- A value, if it is one of the part. -/
def value? (c : Clock) (n : Nat) : Option Nat :=
  if c.low ≤ n ∧ n ≤ c.high then some n else none

/-- The value with a name; the case of letters does not count. -/
def named? (c : Clock) (name : String) : Option Nat :=
  let name := String.ofList (name.toList.map Char.toLower)
  (c.names.findIdx? fun names => names.contains name).map (c.low + ·)

/-- The values from one to another, which must not be before it. -/
def range? (c : Clock) (first last : Nat) : Option (List Nat) := do
  let first ← c.value? first
  let last ← c.value? last
  if first ≤ last then some (between first last) else none

/-- The values of a specifier. -/
def specified? (c : Clock) : Specifier → Option (List Nat)
  | .all => some c.all
  | .point n => (c.value? n).map fun n => [n]
  | .range first last => c.range? first last
  | .named first last => do c.range? (← c.named? first) (← c.named? last)

/-- Every `step`-th value, beginning with the first. -/
def everyNth (step : Nat) (values : List Nat) : List Nat :=
  ((values.zipIdx).filter fun v => v.2 % step == 0).map Prod.fst

/-- The values of an entry. A step is from one to the greatest value; from a single value it goes on
to that. -/
def item? (c : Clock) : Item → Option (List Nat)
  | .plain s => c.specified? s
  | .every s step =>
    if 1 ≤ step ∧ step ≤ c.high then
      (match s with
        | .point n => c.range? n c.high
        | s => c.specified? s).map (everyNth step)
    else none
  | .name s => (c.named? s).map fun n => [n]

/-- The values of a list of entries, ascending. -/
def values? (c : Clock) (items : List Item) : Option (List Nat) :=
  (items.mapM c.item?).map fun values => Ascending.ofList values.flatten

end Clock
end Schedule
end FleetTelemetry

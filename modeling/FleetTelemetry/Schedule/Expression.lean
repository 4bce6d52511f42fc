/-
# Schedule expressions

A schedule is written in six or seven fields, seconds first and an optional
year last, or as one of five words behind an at sign. Blanks may stand around
every field, number and name, and are needed only where two numbers or two
names would run together. Within a field a star or a question mark takes none.

It fires at every whole second whose date and time are all among its values. The
next time is looked for day by day up to the last year that a schedule can name.

Key definitions: `Schedule`, `Schedule.readItem?`,
`Schedule.readField?`, `Schedule.ofText?`, `Schedule.firesOn`,
`Schedule.secondOfDay?`, `Schedule.nextAfter?`.
-/
import FleetTelemetry.Month
import FleetTelemetry.Schedule.Field
import FleetTelemetry.Text.Digits
import FleetTelemetry.Word

namespace FleetTelemetry

/-- The values that a schedule names for each part of a date and time. -/
structure Schedule where
  seconds : List Nat
  minutes : List Nat
  hours : List Nat
  daysOfMonth : List Nat
  months : List Nat
  weekdays : List Nat
  years : List Nat
  deriving DecidableEq, Repr

namespace Schedule

/-- Blanks and line breaks. -/
def isBlank (c : Char) : Bool := c == ' ' || c == '\t' || c == '\n' || c == '\r'

def dropBlanks (text : List Char) : List Char := text.dropWhile isBlank

/-- A number of at most 32 bits with blanks around it. -/
def readNumber? (text : List Char) : Option (Nat × List Char) :=
  let text := dropBlanks text
  ((Digits.value? 10 (text.takeWhile Digits.isDecimal)).filter (· < Word.size32)).map fun n =>
    (n, dropBlanks (text.dropWhile Digits.isDecimal))

/-- A name with blanks around it. -/
def readName? (text : List Char) : Option (String × List Char) :=
  let text := dropBlanks text
  let name := text.takeWhile Char.isAlpha
  if name.isEmpty then none
  else some (String.ofList name, dropBlanks (text.dropWhile Char.isAlpha))

/-- A character that has to stand right here. -/
def readHere? (c : Char) : List Char → Option (List Char)
  | d :: rest => if d = c then some rest else none
  | [] => none

/-- Two numbers with a hyphen right behind the blanks of the first. -/
def readRange? (text : List Char) : Option (Specifier × List Char) := do
  let (first, rest) ← readNumber? text
  let (last, rest) ← readNumber? (← readHere? '-' rest)
  return (.range first last, rest)

/-- Two names with a hyphen between them. -/
def readNamedRange? (text : List Char) : Option (Specifier × List Char) := do
  let (first, rest) ← readName? text
  let (last, rest) ← readName? (← readHere? '-' rest)
  return (.named first last, rest)

/-- Some values; a question mark only where it may stand for any. -/
def readSpecifier? (question : Bool) (text : List Char) : Option (Specifier × List Char) :=
  (if question then (readHere? '?' text).map fun rest => (Specifier.all, rest) else none)
    <|> (readHere? '*' text).map (fun rest => (Specifier.all, rest))
    <|> readRange? text
    <|> (readNumber? text).map (fun (n, rest) => (.point n, rest))
    <|> readNamedRange? text

/-- Values with a step behind a slash. -/
def readEvery? (question : Bool) (text : List Char) : Option (Item × List Char) := do
  let (s, rest) ← readSpecifier? question text
  let (step, rest) ← readNumber? (← readHere? '/' rest)
  return (.every s step, rest)

/-- An entry of a list. -/
def readItem? (question : Bool) (text : List Char) : Option (Item × List Char) :=
  readEvery? question text
    <|> (readSpecifier? question text).map (fun (s, rest) => (.plain s, rest))
    <|> (readName? text).map fun (s, rest) => (.name s, rest)

/-- Further entries, each behind a comma; a comma without one is left. -/
def readMore (question : Bool) : Nat → List Char → List Item × List Char
  | 0, text => ([], text)
  | fuel + 1, text =>
    match (readHere? ',' text).bind (readItem? question) with
    | none => ([], text)
    | some (item, rest) =>
      let (items, rest) := readMore question fuel rest
      (item :: items, rest)

/-- The values of one part, and the rest of the text. -/
def readField? (c : Clock) (text : List Char) : Option (List Nat × List Char) := do
  let (item, rest) ← readItem? c.question (dropBlanks text)
  let (items, rest) := readMore c.question rest.length rest
  let values ← c.values? (item :: items)
  return (values, dropBlanks rest)

/-- A schedule in six or seven fields. -/
def readFields? (text : List Char) : Option Schedule := do
  let (seconds, rest) ← readField? .second text
  let (minutes, rest) ← readField? .minute rest
  let (hours, rest) ← readField? .hour rest
  let (daysOfMonth, rest) ← readField? .dayOfMonth rest
  let (months, rest) ← readField? .month rest
  let (weekdays, rest) ← readField? .weekday rest
  let (years, rest) := (readField? .year rest).getD (Clock.year.all, rest)
  if rest.isEmpty then
    some { seconds, minutes, hours, daysOfMonth, months, weekdays, years }
  else none

/-- At the start of every hour. -/
def hourly : Schedule where
  seconds := [0]
  minutes := [0]
  hours := Clock.hour.all
  daysOfMonth := Clock.dayOfMonth.all
  months := Clock.month.all
  weekdays := Clock.weekday.all
  years := Clock.year.all

/-- At midnight. -/
def daily : Schedule := { hourly with hours := [0] }
/-- At midnight before a Sunday. -/
def weekly : Schedule := { daily with weekdays := [1] }
/-- At midnight before the first of a month. -/
def monthly : Schedule := { daily with daysOfMonth := [1] }
/-- At midnight before the first of January. -/
def yearly : Schedule := { monthly with months := [1] }

/-- The schedule of a word behind an at sign. -/
def ofWord? (text : List Char) : Option Schedule :=
  let word := dropBlanks (dropBlanks text).reverse
  match String.ofList word.reverse with
  | "@yearly" => some yearly
  | "@monthly" => some monthly
  | "@weekly" => some weekly
  | "@daily" => some daily
  | "@hourly" => some hourly
  | _ => none

/-- The schedule that a text spells. -/
def ofText? (text : String) : Option Schedule :=
  (ofWord? text.toList).or (readFields? text.toList)

/-! ### The next time -/

/-- Whether a schedule fires on a day at all. -/
def firesOn (s : Schedule) (day : Int) : Bool :=
  let m := Month.ofDay day
  let dayOfMonth := (day - m.start / millisPerDay).toNat + 1
  s.years.contains m.year.toNat && s.months.contains m.number &&
    s.daysOfMonth.contains dayOfMonth && s.weekdays.contains (Calendar.weekday day)

/-- The first second of a day, from one on, at which a schedule fires if it fires on that day. -/
def secondOfDay? (s : Schedule) (start : Nat) : Option Nat :=
  (s.hours.flatMap fun h => s.minutes.flatMap fun m => s.seconds.map fun sec =>
    h * 3600 + m * 60 + sec).find? fun t => decide (start ≤ t)

/-- The first time on a number of days, from a second of the first day on, in seconds. -/
def search (s : Schedule) : Nat → Int → Nat → Option Int
  | 0, _, _ => none
  | days + 1, day, start =>
    match if s.firesOn day then s.secondOfDay? start else none with
    | some t => some (day * 86400 + t)
    | none => search s days (day + 1) 0

/-- The first instant after `now` at which a schedule fires. -/
def nextAfter? (s : Schedule) (now : Int) : Option Int :=
  let second := now / 1000 + 1
  let day := second / 86400
  let lastDay := Calendar.daysBeforeYear (Clock.year.high + 1)
  (search s (lastDay - day).toNat day (second % 86400).toNat).map (· * 1000)

end Schedule
end FleetTelemetry

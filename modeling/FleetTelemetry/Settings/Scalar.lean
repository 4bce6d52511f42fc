/-
# Scalars of a settings text

A word without quotes is a truth value, an integer, a number with a fraction or
an exponent, or a date or time. Digits may be grouped by single underscores; a
decimal number has no zeros in front.

Key definitions: `Settings.Scalar.ofWord?`, `Settings.Scalar.isDate`,
`Settings.Scalar.isTime`, `Settings.Scalar.isMoment`.
-/
import FleetTelemetry.Calendar
import FleetTelemetry.Settings.Value
import FleetTelemetry.Text.Digits
import FleetTelemetry.Text.Parts

namespace FleetTelemetry
namespace Settings
namespace Scalar

/-- The digits of a run in which single underscores group them. -/
def grouped? (base : Nat) (cs : List Char) : Option (List Char) :=
  let groups := Parts.splitAt '_' cs
  if groups.all fun g => !g.isEmpty && g.all fun c => (Digits.digitIn? base c).isSome then
    some groups.flatten
  else none

/-- The digits of a decimal number: without zeros in front, unless it is zero. -/
def whole? (cs : List Char) : Option (List Char) :=
  (grouped? 10 cs).filter fun ds => ds.length == 1 || ds.head? != some '0'

/-- A sign, if there is one, and what follows it. -/
def signed : List Char → Bool × List Char
  | '-' :: cs => (true, cs)
  | '+' :: cs => (false, cs)
  | cs => (false, cs)

/-- Integers that can be held at all. -/
def holdable (n : Int) : Bool :=
  decide (-0x80000000000000000000000000000000 ≤ n)
    && decide (n < 0x100000000000000000000000000000000)

/-- An integer in base ten, or in another base behind its mark. -/
def integer? (word : List Char) : Option Value :=
  let inBase (base : Nat) (cs : List Char) : Option Int :=
    (grouped? base cs).bind fun ds => (Digits.value? base ds).map Int.ofNat
  let n? : Option Int := match word with
    | '0' :: 'x' :: cs => inBase 16 cs
    | '0' :: 'o' :: cs => inBase 8 cs
    | '0' :: 'b' :: cs => inBase 2 cs
    | _ =>
      let (negative, cs) := signed word
      ((whole? cs).bind (Digits.value? 10)).map fun n => if negative then -Int.ofNat n else n
  (n?.filter holdable).map .int

/-- A number with a fraction, an exponent, or both. -/
def fractional? (word : List Char) : Option Value := do
  let (negative, cs) := signed word
  let isMark (c : Char) : Bool := c == 'e' || c == 'E'
  let mantissa := cs.takeWhile fun c => !isMark c
  let exponent ← match cs.dropWhile fun c => !isMark c with
    | [] => some none
    | _ :: cs =>
      let (negative, cs) := signed cs
      ((grouped? 10 cs).bind (Digits.value? 10)).map fun n =>
        some (if negative then -Int.ofNat n else Int.ofNat n)
  let whole ← whole? (mantissa.takeWhile (· ≠ '.'))
  let fraction ← match mantissa.dropWhile (· ≠ '.') with
    | [] => if exponent.isSome then some [] else none
    | _ :: cs => grouped? 10 cs
  (Decimal.toFloat? negative (whole ++ fraction) (exponent.getD 0 - fraction.length)).map .float

/-- Infinity and what is not a number, with an optional sign. -/
def special? (word : List Char) : Option Value :=
  let (negative, cs) := signed word
  let infinity : Float := 1.0 / 0.0
  if cs = "inf".toList then some (.float (if negative then -infinity else infinity))
  else if cs = "nan".toList then some (.float (0.0 / 0.0))
  else none

/-! ### Dates and times -/

/-- A number of exactly two digits up to `high`. -/
def twoDigits? (high : Nat) : List Char → Option Nat
  | [a, b] => (Digits.value? 10 [a, b]).filter (· ≤ high)
  | _ => none

/-- A day of the calendar, `YYYY-MM-DD`. -/
def isDate (cs : List Char) : Bool :=
  match Parts.splitAt '-' cs with
  | [year, month, day] =>
    match Digits.value? 10 year, twoDigits? 12 month, twoDigits? 31 day with
    | some y, some m, some d =>
      year.length == 4 && 1 ≤ m && 1 ≤ d && d ≤ Calendar.daysInMonth (Calendar.isLeap y) m
    | _, _, _ => false
  | _ => false

/-- A time of day, `HH:MM`, with optional seconds and a fraction of them. -/
def isTime (cs : List Char) : Bool :=
  let isFraction (cs : List Char) : Bool := !cs.isEmpty && cs.all Digits.isDecimal
  match Parts.splitAt ':' cs with
  | [hour, minute] => (twoDigits? 23 hour).isSome && (twoDigits? 59 minute).isSome
  | [hour, minute, second] =>
    (twoDigits? 23 hour).isSome && (twoDigits? 59 minute).isSome &&
      match Parts.splitAt '.' second with
      | [second] => (twoDigits? 60 second).isSome
      | [second, fraction] => (twoDigits? 60 second).isSome && isFraction fraction
      | _ => false
  | _ => false

/-- A time of day with an optional distance from universal time. -/
def isZonedTime (cs : List Char) : Bool :=
  let isOffset (cs : List Char) : Bool :=
    match Parts.splitAt ':' cs with
    | [hour, minute] => (twoDigits? 23 hour).isSome && (twoDigits? 59 minute).isSome
    | _ => false
  let isSign (c : Char) : Bool := c == '+' || c == '-'
  match cs.getLast? with
  | none => false
  | some last =>
    if last = 'Z' ∨ last = 'z' then isTime cs.dropLast
    else if cs.any isSign then
      isTime (cs.takeWhile fun c => !isSign c)
        && isOffset ((cs.dropWhile fun c => !isSign c).drop 1)
    else isTime cs

/-- A day, a time of day, or both. -/
def isMoment (cs : List Char) : Bool :=
  isDate cs || isTime cs ||
    (isDate (cs.take 10) &&
      match cs.drop 10 with
      | c :: time => (c == 'T' || c == 't' || c == ' ') && isZonedTime time
      | [] => false)

/-- The value that a word without quotes stands for. -/
def ofWord? (word : List Char) : Option Value :=
  if word = "true".toList then some (.bool true)
  else if word = "false".toList then some (.bool false)
  else if isMoment word then some .datetime
  else ((integer? word).or (special? word)).or (fractional? word)

/-- Whether a character can be part of a word without quotes. -/
def isWordChar (c : Char) : Bool :=
  c.isAlphanum || c == '+' || c == '-' || c == '_' || c == '.' || c == ':'

/-- Reads a word; a day and the time behind one blank are one word. -/
def read? (text : List Char) : Option (Value × List Char) :=
  let word := text.takeWhile isWordChar
  let rest := text.dropWhile isWordChar
  match rest with
  | ' ' :: c :: behind =>
    if isDate word && Digits.isDecimal c then
      (ofWord? (word ++ ' ' :: (c :: behind).takeWhile isWordChar)).map fun v =>
        (v, (c :: behind).dropWhile isWordChar)
    else (ofWord? word).map fun v => (v, rest)
  | _ => (ofWord? word).map fun v => (v, rest)

end Scalar
end Settings
end FleetTelemetry

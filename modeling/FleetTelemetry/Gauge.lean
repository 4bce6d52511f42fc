/-
# Gauge arithmetic

What rollups and buckets need of the numbers they average: sums, products with
and quotients by counts, maxima, and the form in which a reading is stored. A
`Float` is such a number with rounding; readings that are exact fit as well.

Key definitions: `Gauge`, `Gauge.sum`, `Gauge.sumFromZero`, `Gauge.peak`.
-/
namespace FleetTelemetry

/-- Numbers that can be averaged, compared and stored. -/
class Gauge (α : Type) where
  zero : α
  add : α → α → α
  mul : α → α → α
  div : α → α → α
  ofInt : Int → α
  /-- The maximum of one reading. -/
  alone : α → α
  /-- The greater of a maximum so far and a reading. -/
  max : α → α → α
  /-- What a table gives back for a reading, or nothing if it refuses it. -/
  stored : α → Option α

namespace Gauge

variable {α : Type} [Gauge α]

/-- The sum of the readings from left to right, starting with the first. -/
def sum : List α → α
  | [] => zero
  | x :: xs => xs.foldl add x

/-- The sum of the readings from left to right, starting with zero. -/
def sumFromZero (xs : List α) : α :=
  xs.foldl add zero

/-- The greatest reading. -/
def peak : List α → α
  | [] => zero
  | x :: xs => xs.foldl max (alone x)

end Gauge

/-- Doubles. A maximum passes over NaN and is `-∞` if it finds nothing else; of two equal readings
it keeps the last. A table refuses NaN and drops the sign of zero. -/
instance : Gauge Float where
  zero := 0.0
  add x y := x + y
  mul x y := x * y
  div x y := x / y
  ofInt n := Float.ofInt n
  alone x := if x.isNaN then -(1.0 / 0.0) else x
  max m x := if x.isNaN || x < m then m else x
  stored x := if x.isNaN then none else if x == 0.0 then some 0.0 else some x

end FleetTelemetry

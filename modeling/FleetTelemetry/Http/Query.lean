/-
# Query parameters

The query of a request is a list of pairs, joined by `&`. Pairs with other
keys are passed over; a key that is wanted may come once, and its value has to
be of the wanted kind. A key without a value has an empty one.

Key definitions: `Query`, `Query.ofChars`, `Query.optional`,
`Query.required`.
-/
import FleetTelemetry.Text.Parts
import FleetTelemetry.Word

namespace FleetTelemetry

/-- Keys and values in the order of the query, each decoded as far as it is text. -/
structure Query where
  pairs : List (Option String × Option String) := []

namespace Query

/-- The pairs of a query. -/
def ofChars (chars : List Char) : Query where
  pairs := ((Parts.splitAt '&' chars).filter fun part => !part.isEmpty).map fun part =>
    let (key, value) := Parts.cutAt '=' part
    (Percent.decodeForm? key, Percent.decodeForm? value)

/-- The values under a key. -/
def values (q : Query) (key : String) : List (Option String) :=
  (q.pairs.filter fun p => p.1 == some key).map Prod.snd

/-- The value under a key read by `read`: the outer absence is a fault, a missing key none. -/
def optional {β : Type} (read : Option String → Option β) (key : String) (q : Query) :
    Option (Option β) :=
  match q.values key with
  | [] => some none
  | [value] => (read value).map some
  | _ => none

/-- The value under a key that has to be there. -/
def required {β : Type} (read : Option String → Option β) (key : String) (q : Query) : Option β :=
  (q.optional read key).bind id

/-- A number without a sign, or with a plus, that is less than a bound. -/
def natural (bound : Nat) (value : Option String) : Option Nat :=
  value.bind fun s => (Digits.nat? s.toList).filter fun n => decide (n < bound)

/-- A number of 64 bits with an optional sign. -/
def instant (value : Option String) : Option Int :=
  value.bind fun s => (Digits.int? s.toList).filter fun n =>
    decide (Word.minSigned64 ≤ n) && decide (n ≤ Word.maxSigned64)

/-- Any value; one that is no text is taken for the replacement character. -/
def text (value : Option String) : Option String :=
  some (value.getD "\uFFFD")

end Query
end FleetTelemetry

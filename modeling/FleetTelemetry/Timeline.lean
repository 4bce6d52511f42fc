/-
# The time line

Instants are Unix times in milliseconds, before or after the epoch. A bucket
of some width starts at every multiple of it.

Key definitions: `Span`, `Span.millis`, `bucketStart`.
Key theorems: `bucketStart_le`, `lt_bucketStart_add`.
-/
namespace FleetTelemetry

/-- The length of time that a summary covers. -/
inductive Span where
  | hour
  | day
  deriving DecidableEq, Repr

def millisPerMinute : Int := 60000

def millisPerHour : Int := 60 * millisPerMinute

def millisPerDay : Int := 24 * millisPerHour

theorem millisPerDay_pos : 0 < millisPerDay := by decide

namespace Span

/-- The length of a span in milliseconds. -/
def millis : Span → Int
  | .hour => millisPerHour
  | .day => millisPerDay

end Span

/-- The start of the bucket of an instant: the last multiple of the width that is not after it. -/
def bucketStart (width ts : Int) : Int := ts / width * width

theorem bucketStart_le {width : Int} (h : 0 < width) (ts : Int) : bucketStart width ts ≤ ts :=
  Int.ediv_mul_le ts (Int.ne_of_gt h)

theorem lt_bucketStart_add {width : Int} (h : 0 < width) (ts : Int) :
    ts < bucketStart width ts + width := by
  have := Int.lt_ediv_add_one_mul_self ts h
  rw [Int.add_mul, Int.one_mul] at this
  exact this

/-- An instant is within a window if it is neither before its start nor after its end. -/
def within (start stop ts : Int) : Bool := decide (start ≤ ts) && decide (ts ≤ stop)

end FleetTelemetry

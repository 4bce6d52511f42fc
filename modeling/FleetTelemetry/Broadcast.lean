/-
# Broadcasts

Frames for a subscriber go through one bounded queue, from which a dispatcher
takes them one by one and calls the hook. A frame that finds the queue full is
dropped and counted: a slow subscriber loses frames and delays nobody. A hook
call that fails loses its own frame only.

Key definitions: `Frame`, `HookOutcome`, `Broadcast`, `Broadcast.offer`,
`Broadcast.take`, `Broadcast.finish`, `Broadcast.settle`.
-/
import FleetTelemetry.Snapshot

namespace FleetTelemetry

/-- A snapshot on its way to the subscriber. -/
structure Frame where
  agentId : String
  snapshot : Snapshot

/-- How a call of the hook ended. -/
inductive HookOutcome where
  | returned
  | failed
  deriving DecidableEq, Repr

/-- The queue of frames and its dispatcher. -/
structure Broadcast where
  capacity : Nat
  queue : List Frame := []
  /-- The frame that the hook is being called with. -/
  inFlight : Option Frame := none
  /-- The frames of the calls that have ended, oldest first. -/
  ended : List (Frame × HookOutcome) := []
  dropped : Nat := 0

namespace Broadcast

/-- Queues a frame, or drops it if the queue is full. -/
def offer (b : Broadcast) (f : Frame) : Broadcast :=
  if b.queue.length < b.capacity then { b with queue := b.queue ++ [f] }
  else { b with dropped := b.dropped + 1 }

/-- The dispatcher takes the next frame, if it is free. -/
def take (b : Broadcast) : Broadcast :=
  match b.inFlight, b.queue with
  | none, f :: rest => { b with queue := rest, inFlight := some f }
  | _, _ => b

/-- The call of the hook ends. -/
def finish (b : Broadcast) (outcome : HookOutcome) : Broadcast :=
  match b.inFlight with
  | some f => { b with inFlight := none, ended := b.ended ++ [(f, outcome)] }
  | none => b

/-- The dispatcher goes on until no frame is left, each call ending as `outcome` says. -/
def settle (outcome : Frame → HookOutcome) (b : Broadcast) : Broadcast :=
  let pending := b.inFlight.toList ++ b.queue
  { b with
    queue := []
    inFlight := none
    ended := b.ended ++ pending.map fun f => (f, outcome f) }

/-- The frames that have reached the subscriber, oldest first. -/
def delivered (b : Broadcast) : List Frame :=
  (b.ended.filter fun e => e.2 == .returned).map Prod.fst

end Broadcast
end FleetTelemetry

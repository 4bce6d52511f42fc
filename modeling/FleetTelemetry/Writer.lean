/-
# The record writer

Rows on their way to the store wait in a bounded channel; a sender that finds
it full or closed loses its row and does not wait. The writer collects rows in
a buffer and saves them when the buffer has reached the flush rate, when its
timer fires, and when it ends. It ends when nobody can send any more, or when
it is told to; it then takes what the channel still holds.

Key definitions: `RecordChannel`, `RecordChannel.trySend`, `writerCapacity?`,
`WriterConfig`, `Writer`, `Writer.start?`, `WriterEvent`, `Writer.step`,
`Writer.run`.
-/
import FleetTelemetry.Store.Basic

namespace FleetTelemetry

/-- A bounded channel of rows. -/
structure RecordChannel (α : Type) where
  capacity : Nat
  queue : List (Record α) := []
  isOpen : Bool := true

namespace RecordChannel

variable {α : Type}

/-- Whether a row would be taken. -/
def accepts (c : RecordChannel α) : Bool := c.isOpen && decide (c.queue.length < c.capacity)

/-- Queues a row, or loses it if the channel is full or closed. -/
def trySend (c : RecordChannel α) (r : Record α) : RecordChannel α :=
  if c.accepts then { c with queue := c.queue ++ [r] } else c

/-- Takes everything that is queued. -/
def drain (c : RecordChannel α) : RecordChannel α × List (Record α) :=
  ({ c with queue := [] }, c.queue)

/-- The receiver goes, and what is queued goes with it. -/
def close (c : RecordChannel α) : RecordChannel α := { c with queue := [], isOpen := false }

end RecordChannel

/-- The capacity of the channel of a writer: room for two flushes, and for 32 rows at least. It is not
to be had for a flush rate whose double needs more than a word. -/
def writerCapacity? (flushRate : UInt64) : Option Nat :=
  if flushRate.toNat * 2 < Word.size64 then some (Nat.max (flushRate.toNat * 2) 32) else none

/-- When a writer saves its buffer. -/
structure WriterConfig where
  flushRate : UInt64
  flushIntervalSecs : UInt64
  deriving DecidableEq, Repr

namespace WriterConfig

/-- The number of rows at which the buffer is saved; never zero. -/
def batchSize (c : WriterConfig) : Nat := Nat.max c.flushRate.toNat 1

/-- The seconds between two ticks of the timer; never zero. -/
def tickSecs (c : WriterConfig) : Nat := Nat.max c.flushIntervalSecs.toNat 1

end WriterConfig

/-- A writer with its channel and its store. -/
structure Writer (α : Type) where
  store : Store α
  channel : RecordChannel α
  buffer : List (Record α) := []
  /-- The rows handed to the store, oldest first. -/
  handed : List (Record α) := []
  /-- How many of them it took. -/
  saved : Nat := 0
  hasEnded : Bool := false

/-- What can happen to a writer. -/
inductive WriterEvent (α : Type) where
  /-- Somebody sends a row. -/
  | sent (r : Record α)
  /-- The writer looks into its channel. -/
  | polled
  /-- Its timer fires. -/
  | ticked
  /-- It is told that it need not end. -/
  | reassured
  /-- It is told to end, or whoever could tell it is gone. -/
  | stopped
  /-- Nobody can send any more. -/
  | abandoned

namespace Writer

variable {α : Type}

/-- A writer that starts with an empty channel, if the capacity of that is to be had. -/
def start? (config : WriterConfig) (store : Store α) : Option (Writer α) :=
  (writerCapacity? config.flushRate).map fun capacity => { store, channel := { capacity } }

variable [Gauge α]

/-- Saves the buffer. -/
def flush (w : Writer α) : Writer α :=
  let (store, saved) := w.store.saveAll w.buffer
  { w with
    store
    buffer := []
    handed := w.handed ++ w.buffer
    saved := w.saved + saved }

/-- Takes a row into the buffer and saves it if the flush rate is reached. -/
def take (config : WriterConfig) (w : Writer α) (r : Record α) : Writer α :=
  let w := { w with buffer := w.buffer ++ [r] }
  if config.batchSize ≤ w.buffer.length then w.flush else w

/-- Takes all rows that the channel holds, saves them and ends. -/
def finish (w : Writer α) : Writer α :=
  let w := { w with
    buffer := w.buffer ++ w.channel.queue
    channel := w.channel.close }
  { w.flush with hasEnded := true }

/-- What an event does to a writer. -/
def step (config : WriterConfig) (w : Writer α) (event : WriterEvent α) : Writer α :=
  if w.hasEnded then w
  else
    match event with
    | .sent r => { w with channel := w.channel.trySend r }
    | .polled =>
      match w.channel.queue with
      | r :: rest => take config { w with channel := { w.channel with queue := rest } } r
      | [] => if w.channel.isOpen then w else w.finish
    | .ticked => w.flush
    | .reassured => w
    | .stopped => w.finish
    | .abandoned => { w with channel := { w.channel with isOpen := false } }

/-- What events in a row do to a writer. -/
def run (config : WriterConfig) (w : Writer α) (events : List (WriterEvent α)) : Writer α :=
  events.foldl (step config) w

end Writer
end FleetTelemetry

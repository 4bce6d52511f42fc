/-
# No row is lost on its way to the store

Reports come in, each with one row to send, and the record writer takes its
turns between them, all in any order. The rows that it has handed to the store,
its buffer and its channel are together the rows that the channel has taken, in
their order (`Writer.Conserves`): receiving moves a row from the channel to the
buffer, saving moves the buffer to the store, and nothing else moves a row. A
buffer that reaches the flush rate is saved at once, and a writer that ends has
emptied channel and buffer before (`Writer.Carries`). So at the end everything
that was accepted has been handed over (`Pipeline.rows_run`). What is accepted in
any case are two batches that a new writer leaves alone
(`Writer.run_sent_of_start?`).

A turn of the writer counts as one step. Rows may be sent while it saves, but
they fare as if they were sent after it (`Writer.flush_sent`), and a writer that
is about to end has closed its channel before it takes the first row out of it.

Key definitions: `Store.results`, `Writer.Conserves`, `Writer.Carries`,
`Pipeline`, `Pipeline.step`, `Pipeline.accepted`.
Key theorems: `Store.saveAll_eq`, `Writer.Carries.step`,
`Writer.hasEnded_step_iff`, `Writer.run_sent_of_start?`, `Pipeline.carries_run`,
`Pipeline.rows_run`.
-/
import FleetTelemetry.Proofs.Emitted
import FleetTelemetry.Service

namespace FleetTelemetry

/-! ### Saving rows in turn -/

namespace Store

variable {α : Type} [Gauge α]

/-- The results of saving rows one after another. -/
def results : Store α → List (Record α) → List (Except StoreError Unit) :=
  emitted (fun s r => (s.save r).1) fun s r => [(s.save r).2]

theorem results_cons (s : Store α) (r : Record α) (rs : List (Record α)) :
    s.results (r :: rs) = (s.save r).2 :: (s.save r).1.results rs := rfl

/-- Rows that are saved together are saved one after another, and the successes counted. -/
theorem saveAll_eq (s : Store α) (rs : List (Record α)) :
    s.saveAll rs = (rs.foldl (fun s r => (s.save r).1) s, (s.results rs).countP Except.isOk) := by
  induction rs generalizing s with
  | nil => rfl
  | cons r rs ih =>
    rw [List.foldl_cons, results_cons, List.countP_cons, saveAll]
    split
    · next s' u h => rw [ih, h]; rfl
    · next s' e h => rw [ih, h]; rfl

theorem saveAll_append (s : Store α) (rs rs' : List (Record α)) :
    s.saveAll (rs ++ rs') = (((s.saveAll rs).1.saveAll rs').1,
      (s.saveAll rs).2 + ((s.saveAll rs).1.saveAll rs').2) := by
  simp only [saveAll_eq, results, List.foldl_append, emitted_append, List.countP_append]

end Store

/-! ### The writer -/

theorem WriterConfig.batchSize_pos (config : WriterConfig) : 0 < config.batchSize :=
  Nat.le_max_right _ _

namespace RecordChannel

variable {α : Type}

theorem trySend_of_accepts {c : RecordChannel α} (h : c.accepts = true) (r : Record α) :
    c.trySend r = { c with queue := c.queue ++ [r] } := if_pos h

theorem trySend_of_not_accepts {c : RecordChannel α} (h : c.accepts = false) (r : Record α) :
    c.trySend r = c := if_neg (by simp [h])

theorem accepts_of_closed {c : RecordChannel α} (h : c.isOpen = false) : c.accepts = false := by
  rw [accepts, h, Bool.false_and]

end RecordChannel

/-- The row that an event sends. -/
def WriterEvent.row? {α : Type} : WriterEvent α → Option (Record α)
  | .sent r => some r
  | _ => none

theorem WriterEvent.eq_sent {α : Type} {event : WriterEvent α} {r : Record α}
    (h : event.row? = some r) : event = .sent r := by
  cases event with
  | sent r' => exact congrArg _ (Option.some.inj h)
  | _ => cases h

namespace Writer

variable {α : Type} [Gauge α] {config : WriterConfig} {store : Store α} {w : Writer α}
  {accepted : List (Record α)}

/-- The rows accepted are handed over, in the buffer or in the channel, in this order, and those
handed over have been saved one after another. -/
structure Conserves (store : Store α) (w : Writer α) (accepted : List (Record α)) : Prop where
  rows : w.handed ++ (w.buffer ++ w.channel.queue) = accepted
  inserted : store.saveAll w.handed = (w.store, w.saved)

/-- Receiving rows moves them from the channel to the buffer. -/
theorem Conserves.receive (h : Conserves store w accepted) {received rest : List (Record α)}
    (hqueue : w.channel.queue = received ++ rest) (isOpen : Bool) :
    Conserves store { w with
      buffer := w.buffer ++ received
      channel := { w.channel with queue := rest, isOpen } } accepted where
  rows := by
    rw [← h.rows, hqueue, List.append_assoc]
  inserted := h.inserted

/-- Saving moves the buffer to the store. -/
theorem Conserves.flush (h : Conserves store w accepted) : Conserves store w.flush accepted where
  rows := by
    show (w.handed ++ w.buffer) ++ ([] ++ w.channel.queue) = accepted
    rw [← h.rows, List.append_assoc, List.nil_append]
  inserted := by
    show store.saveAll (w.handed ++ w.buffer) = _
    rw [Store.saveAll_append, h.inserted]
    rfl

theorem Conserves.finish (h : Conserves store w accepted) : Conserves store w.finish accepted := by
  obtain ⟨hrows, hinserted⟩ := (h.receive (List.append_nil _).symm false).flush
  exact ⟨hrows, hinserted⟩

/-- What holds of a writer between two turns: its buffer has not reached the flush rate, and if it
has ended, then with nothing left and its channel closed. -/
structure Carries (config : WriterConfig) (store : Store α) (w : Writer α)
    (accepted : List (Record α)) : Prop extends Conserves store w accepted where
  filling : w.buffer.length < config.batchSize
  ended : w.hasEnded = true → w.buffer = [] ∧ w.channel.queue = [] ∧ w.channel.isOpen = false

theorem carries_start (config : WriterConfig) (store : Store α) (capacity : Nat) :
    Carries config store { store, channel := { capacity } } [] where
  rows := rfl
  inserted := rfl
  filling := config.batchSize_pos
  ended := nofun

theorem Carries.send (h : Carries config store w accepted) (r : Record α) :
    Carries config store { w with channel := w.channel.trySend r }
      (accepted ++ if w.channel.accepts then [r] else []) := by
  cases haccepts : w.channel.accepts with
  | false =>
    rw [RecordChannel.trySend_of_not_accepts haccepts]
    simpa using h
  | true =>
    rw [RecordChannel.trySend_of_accepts haccepts, if_pos rfl]
    refine ⟨⟨?_, h.inserted⟩, h.filling, fun hended => ?_⟩
    · rw [← h.rows]
      simp
    · have := RecordChannel.accepts_of_closed (h.ended hended).2.2
      rw [haccepts] at this
      cases this

theorem Carries.take (h : Carries config store w accepted) (hrunning : w.hasEnded = false)
    {r : Record α} {rest : List (Record α)} (hqueue : w.channel.queue = r :: rest) :
    Carries config store
      (Writer.take config { w with channel := { w.channel with queue := rest } } r) accepted := by
  have hconserves := h.receive (show w.channel.queue = [r] ++ rest from hqueue) w.channel.isOpen
  unfold Writer.take
  dsimp only
  split
  · refine ⟨hconserves.flush, config.batchSize_pos, fun hended => ?_⟩
    cases hrunning.symm.trans hended
  · next hfew =>
    refine ⟨hconserves, Nat.lt_of_not_le hfew, fun hended => ?_⟩
    cases hrunning.symm.trans hended

theorem Carries.finish (h : Carries config store w accepted) :
    Carries config store w.finish accepted :=
  ⟨h.toConserves.finish, config.batchSize_pos, fun _ => ⟨rfl, rfl, rfl⟩⟩

theorem step_of_ended (config : WriterConfig) (h : w.hasEnded = true) (event : WriterEvent α) :
    w.step config event = w := if_pos h

theorem Carries.turn (h : Carries config store w accepted) (hrunning : w.hasEnded = false)
    {event : WriterEvent α} (hrow : event.row? = none) :
    Carries config store (w.step config event) accepted := by
  have running : ∀ {P : Prop}, w.hasEnded = true → P := fun hended => by
    cases hrunning.symm.trans hended
  unfold Writer.step
  rw [if_neg (by simp [hrunning])]
  cases event with
  | sent r => cases hrow
  | polled =>
    dsimp only
    split
    · next r rest hqueue => exact h.take hrunning hqueue
    · split
      · exact h
      · exact h.finish
  | ticked => exact ⟨h.flush, config.batchSize_pos, running⟩
  | reassured => exact h
  | stopped => exact h.finish
  | abandoned => exact ⟨⟨h.rows, h.inserted⟩, h.filling, running⟩

/-- **An event carries all rows on, with the one that it sends.** -/
theorem Carries.step (h : Carries config store w accepted) (event : WriterEvent α) :
    Carries config store (w.step config event)
      (accepted ++ if w.channel.accepts then event.row?.toList else []) := by
  cases hended : w.hasEnded with
  | true =>
    rw [step_of_ended config hended, RecordChannel.accepts_of_closed (h.ended hended).2.2,
      if_neg Bool.false_ne_true, List.append_nil]
    exact h
  | false =>
    cases hrow : event.row? with
    | none =>
      rw [Option.toList_none, ite_self, List.append_nil]
      exact h.turn hended hrow
    | some r =>
      obtain rfl := WriterEvent.eq_sent hrow
      rw [Writer.step, if_neg (by simp [hended])]
      exact h.send r

theorem hasEnded_take (config : WriterConfig) (w : Writer α) (r : Record α) :
    (w.take config r).hasEnded = w.hasEnded := by
  unfold Writer.take
  dsimp only
  split <;> rfl

/-- **A writer ends when it is told to, or finds nothing in a channel to which nobody can send.** -/
theorem hasEnded_step_iff (config : WriterConfig) (w : Writer α) (event : WriterEvent α) :
    (w.step config event).hasEnded = true ↔ w.hasEnded = true ∨ event = .stopped ∨
      event = .polled ∧ w.channel.queue = [] ∧ w.channel.isOpen = false := by
  cases hended : w.hasEnded with
  | true =>
    rw [step_of_ended config hended]
    simp [hended]
  | false =>
    unfold Writer.step
    rw [if_neg (by simp [hended])]
    cases event with
    | polled =>
      dsimp only
      split
      · next r rest hqueue =>
        rw [hasEnded_take]
        simp [hended, hqueue]
      · next hqueue =>
        split
        · next hopen => simp [hended, hopen]
        · next hclosed => simp [hqueue, hclosed, Writer.finish]
    | stopped => simp [Writer.finish]
    | ticked => simp [hended, Writer.flush]
    | sent | reassured | abandoned => simp [hended]

/-- A row that is sent while the buffer is being saved fares like one that is sent afterwards. -/
theorem flush_sent (config : WriterConfig) (w : Writer α) (r : Record α) :
    w.flush.step config (.sent r) = (w.step config (.sent r)).flush := by
  unfold Writer.step
  show (if w.hasEnded = true then _ else _) = _
  split <;> rfl

theorem run_sent (config : WriterConfig) : ∀ (rs : List (Record α)) {w : Writer α},
    w.hasEnded = false → w.channel.isOpen = true →
    w.channel.queue.length + rs.length ≤ w.channel.capacity →
    w.run config (rs.map .sent) =
      { w with channel := { w.channel with queue := w.channel.queue ++ rs } }
  | [], w, _, _, _ => by
    rw [List.append_nil]
    rfl
  | r :: rs, w, hrunning, hopen, hroom => by
    rw [List.length_cons] at hroom
    have haccepts : w.channel.accepts = true := by
      rw [RecordChannel.accepts, hopen, Bool.true_and, decide_eq_true_iff]
      omega
    let next : Writer α := { w with channel := { w.channel with queue := w.channel.queue ++ [r] } }
    have hsent : w.step config (.sent r) = next := by
      rw [Writer.step, if_neg (by simp [hrunning]), RecordChannel.trySend_of_accepts haccepts]
    have hroom' : next.channel.queue.length + rs.length ≤ next.channel.capacity := by
      show (w.channel.queue ++ [r]).length + rs.length ≤ w.channel.capacity
      rw [List.length_append, List.length_singleton]
      omega
    have hrest := run_sent config rs (w := next) hrunning hopen hroom'
    show (w.step config (.sent r)).run config (rs.map .sent) = _
    rw [hsent, hrest]
    simp only [next, List.append_assoc, List.singleton_append]

/-- **The channel of a new writer has room for two batches.** -/
theorem run_sent_of_start? (hstart : start? config store = some w) {rs : List (Record α)}
    (hfew : rs.length ≤ 2 * config.batchSize) :
    w.run config (rs.map .sent) = { w with channel := { w.channel with queue := rs } } := by
  unfold start? writerCapacity? at hstart
  split at hstart
  · obtain rfl := Option.some.inj hstart
    have hcapacity : 2 * config.batchSize ≤ Nat.max (config.flushRate.toNat * 2) 32 := by
      simp only [WriterConfig.batchSize, Nat.max_def]
      split <;> split <;> omega
    refine run_sent config rs rfl rfl ?_
    rw [List.length_nil, Nat.zero_add]
    exact Nat.le_trans hfew hcapacity
  · cases hstart

end Writer

/-! ### Reports and the writer -/

/-- A live cache whose reports go to a record writer. -/
structure Pipeline where
  cache : Cache
  writer : Writer Float

/-- What can happen to a pipeline. -/
inductive PipelineEvent where
  | reported (now : Int) (agentId : String) (report : Report)
  | disconnected (agentId : String)
  | writer (event : WriterEvent Float)

namespace Pipeline

/-- The service that takes the reports in. -/
def service (p : Pipeline) : Service where
  cache := p.cache
  store := p.writer.store
  channel := some p.writer.channel

/-- A pipeline after its service has done something. -/
def withService (p : Pipeline) (s : Service) : Pipeline where
  cache := s.cache
  writer := { p.writer with store := s.store, channel := s.channel.getD p.writer.channel }

/-- What an event does to a pipeline. -/
def step (config : WriterConfig) (p : Pipeline) : PipelineEvent → Pipeline
  | .reported now agentId report => p.withService (p.service.receive now agentId report).1
  | .disconnected agentId => p.withService (p.service.disconnect agentId).1
  | .writer event => { p with writer := p.writer.step config event }

/-- What events in a row do to a pipeline. -/
def run (config : WriterConfig) (p : Pipeline) (events : List PipelineEvent) : Pipeline :=
  events.foldl (step config) p

/-- The row that an event sends: that of the snapshot which a report is answered with. -/
def row? (p : Pipeline) : PipelineEvent → Option (Record Float)
  | .reported now agentId report =>
    (p.service.receive now agentId report).2.bind (Record.ofSnapshot? agentId)
  | .disconnected _ => none
  | .writer event => event.row?

/-- The rows that a run sends while the channel is open and has room, in their order. -/
def accepted (config : WriterConfig) : Pipeline → List PipelineEvent → List (Record Float) :=
  emitted (step config) fun p event =>
    if p.writer.channel.accepts then (p.row? event).toList else []

/-- A report sends its row, if it has one, and does nothing else to the writer. -/
theorem writer_reported (config : WriterConfig) (p : Pipeline) (now : Int) (agentId : String)
    (report : Report) :
    (p.step config (.reported now agentId report)).writer = { p.writer with
      channel := ((p.row? (.reported now agentId report)).map p.writer.channel.trySend).getD
        p.writer.channel } := by
  show (p.withService (p.service.receive now agentId report).1).writer = _
  unfold row? Service.receive
  dsimp only [service]
  cases h : Record.ofSnapshot? agentId (Service.cacheReport p.cache now agentId report).2 with
  | none => rfl
  | some r =>
    rw [Option.bind_some, h]
    rfl

/-- **A run of a pipeline carries all rows on.** -/
theorem carries_run (config : WriterConfig) (cache : Cache) (store : Store Float) (capacity : Nat)
    (events : List PipelineEvent) :
    let p₀ : Pipeline := { cache, writer := { store, channel := { capacity } } }
    Writer.Carries config store (p₀.run config events).writer (p₀.accepted config events) := by
  intro p₀
  refine emitted_invariant
    (P := fun (p : Pipeline) rows => Writer.Carries config store p.writer rows) ?_
    (Writer.carries_start config store capacity) events
  intro p rows event h
  cases event with
  | reported now agentId report =>
    rw [writer_reported]
    cases p.row? (.reported now agentId report) with
    | none => simpa using h
    | some r => exact h.send r
  | disconnected agentId =>
    rw [row?, Option.toList_none, ite_self, List.append_nil]
    exact h
  | writer event => exact h.step event

theorem writer_run_of_ended (config : WriterConfig) (events : List PipelineEvent) (p : Pipeline)
    (hended : p.writer.hasEnded = true) (hclosed : p.writer.channel.isOpen = false) :
    (p.run config events).writer = p.writer := by
  induction events generalizing p with
  | nil => rfl
  | cons event events ih =>
    have hstep : (p.step config event).writer = p.writer := by
      cases event with
      | reported now agentId report =>
        rw [writer_reported]
        cases p.row? (.reported now agentId report) with
        | none => rfl
        | some r =>
          rw [Option.map_some, Option.getD_some,
            RecordChannel.trySend_of_not_accepts (RecordChannel.accepts_of_closed hclosed)]
      | disconnected agentId => rfl
      | writer event => exact Writer.step_of_ended config hended event
    show ((p.step config event).run config events).writer = p.writer
    rw [ih _ (hstep ▸ hended) (hstep ▸ hclosed), hstep]

/-- **No row that is accepted is lost or doubled.** At any moment of any run of reports and turns of
the writer, the rows handed to the store, the buffer and the channel are together the rows that were
sent while the channel was open and had room, in their order. The buffer stays below the flush rate.
The rows handed over have been saved one after another, and the successes counted; a row that is
sent while the buffer is being saved fares like one that is sent afterwards. The writer ends when it
is told to, or finds nothing in a channel to which nobody can send; then nothing is left in buffer
and channel, so that all rows accepted have been handed over, and nothing more happens. -/
theorem rows_run (config : WriterConfig) (cache : Cache) (store : Store Float) (capacity : Nat)
    (events : List PipelineEvent) :
    let p₀ : Pipeline := { cache, writer := { store, channel := { capacity } } }
    let p := p₀.run config events
    let w := p.writer
    w.handed ++ (w.buffer ++ w.channel.queue) = p₀.accepted config events ∧
    w.buffer.length < max config.flushRate.toNat 1 ∧
    w.store = w.handed.foldl (fun s r => (s.save r).1) store ∧
    w.saved = (store.results w.handed).countP Except.isOk ∧
    (∀ r, w.flush.step config (.sent r) = (w.step config (.sent r)).flush) ∧
    (∀ event, (p.step config event).writer.hasEnded = true ↔
      w.hasEnded = true ∨ event = .writer .stopped ∨
        event = .writer .polled ∧ w.channel.queue = [] ∧ w.channel.isOpen = false) ∧
    (w.hasEnded = true → w.buffer = [] ∧ w.channel.queue = [] ∧
      w.handed = p₀.accepted config events ∧
      ∀ later, (p.run config later).writer = w) := by
  intro p₀ p w
  have h : Writer.Carries config store w (p₀.accepted config events) :=
    carries_run config cache store capacity events
  obtain ⟨hstore, hsaved⟩ := Prod.mk.inj ((Store.saveAll_eq store w.handed).symm.trans h.inserted)
  refine ⟨h.rows, h.filling, hstore.symm, hsaved.symm, Writer.flush_sent config w, fun event => ?_,
    fun hended => ?_⟩
  · cases event with
    | reported now agentId report =>
      rw [writer_reported]
      show w.hasEnded = true ↔ _
      simp
    | disconnected agentId =>
      show w.hasEnded = true ↔ _
      simp
    | writer event =>
      refine (Writer.hasEnded_step_iff config w event).trans ?_
      simp
  · obtain ⟨hbuffer, hqueue, hclosed⟩ := h.ended hended
    refine ⟨hbuffer, hqueue, ?_, fun later => writer_run_of_ended config later p hended hclosed⟩
    have hrows := h.rows
    rwa [hbuffer, hqueue, List.append_nil, List.append_nil] at hrows

/-- The third row finds the channel full, the next has no month to be saved in, and the last comes
after the end. -/
theorem rows_run_stopped :
    let report := fun now => PipelineEvent.reported now "a" (.full {})
    let p₀ : Pipeline :=
      { cache := .empty 1 1, writer := { store := {}, channel := { capacity := 2 } } }
    let p := p₀.run ⟨2, 10⟩ [report 1, report 2, report 3, .writer .polled, report 9000000000000000,
      .writer .polled, .disconnected "a", report 5, .writer .stopped, report 6]
    p.writer.hasEnded = true ∧ p.writer.buffer = [] ∧ p.writer.channel.queue = [] ∧
      p.writer.handed.map Record.timestamp = [1, 2, 9000000000000000, 5] ∧ p.writer.saved = 3 := by
  obtain ⟨-, -, -, hsaved, -, -, hend⟩ := rows_run ⟨2, 10⟩ (.empty 1 1) {} 2
    [.reported 1 "a" (.full {}), .reported 2 "a" (.full {}), .reported 3 "a" (.full {}),
      .writer .polled, .reported 9000000000000000 "a" (.full {}), .writer .polled,
      .disconnected "a", .reported 5 "a" (.full {}), .writer .stopped, .reported 6 "a" (.full {})]
  obtain ⟨hbuffer, hqueue, hhanded, -⟩ := hend (by decide +kernel)
  refine ⟨by decide +kernel, hbuffer, hqueue, ?_, hsaved.trans (by decide +kernel)⟩
  exact (congrArg (List.map Record.timestamp) hhanded).trans (by decide +kernel)

end Pipeline
end FleetTelemetry

/-
# Live and durable history agree

A report is answered with the snapshot to which it led. That snapshot is in the
live history of its agent until the cache has no room for it or the agent leaves;
its row is sent to the record writer, which saves it. Where every row finds room
on its way, the store holds in the end a row for every answer of the run, each
agent's in the order of the answers (`Pipeline.history_run`): rows of one instant
keep the order in which they were saved, and stamps that never decrease keep all
others in theirs. What the live history of an agent still shows is the end of it.

Rows are lost on three ways only, which the statement excludes: the channel is
full or closed when a row is sent, the row does not fit or has a reading that is
no number, or its instant has no month.

Key definitions: `Snapshot.Fits`, `Record.Readable`, `Record.readBack?`,
`PipelineEvent.stamp?`, `Pipeline.written`, `Pipeline.answers`,
`Pipeline.Unhindered`, `Pipeline.snapshotsOf`.
Key theorems: `Pipeline.accepted_of_unhindered`, `Pipeline.holds_of_ended`,
`Pipeline.log_suffix`, `Pipeline.history_run`.
-/
import FleetTelemetry.Proofs.CacheLog
import FleetTelemetry.Proofs.FlatList
import FleetTelemetry.Proofs.Peak
import FleetTelemetry.Proofs.RecordPipeline

namespace FleetTelemetry

/-! ### The row of a snapshot -/

/-- Whether the throughput of all disks and that of all interfaces fit into counters. -/
def Snapshot.Fits (s : Snapshot) : Prop :=
  Word.exactSum (s.disks.values.map DiskStat.readBytesPerSec) < Word.size64 ∧
    Word.exactSum (s.disks.values.map DiskStat.writeBytesPerSec) < Word.size64 ∧
    Word.exactSum (s.networks.values.map InterfaceStat.rxBytesPerSec) < Word.size64 ∧
    Word.exactSum (s.networks.values.map InterfaceStat.txBytesPerSec) < Word.size64

instance (s : Snapshot) : Decidable s.Fits := inferInstanceAs (Decidable (_ ∧ _))

namespace Record

/-- Whether every reading of a row is a number. -/
def Readable (r : Record Float) : Prop :=
  r.cpuPercent.isNaN = false ∧ r.memPercent.isNaN = false ∧ r.gpuPercent.isNaN = false ∧
    r.loadAvg1.isNaN = false

instance (r : Record Float) : Decidable r.Readable := inferInstanceAs (Decidable (_ ∧ _))

/-- The row of a snapshot as a table gives it back. -/
def readBack? (agentId : String) (s : Snapshot) : Option (Record Float) :=
  (ofSnapshot? agentId s).bind stored?

theorem ofSnapshot?_eq_some {agentId : String} {s : Snapshot} {r : Record Float}
    (h : ofSnapshot? agentId s = some r) : r.agentId = agentId ∧ r.timestamp = s.timestamp := by
  simp only [ofSnapshot?, Option.bind_eq_bind, Option.pure_def, Option.bind_eq_some_iff,
    Option.some.injEq] at h
  obtain ⟨_, -, _, -, _, -, _, -, rfl⟩ := h
  exact ⟨rfl, rfl⟩

theorem exists_ofSnapshot? {s : Snapshot} (h : s.Fits) (agentId : String) :
    ∃ r, ofSnapshot? agentId s = some r := by
  obtain ⟨h₁, h₂, h₃, h₄⟩ := h
  rw [ofSnapshot?, Word.checkedSum?, if_pos h₁, Word.checkedSum?, if_pos h₂, Word.checkedSum?,
    if_pos h₃, Word.checkedSum?, if_pos h₄]
  exact ⟨_, rfl⟩

theorem ofSnapshot?_eq_none {s : Snapshot} (h : ¬ s.Fits) (agentId : String) :
    ofSnapshot? agentId s = none := by
  unfold ofSnapshot? Word.checkedSum?
  unfold Snapshot.Fits at h
  split
  · next h₁ =>
    split
    · next h₂ =>
      split
      · next h₃ =>
        have h₄ := fun h₄ => h ⟨h₁, h₂, h₃, h₄⟩
        rw [if_neg h₄]
        rfl
      · rfl
    · rfl
  · rfl

theorem exists_stored {x : Float} (h : x.isNaN = false) : ∃ y, Gauge.stored x = some y :=
  ⟨_, Gauge.stored_eq_some_iff.mpr ⟨h, rfl⟩⟩

theorem exists_stored? {r : Record Float} (h : r.Readable) : ∃ r', r.stored? = some r' := by
  obtain ⟨h₁, h₂, h₃, h₄⟩ := h
  obtain ⟨_, h₁⟩ := exists_stored h₁
  obtain ⟨_, h₂⟩ := exists_stored h₂
  obtain ⟨_, h₃⟩ := exists_stored h₃
  obtain ⟨_, h₄⟩ := exists_stored h₄
  rw [stored?, h₁, h₂, h₃, h₄]
  exact ⟨_, rfl⟩

theorem readBack?_eq_some {agentId : String} {s : Snapshot} {r : Record Float}
    (h : readBack? agentId s = some r) : r.agentId = agentId ∧ r.timestamp = s.timestamp := by
  obtain ⟨r₀, hr₀, hr⟩ := Option.bind_eq_some_iff.mp h
  obtain ⟨hagent, htime⟩ := ofSnapshot?_eq_some hr₀
  obtain ⟨-, -, -, -, heq⟩ := stored?_eq_some hr
  exact ⟨by rw [heq]; exact hagent, (stored?_timestamp hr).trans htime⟩

theorem exists_readBack? {agentId : String} {s : Snapshot} (hfits : s.Fits)
    (hreadable : ∀ r ∈ ofSnapshot? agentId s, r.Readable) :
    ∃ r, readBack? agentId s = some r := by
  obtain ⟨r, hr⟩ := exists_ofSnapshot? hfits agentId
  rw [readBack?, hr, Option.bind_some]
  exact exists_stored? (hreadable r hr)

end Record

theorem Month.FourDigitYear.within {ts : Int} (h : Month.FourDigitYear ts) :
    within Word.minSigned64 Word.maxSigned64 ts = true := by
  obtain ⟨m, hm, -⟩ := Month.containing?_of_fourDigitYear h
  obtain ⟨hreckoned, rfl⟩ := Month.containing?_eq_some_iff.mp hm
  have hrange := (Month.instantInRange_iff ts).mpr hreckoned
  simp only [Month.instantInRange, FleetTelemetry.within, Bool.and_eq_true,
    decide_eq_true_eq] at hrange ⊢
  have hfirst : Word.minSigned64 ≤ Calendar.daysBeforeYear (-262143) * millisPerDay := by decide
  have hlast : Calendar.daysBeforeYear 262143 * millisPerDay - 1 < Word.maxSigned64 := by decide
  omega

/-- Where rows ascend already, a query for all of an agent just picks them. -/
theorem Store.Holds.range_all {s : Store Float} {rows : List (Record Float)} (h : s.Holds rows)
    (hascending : rows.Pairwise fun r r' => r.timestamp ≤ r'.timestamp) (agentId : String) :
    s.range agentId Word.minSigned64 Word.maxSigned64 0 =
      rows.filter fun r => r.agentId == agentId := by
  have hall : ∀ r ∈ rows,
      (r.agentId == agentId && within Word.minSigned64 Word.maxSigned64 r.timestamp) =
        (r.agentId == agentId) := fun r hr => by
    rw [(h.years r hr).within, Bool.and_true]
  rw [h.range, List.filter_congr hall]
  exact StableOrder.sort_eq_self (hascending.filter _)

/-! ### What a run answers -/

/-- The stamp of the server on a report. -/
def PipelineEvent.stamp? : PipelineEvent → Option Int
  | .reported now _ _ => some now
  | _ => none

theorem Service.cacheReport_timestamp (c : Cache) (now : Int) (agentId : String)
    (report : Report) : (cacheReport c now agentId report).2.timestamp = now := by
  cases report <;> rfl

theorem Cache.Reads.historyOf_suffix {c : Cache} {log : String → List Snapshot} (h : c.Reads log)
    (agentId : String) : c.historyOf agentId 0 <:+ log agentId := by
  rw [Cache.historyOf, lastEntries_eq, if_pos rfl, h.historyOf]
  exact List.drop_suffix _ _

namespace Pipeline

/-- The snapshots to which the reports of a run lead, each with its agent. -/
def written (config : WriterConfig) : Pipeline → List PipelineEvent → List (String × Snapshot) :=
  emitted (step config) fun p event =>
    match event with
    | .reported now agentId report =>
      [(agentId, (Service.cacheReport p.cache now agentId report).2)]
    | _ => []

/-- The answers to the reports of a run, each with its agent. -/
def answers (config : WriterConfig) :
    Pipeline → List PipelineEvent → List (String × Option Snapshot) :=
  emitted (step config) fun p event =>
    match event with
    | .reported now agentId report => [(agentId, (p.service.receive now agentId report).2)]
    | _ => []

/-- Whether a report finds the channel open and with room, and nothing else sends a row. -/
def FindsRoom (p : Pipeline) : PipelineEvent → Prop
  | .reported .. => p.writer.channel.accepts = true
  | .writer (.sent _) => False
  | _ => True

instance (p : Pipeline) : (event : PipelineEvent) → Decidable (p.FindsRoom event)
  | .reported .. => inferInstanceAs (Decidable (_ = true))
  | .disconnected _ => .isTrue trivial
  | .writer (.sent _) => .isFalse id
  | .writer .polled | .writer .ticked | .writer .reassured | .writer .stopped
  | .writer .abandoned => .isTrue trivial

/-- Whether every report of a run finds room, and nobody but reports sends rows. -/
def Unhindered (config : WriterConfig) : Pipeline → List PipelineEvent → Prop
  | _, [] => True
  | p, event :: events => p.FindsRoom event ∧ Unhindered config (p.step config event) events

instance Unhindered.decidable (config : WriterConfig) :
    (p : Pipeline) → (events : List PipelineEvent) → Decidable (p.Unhindered config events)
  | _, [] => .isTrue trivial
  | p, event :: events =>
    have := Unhindered.decidable config (p.step config event) events
    inferInstanceAs (Decidable (_ ∧ _))

/-- The snapshots of an agent. -/
def snapshotsOf (agentId : String) (snapshots : List (String × Snapshot)) : List Snapshot :=
  (snapshots.filter fun e => e.1 = agentId).map Prod.snd

variable {config : WriterConfig}

theorem receive_answer (p : Pipeline) (now : Int) (agentId : String) (report : Report) :
    (p.service.receive now agentId report).2 =
      let s := (Service.cacheReport p.cache now agentId report).2
      (Record.ofSnapshot? agentId s).map fun _ => s := by
  unfold Service.receive
  dsimp only [service]
  cases Record.ofSnapshot? agentId (Service.cacheReport p.cache now agentId report).2 <;> rfl

/-- The row that a report sends is that of the snapshot to which it leads. -/
theorem row?_reported (p : Pipeline) (now : Int) (agentId : String) (report : Report) :
    p.row? (.reported now agentId report) =
      Record.ofSnapshot? agentId (Service.cacheReport p.cache now agentId report).2 := by
  rw [row?, receive_answer]
  dsimp only
  cases h : Record.ofSnapshot? agentId (Service.cacheReport p.cache now agentId report).2 with
  | none => rfl
  | some r => exact h

theorem cache_reported (config : WriterConfig) (p : Pipeline) (now : Int) (agentId : String)
    (report : Report) :
    (p.step config (.reported now agentId report)).cache =
      p.cache.write agentId (Service.cacheReport p.cache now agentId report).2 := by
  rw [← Service.cacheReport_eq]
  show (p.withService (p.service.receive now agentId report).1).cache = _
  unfold Service.receive
  dsimp only [service]
  cases Record.ofSnapshot? agentId (Service.cacheReport p.cache now agentId report).2 <;> rfl

theorem written_stamps (p : Pipeline) (events : List PipelineEvent) :
    (p.written config events).map (fun e => e.2.timestamp) =
      events.filterMap PipelineEvent.stamp? := by
  induction events generalizing p with
  | nil => rfl
  | cons event events ih =>
    rw [written, emitted_cons, List.map_append, ← written, ih]
    cases event with
    | reported now agentId report =>
      exact congrArg (· :: _) (Service.cacheReport_timestamp p.cache now agentId report)
    | _ => rfl

/-- **Where nothing stands in the way, the row of every snapshot is accepted.** -/
theorem accepted_of_unhindered {p : Pipeline} {events : List PipelineEvent}
    (h : p.Unhindered config events) :
    p.accepted config events =
      (p.written config events).filterMap fun e => Record.ofSnapshot? e.1 e.2 := by
  induction events generalizing p with
  | nil => rfl
  | cons event events ih =>
    obtain ⟨hevent, hrest⟩ := h
    rw [accepted, written, emitted_cons, emitted_cons, List.filterMap_append, ← accepted,
      ← written, ih hrest]
    refine congrArg (· ++ _) ?_
    cases event with
    | reported now agentId report =>
      rw [if_pos (show p.writer.channel.accepts = true from hevent), row?_reported,
        List.filterMap_cons]
      cases Record.ofSnapshot? agentId (Service.cacheReport p.cache now agentId report).2 <;> rfl
    | disconnected agentId => exact ite_self _
    | writer event =>
      cases event with
      | sent r => exact hevent.elim
      | _ => exact ite_self _

/-- Exactly the reports whose sums fit are answered, with the snapshots to which they led. -/
theorem answers_eq_map (p : Pipeline) (events : List PipelineEvent) :
    p.answers config events =
      (p.written config events).map fun e => (e.1, if e.2.Fits then some e.2 else none) := by
  induction events generalizing p with
  | nil => rfl
  | cons event events ih =>
    rw [answers, written, emitted_cons, emitted_cons, List.map_append, ← answers, ← written, ih]
    refine congrArg (· ++ _) ?_
    cases event with
    | reported now agentId report =>
      show [(agentId, (p.service.receive now agentId report).2)] = [(agentId, _)]
      rw [receive_answer]
      dsimp only
      split
      · next hfits =>
        obtain ⟨r, hr⟩ := Record.exists_ofSnapshot? hfits agentId
        rw [hr, Option.map_some]
      · next hfits => rw [Record.ofSnapshot?_eq_none hfits, Option.map_none]
    | _ => rfl

theorem answers_eq {p : Pipeline} {events : List PipelineEvent}
    (h : ∀ e ∈ p.written config events, e.2.Fits) :
    p.answers config events = (p.written config events).map fun e => (e.1, some e.2) := by
  rw [answers_eq_map]
  exact List.map_congr_left fun e he => by rw [if_pos (h e he)]

/-! ### What the store holds -/

/-- Once the writer has ended, the store holds the rows of all snapshots that were written. -/
theorem holds_of_ended (cache : Cache) (capacity : Nat) (events : List PipelineEvent) :
    let p₀ : Pipeline := { cache, writer := { store := {}, channel := { capacity } } }
    p₀.Unhindered config events →
    (∀ now ∈ events.filterMap PipelineEvent.stamp?, Month.FourDigitYear now) →
    (p₀.run config events).writer.hasEnded = true →
    (p₀.run config events).writer.store.Holds
      ((p₀.written config events).filterMap fun e => Record.readBack? e.1 e.2) := by
  intro p₀ hroom hyears hended
  have hcarries := carries_run config cache {} capacity events
  obtain ⟨hbuffer, hqueue, -⟩ := hcarries.ended hended
  -- everything accepted has been handed over
  have hhanded : (p₀.run config events).writer.handed =
      (p₀.written config events).filterMap fun e => Record.ofSnapshot? e.1 e.2 := by
    have hrows := hcarries.rows
    rw [hbuffer, hqueue, List.append_nil, List.append_nil] at hrows
    exact hrows.trans (accepted_of_unhindered hroom)
  have hrowYears : ∀ r ∈ (p₀.run config events).writer.handed, Month.FourDigitYear r.timestamp := by
    intro r hr
    rw [hhanded] at hr
    obtain ⟨e, he, hr⟩ := List.mem_filterMap.mp hr
    rw [(Record.ofSnapshot?_eq_some hr).2]
    refine hyears _ ?_
    rw [← written_stamps p₀ events]
    exact List.mem_map.mpr ⟨e, he, rfl⟩
  -- and all of it has been saved
  have hholds := Store.holds_empty.saveAll_stored hrowYears
  rw [hcarries.inserted, List.nil_append, hhanded, List.filterMap_filterMap] at hholds
  exact hholds

/-! ### What the cache still shows -/

theorem snapshotsOf_append (agentId : String) (snapshots snapshots' : List (String × Snapshot)) :
    snapshotsOf agentId (snapshots ++ snapshots') =
      snapshotsOf agentId snapshots ++ snapshotsOf agentId snapshots' := by
  rw [snapshotsOf, List.filter_append, List.map_append]
  rfl

theorem snapshotsOf_cons (agentId : String) (e : String × Snapshot)
    (snapshots : List (String × Snapshot)) :
    snapshotsOf agentId (e :: snapshots) =
      if e.1 = agentId then e.2 :: snapshotsOf agentId snapshots
      else snapshotsOf agentId snapshots := by
  by_cases h : e.1 = agentId <;> simp [snapshotsOf, h]

/-- **The logs behind the cache are ends of what was written**: of each agent, the part since it was
last removed. -/
theorem log_suffix (p : Pipeline) (h : p.cache.Reads fun _ => []) (events : List PipelineEvent) :
    ∃ log, (p.run config events).cache.Reads log ∧
      ∀ a, log a <:+ snapshotsOf a (p.written config events) := by
  refine emitted_invariant (P := fun (p : Pipeline) snapshots =>
    ∃ log, p.cache.Reads log ∧ ∀ a, log a <:+ snapshotsOf a snapshots) ?_
    ⟨_, h, fun a => List.nil_suffix⟩ events
  rintro p snapshots event ⟨log, hreads, hsuffix⟩
  cases event with
  | reported now agentId report =>
    have hwrite := hreads.write agentId (Service.cacheReport p.cache now agentId report).2
    rw [← cache_reported config] at hwrite
    refine ⟨_, hwrite, fun a => ?_⟩
    rw [snapshotsOf_append, snapshotsOf_cons]
    obtain ⟨before, hbefore⟩ := hsuffix a
    split
    · exact ⟨before, by rw [← hbefore, List.append_assoc]; rfl⟩
    · exact ⟨before, by rw [hbefore]; exact (List.append_nil _).symm⟩
  | disconnected agentId =>
    refine ⟨_, hreads.remove agentId, fun a => ?_⟩
    rw [List.append_nil]
    split
    · exact List.nil_suffix
    · exact hsuffix a
  | writer event =>
    rw [List.append_nil]
    exact ⟨log, hreads, hsuffix⟩

/-! ### Rows of one agent -/

/-- Rows that are read back are those of one agent as its snapshots are those of one agent. -/
theorem map_some_filter_readBack? {snapshots : List (String × Snapshot)}
    (h : ∀ e ∈ snapshots, ∃ r, Record.readBack? e.1 e.2 = some r) (agentId : String) :
    ((snapshots.filterMap fun e => Record.readBack? e.1 e.2).filter
        fun r => r.agentId == agentId).map some =
      (snapshotsOf agentId snapshots).map (Record.readBack? agentId) := by
  induction snapshots with
  | nil => rfl
  | cons e snapshots ih =>
    obtain ⟨⟨r, hr⟩, hrest⟩ := List.forall_mem_cons.mp h
    have hagent := (Record.readBack?_eq_some hr).1
    rw [List.filterMap_cons, hr, List.filter_cons, hagent, snapshotsOf_cons]
    by_cases ha : e.1 = agentId
    · rw [if_pos (beq_iff_eq.mpr ha), if_pos ha, List.map_cons, List.map_cons, ih hrest, ← ha, hr]
    · rw [if_neg (by simpa using ha), if_neg ha, ih hrest]

theorem pairwise_readBack? {snapshots : List (String × Snapshot)}
    (h : (snapshots.map fun e => e.2.timestamp).Pairwise (· ≤ ·)) :
    (snapshots.filterMap fun e => Record.readBack? e.1 e.2).Pairwise
      fun r r' => r.timestamp ≤ r'.timestamp := by
  rw [List.pairwise_filterMap]
  refine (List.pairwise_map.mp h).imp fun hle r hr r' hr' => ?_
  rwa [(Record.readBack?_eq_some hr).2, (Record.readBack?_eq_some hr').2]

/-- **Live and durable history agree.** Reports and disconnections of any agents come in at stamps
of four-digit years that never decrease; each finds room for its row on the way to a writer that
takes its turns in between; all sums fit and all readings are numbers. Then every report is answered
with its snapshot. Once the writer has ended, a query for all rows of an agent gives the rows of all
snapshots that its reports were answered with, in their order, whether it disconnected in between or
not. The last of them are the rows of what its live history still shows. -/
theorem history_run (config : WriterConfig) (historyCapacity broadcastCapacity : Nat)
    (hook : Option Broadcast) (capacity : Nat) (events : List PipelineEvent) :
    let p₀ : Pipeline :=
      { cache := { Cache.empty historyCapacity broadcastCapacity with hook }
        writer := { store := {}, channel := { capacity } } }
    let p := p₀.run config events
    p₀.Unhindered config events →
    (events.filterMap PipelineEvent.stamp?).Pairwise (· ≤ ·) →
    (∀ now ∈ events.filterMap PipelineEvent.stamp?, Month.FourDigitYear now) →
    (∀ e ∈ p₀.written config events, e.2.Fits ∧
      ∀ r ∈ Record.ofSnapshot? e.1 e.2, r.Readable) →
    p.writer.hasEnded = true →
    p₀.answers config events = (p₀.written config events).map (fun e => (e.1, some e.2)) ∧
    ∀ agentId,
      let rows := p.writer.store.range agentId Word.minSigned64 Word.maxSigned64 0
      let shown := p.cache.historyOf agentId 0
      rows.map some =
        (snapshotsOf agentId (p₀.written config events)).map (Record.readBack? agentId) ∧
      (rows.rtake shown.length).map some = shown.map (Record.readBack? agentId) := by
  intro p₀ p hroom hascending hyears hrows hended
  refine ⟨answers_eq fun e he => (hrows e he).1, fun agentId => ?_⟩
  intro rows shown
  have hreadBack : ∀ e ∈ p₀.written config events, ∃ r, Record.readBack? e.1 e.2 = some r :=
    fun e he => Record.exists_readBack? (hrows e he).1 (hrows e he).2
  have hdurable : rows.map some =
      (snapshotsOf agentId (p₀.written config events)).map (Record.readBack? agentId) := by
    rw [← map_some_filter_readBack? hreadBack]
    exact congrArg _ ((holds_of_ended _ capacity events hroom hyears hended).range_all
      (pairwise_readBack? (written_stamps p₀ events ▸ hascending)) agentId)
  refine ⟨hdurable, ?_⟩
  obtain ⟨log, hreads, hsuffix⟩ := log_suffix p₀
    ((Cache.reads_empty historyCapacity broadcastCapacity).congr rfl rfl rfl) events
  have hshown := (hreads.historyOf_suffix agentId).trans (hsuffix agentId)
  have hlength := congrArg List.length hdurable
  rw [List.length_map, List.length_map] at hlength
  rw [List.rtake, List.map_drop, hdurable, ← List.map_drop, hlength,
    ← List.suffix_iff_eq_drop.mp hshown]

/-- Agents that report in turns across the end of a month, one of which leaves and comes back; the
history of each has room for two snapshots. -/
def acrossMonths : List PipelineEvent :=
  [.reported 1706745599999 "a" (.full { cpu := { usagePercent := -0.0 } }),
    .reported 1706745599999 "b" (.update (.static {})),
    .writer .polled,
    .reported 1706745599999 "a" (.full { cpu := { usagePercent := 1.5 } }),
    .disconnected "a",
    .writer .ticked,
    .reported 1706745600000 "a" (.update (.realtime { cpuUsage := 2.5 })),
    .writer .polled,
    .reported 1706745600000 "a" (.update (.periodic {})),
    .disconnected "b",
    .reported 1706745600001 "a" (.update (.realtime { cpuUsage := 3.5 })),
    .writer .stopped]

/-- A row of the one agent, all of whose other readings are zero. -/
def acrossMonthsRow (timestamp : Int) (cpuPercent : Float) : Record Float :=
  { Record.uniform "a" timestamp 0.0 0 with cpuPercent }

theorem history_run_acrossMonths :
    let p₀ : Pipeline :=
      { cache := { Cache.empty 2 1 with hook := none }
        writer := { store := {}, channel := { capacity := 4 } } }
    let p := p₀.run ⟨2, 10⟩ acrossMonths
    (p₀.Unhindered ⟨2, 10⟩ acrossMonths ∧
      (acrossMonths.filterMap PipelineEvent.stamp?).Pairwise (· ≤ ·) ∧
      (∀ now ∈ acrossMonths.filterMap PipelineEvent.stamp?, Month.FourDigitYear now) ∧
      (∀ e ∈ p₀.written ⟨2, 10⟩ acrossMonths, e.2.Fits ∧
        ∀ r ∈ Record.ofSnapshot? e.1 e.2, r.Readable) ∧
      p.writer.hasEnded = true) ∧
    (p.writer.store.range "a" Word.minSigned64 Word.maxSigned64 0).map some =
      [some (acrossMonthsRow 1706745599999 0.0), some (acrossMonthsRow 1706745599999 1.5),
        some (acrossMonthsRow 1706745600000 2.5), some (acrossMonthsRow 1706745600000 2.5),
        some (acrossMonthsRow 1706745600001 3.5)] ∧
    (p.cache.historyOf "a" 0).map (Record.readBack? "a") =
      [some (acrossMonthsRow 1706745600000 2.5), some (acrossMonthsRow 1706745600001 3.5)] := by
  intro p₀ p
  have hroom : p₀.Unhindered ⟨2, 10⟩ acrossMonths := by decide +kernel
  have hascending : (acrossMonths.filterMap PipelineEvent.stamp?).Pairwise (· ≤ ·) := by decide
  have hyears : ∀ now ∈ acrossMonths.filterMap PipelineEvent.stamp?, Month.FourDigitYear now := by
    decide +kernel
  have hrows : ∀ e ∈ p₀.written ⟨2, 10⟩ acrossMonths, e.2.Fits ∧
      ∀ r ∈ Record.ofSnapshot? e.1 e.2, r.Readable := by
    decide +kernel
  have hended : p.writer.hasEnded = true := by decide +kernel
  obtain ⟨-, hhistory⟩ :=
    history_run ⟨2, 10⟩ 2 1 none 4 acrossMonths hroom hascending hyears hrows hended
  obtain ⟨hdurable, hlive⟩ := hhistory "a"
  refine ⟨⟨hroom, hascending, hyears, hrows, hended⟩, hdurable.trans ?_, hlive.symm.trans ?_⟩
  · decide +kernel
  · rw [List.rtake, List.map_drop, hdurable]
    decide +kernel

end Pipeline
end FleetTelemetry

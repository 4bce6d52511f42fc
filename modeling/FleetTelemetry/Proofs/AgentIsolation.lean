/-
# Agents do not see each other

Agents share the tables of the months and those of the summaries, and a rollup
goes through all of them in one loop. Yet what an agent is answered depends on
its own rows alone: two stores that have the same rows and the same summaries of
an agent answer its queries alike (`Store.SameFor`), and every operation keeps
them so, if one of them is given the rows of all agents and the other those of
this one (`Store.SameFor.step`). So the rows of the others can be left out of a
run (`Store.answers_onlyOf`), also those that are refused or whose average is no
number.

Key definitions: `Operation.records`, `Operation.onlyOf`, `Record.ofAgent`,
`Store.SameFor`.
Key theorems: `Store.SameFor.step`, `Store.SameFor.run`, `Store.answers_onlyOf`.
-/
import FleetTelemetry.Proofs.DailyRollup
import FleetTelemetry.Proofs.HourlyRetention

namespace FleetTelemetry

/-- The rows of an agent. -/
def Record.ofAgent {α : Type} (agentId : String) (rows : List (Record α)) : List (Record α) :=
  rows.filter fun r => r.agentId == agentId

namespace Operation

variable {α : Type}

/-- The rows that an operation is given to save. -/
def records : Operation α → List (Record α)
  | .save r => [r]
  | .saveAll rs => rs
  | _ => []

/-- An operation without the rows of all agents but one. -/
def onlyOf (agentId : String) : Operation α → List (Operation α)
  | .save r => if r.agentId = agentId then [.save r] else []
  | .saveAll rs => [.saveAll (Record.ofAgent agentId rs)]
  | op => [op]

end Operation

namespace Record

variable {α : Type} {agentId : String}

theorem ofAgent_append (rows rows' : List (Record α)) :
    ofAgent agentId (rows ++ rows') = ofAgent agentId rows ++ ofAgent agentId rows' :=
  List.filter_append ..

theorem ofAgent_idem (rows : List (Record α)) :
    ofAgent agentId (ofAgent agentId rows) = ofAgent agentId rows := by
  simp [ofAgent, List.filter_filter]

/-- To keep some rows of an agent, keep them among all rows. -/
theorem ofAgent_filter (p : Record α → Bool) (rows : List (Record α)) :
    ofAgent agentId (rows.filter p) = (ofAgent agentId rows).filter p :=
  List.filter_comm ..

theorem filter_ofAgent (p : Record α → Bool) (rows : List (Record α)) :
    (rows.filter fun r => r.agentId == agentId && p r) = (ofAgent agentId rows).filter p := by
  rw [ofAgent, List.filter_filter]
  simp only [Bool.and_comm]

variable [Gauge α]

theorem stored?_agentId {r r' : Record α} (h : r.stored? = some r') :
    r'.agentId = r.agentId := by
  obtain ⟨-, -, -, -, h⟩ := stored?_eq_some h
  rw [h]

/-- What is read back for the rows of an agent is what the agent has of what is read back. -/
theorem ofAgent_filterMap_stored? (rows : List (Record α)) :
    ofAgent agentId (rows.filterMap stored?) = (ofAgent agentId rows).filterMap stored? := by
  induction rows with
  | nil => rfl
  | cons r rows ih =>
    unfold ofAgent at ih ⊢
    cases hr : r.stored? with
    | none =>
      by_cases ha : r.agentId = agentId <;> simp [ha, hr, ih]
    | some r' =>
      have hagent := stored?_agentId hr
      by_cases ha : r.agentId = agentId <;> simp [ha, hr, hagent, ih]

end Record

/-- Two pairs of tables have the same summaries of an agent. -/
structure Summaries.SameFor {α : Type} (agentId : String) (tables tables' : Summaries α) :
    Prop where
  hourly : ∀ k, Summary.under agentId k tables.hourly = Summary.under agentId k tables'.hourly
  daily : ∀ k, Summary.under agentId k tables.daily = Summary.under agentId k tables'.daily

namespace Store

open Summary

variable {α : Type} [Gauge α] {agentId : String} {s s' : Store α}

/-- Two stores have no tables of summaries, or the same summaries of an agent. -/
def SameSummaries (agentId : String) (s s' : Store α) : Prop :=
  s.summaries = none ∧ s'.summaries = none ∨
  ∃ tables tables', s.summaries = some tables ∧ s'.summaries = some tables' ∧
    tables.SameFor agentId tables'

/-- Two stores have the same rows and summaries of an agent. -/
structure SameFor (agentId : String) (s s' : Store α) : Prop where
  raw : ∃ rows rows', s.Holds rows ∧ s'.Holds rows' ∧
    Record.ofAgent agentId rows = Record.ofAgent agentId rows'
  summaries : SameSummaries agentId s s'

omit [Gauge α] in
theorem SameSummaries.congr {t t' : Store α} (h : SameSummaries agentId s s')
    (ht : t.summaries = s.summaries) (ht' : t'.summaries = s'.summaries) :
    SameSummaries agentId t t' := by
  unfold SameSummaries at *
  rwa [ht, ht']

/-! ### Queries -/

section Queries

variable (h : SameFor agentId s s') (first last : Int)
include h

omit [Gauge α] in
/-- An agent with the same rows is given the same ones, whatever other months there are. -/
theorem SameFor.range (limit : Nat) :
    s.range agentId first last limit = s'.range agentId first last limit := by
  obtain ⟨rows, rows', hs, hs', heq⟩ := h.raw
  have hwanted : wanted agentId first last rows = wanted agentId first last rows' := by
    unfold wanted
    rw [Record.filter_ofAgent, heq, ← Record.filter_ofAgent]
  rw [hs.range_limited, hs'.range_limited, hwanted]

theorem SameFor.aggregated (interval : Option String) :
    s.aggregated agentId first last interval = s'.aggregated agentId first last interval :=
  congrArg _ (h.range first last 0)

omit [Gauge α] in
theorem SameFor.hourly : s.hourly agentId first last = s'.hourly agentId first last := by
  unfold Store.hourly
  rcases h.summaries with ⟨hn, hn'⟩ | ⟨tables, tables', ht, ht', hsame⟩
  · rw [hn, hn']
  · rw [ht, ht']
    exact congrArg Except.ok (select_congr hsame.hourly first last)

omit [Gauge α] in
theorem SameFor.daily : s.daily agentId first last = s'.daily agentId first last := by
  unfold Store.daily
  rcases h.summaries with ⟨hn, hn'⟩ | ⟨tables, tables', ht, ht', hsame⟩
  · rw [hn, hn']
  · rw [ht, ht']
    exact congrArg Except.ok (select_congr hsame.daily first last)

end Queries

/-! ### Without tables of summaries -/

/-- A rollup of an hour does not create the tables of summaries. -/
theorem step_rollupHour_none (h : s.summaries = none) (start : Int) :
    (s.step (.rollupHour start)).summaries = none := by
  rw [step_rollupHour]
  split
  · next s₁ report hr =>
    unfold rollupHour at hr
    split at hr
    · cases hr
    · rw [← show _ = s₁ from congrArg Prod.fst (Except.ok.inj hr)]
      refine rollupEach_induction (P := fun s => s.summaries = none) ?_ _ s _ h
      intro s₁ a s₂ h₁ h₂
      -- no summary is put
      obtain ⟨summary, -, hput⟩ := Option.map_eq_some_iff.mp h₂
      unfold putHourly at hput
      rw [h₁] at hput
      cases hput
  · exact h

theorem step_rollupDay_none (h : s.summaries = none) (start : Int) :
    s.step (.rollupDay start) = s := by
  have herror : s.rollupDay start = .error .database := by
    unfold rollupDay
    rw [h]
  rw [step_rollupDay, herror]

omit [Gauge α] in
theorem cleanup_none (h : s.summaries = none) (now : Int) (policy : RetentionPolicy) :
    (s.cleanup now policy).1.summaries = none := by
  have hp := (pruneRaw_summaries (cutoff now policy.rawDays) s {}).trans h
  unfold cleanup pruneSummaries
  dsimp only
  rw [hp]
  exact hp

/-! ### One operation -/

omit [Gauge α] in
theorem SameSummaries.createSummaries (h : SameSummaries agentId s s') :
    SameSummaries agentId s.createSummaries s'.createSummaries := by
  unfold Store.createSummaries
  rcases h with ⟨hn, hn'⟩ | ⟨tables, tables', ht, ht', hsame⟩
  · rw [hn, hn']
    exact .inr ⟨_, _, rfl, rfl, fun _ => rfl, fun _ => rfl⟩
  · rw [ht, ht']
    exact .inr ⟨_, _, rfl, rfl, hsame⟩

theorem SameFor.rollupHour (h : SameFor agentId s s') (start : Int) :
    SameSummaries agentId (s.step (.rollupHour start)) (s'.step (.rollupHour start)) := by
  obtain ⟨rows, rows', hs, hs', heq⟩ := h.raw
  rcases h.summaries with ⟨hn, hn'⟩ | ⟨tables, tables', ht, ht', hsame⟩
  · exact .inl ⟨step_rollupHour_none hn start, step_rollupHour_none hn' start⟩
  · obtain ⟨report, hourly, hroll, hu, -⟩ := hs.rollupHour_spec ht start
    obtain ⟨report', hourly', hroll', hu', -⟩ := hs'.rollupHour_spec ht' start
    have hhour : hourOf? rows start agentId = hourOf? rows' start agentId := by
      unfold hourOf? Record.inSpan
      rw [Record.filter_ofAgent, heq, ← Record.filter_ofAgent]
    rw [step_rollupHour, step_rollupHour, hroll, hroll']
    refine .inr ⟨_, _, rfl, rfl, fun k => ?_, hsame.daily⟩
    rw [hu, hu', hhour, hsame.hourly]

theorem SameSummaries.rollupDay (h : SameSummaries agentId s s') (start : Int) :
    SameSummaries agentId (s.step (.rollupDay start)) (s'.step (.rollupDay start)) := by
  rcases h with ⟨hn, hn'⟩ | ⟨tables, tables', ht, ht', hsame⟩
  · rw [step_rollupDay_none hn, step_rollupDay_none hn']
    exact .inl ⟨hn, hn'⟩
  · have hday : dayOf? tables.hourly start agentId = dayOf? tables'.hourly start agentId :=
      congrArg (ofDay? agentId start) (select_congr hsame.hourly _ _)
    rw [step_rollupDay, step_rollupDay, rollupDay_rollDay ht, rollupDay_rollDay ht']
    refine .inr ⟨_, _, rfl, rfl, hsame.hourly, fun k => ?_⟩
    rw [under_rollDay, under_rollDay, hday, hsame.daily]

omit [Gauge α] in
/-- A cleanup goes by the starts of the summaries alone. -/
theorem SameSummaries.cleanup (h : SameSummaries agentId s s') (now : Int)
    (policy : RetentionPolicy) :
    SameSummaries agentId (s.cleanup now policy).1 (s'.cleanup now policy).1 := by
  rcases h with ⟨hn, hn'⟩ | ⟨tables, tables', ht, ht', hsame⟩
  · exact .inl ⟨cleanup_none hn now policy, cleanup_none hn' now policy⟩
  · refine .inr ⟨_, _, cleanup_summaries ht now policy, cleanup_summaries ht' now policy,
      fun k => ?_, fun k => ?_⟩
    · rw [under_keptSummaries, under_keptSummaries, hsame.hourly]
    · rw [under_keptSummaries, under_keptSummaries, hsame.daily]

/-- An operation that is given no rows leaves the summaries of an agent the same. -/
theorem SameFor.step_summaries (h : SameFor agentId s s') {op : Operation α}
    (hop : op.isSave = false) : SameSummaries agentId (s.step op) (s'.step op) := by
  cases op with
  | save | saveAll => cases hop
  | range | aggregated | hourly | daily | listed | hasMonth | vacuum | reconnect =>
    exact h.summaries
  | rollupHour start => exact h.rollupHour start
  | rollupDay start => exact h.summaries.rollupDay start
  | rollupPreviousHour now =>
    rw [step_rollupPreviousHour, step_rollupPreviousHour]
    exact h.rollupHour _
  | cleanup now policy => exact h.summaries.cleanup now policy
  | cleanupCycle now policy vacuumAfter =>
    rw [step_cleanupCycle, step_cleanupCycle]
    exact (h.summaries.rollupDay _).cleanup now policy
  | createSummaries => exact h.summaries.createSummaries
  | setUp now =>
    exact h.summaries.createSummaries.congr (step_setUp_summaries s now)
      (step_setUp_summaries s' now)

theorem Holds.step_of_not_save {rows : List (Record α)} (h : s.Holds rows) {op : Operation α}
    (hop : op.isSave = false) : (s.step op).Holds (rows.filter op.spares) := by
  have haccepted : s.accepted op = [] := by
    cases op with
    | save | saveAll => cases hop
    | _ => rfl
  have hstep := h.step op fun r hr => by rw [haccepted] at hr; cases hr
  rwa [haccepted, List.append_nil] at hstep

theorem SameFor.step_of_not_save (h : SameFor agentId s s') {op : Operation α}
    (hop : op.isSave = false) : SameFor agentId (s.step op) (s'.step op) := by
  obtain ⟨rows, rows', hs, hs', heq⟩ := h.raw
  refine ⟨⟨_, _, hs.step_of_not_save hop, hs'.step_of_not_save hop, ?_⟩, h.step_summaries hop⟩
  rw [Record.ofAgent_filter, heq, ← Record.ofAgent_filter]

/-- The rows of the agent are accepted or refused whatever other rows are saved between them. -/
theorem SameFor.saveAll (h : SameFor agentId s s') {rs : List (Record α)}
    (hy : ∀ r ∈ rs, Month.FourDigitYear r.timestamp) :
    SameFor agentId (s.saveAll rs).1 (s'.saveAll (Record.ofAgent agentId rs)).1 := by
  obtain ⟨rows, rows', hs, hs', heq⟩ := h.raw
  have hy' : ∀ r ∈ Record.ofAgent agentId rs, Month.FourDigitYear r.timestamp := fun r hr =>
    hy r (List.mem_filter.mp hr).1
  refine ⟨⟨_, _, hs.saveAll_stored hy, hs'.saveAll_stored hy', ?_⟩,
    h.summaries.congr (saveAll_summaries _ s) (saveAll_summaries _ s')⟩
  rw [Record.ofAgent_append, Record.ofAgent_append, heq, Record.ofAgent_filterMap_stored?,
    Record.ofAgent_filterMap_stored?, Record.ofAgent_idem]

/-- **An operation keeps the same of an agent**, whether it is given the rows of the others or
not. -/
theorem SameFor.step (h : SameFor agentId s s') (op : Operation α)
    (hy : ∀ r ∈ op.records, Month.FourDigitYear r.timestamp) :
    SameFor agentId (s.step op) (s'.run (op.onlyOf agentId)) := by
  cases op with
  | save r =>
    have hsave := h.saveAll hy
    rw [Operation.records, saveAll_singleton] at hsave
    show SameFor agentId (s.save r).1 (s'.run (if r.agentId = agentId then [.save r] else []))
    by_cases ha : r.agentId = agentId
    · have hown : Record.ofAgent agentId [r] = [r] := by simp [Record.ofAgent, ha]
      rw [hown, saveAll_singleton] at hsave
      rw [if_pos ha]
      exact hsave
    · have hnone : Record.ofAgent agentId [r] = [] := by simp [Record.ofAgent, ha]
      rw [hnone] at hsave
      rw [if_neg ha]
      exact hsave
  | saveAll rs => exact h.saveAll hy
  | _ => exact h.step_of_not_save rfl

/-! ### Runs -/

theorem SameFor.run (ops : List (Operation α)) : ∀ {s s' : Store α}, SameFor agentId s s' →
    (∀ op ∈ ops, ∀ r ∈ op.records, Month.FourDigitYear r.timestamp) →
    SameFor agentId (s.run ops) (s'.run (ops.flatMap (Operation.onlyOf agentId))) := by
  induction ops with
  | nil => exact fun h _ => h
  | cons op ops ih =>
    intro s s' h hy
    rw [run_cons, List.flatMap_cons, run_append]
    exact ih (h.step op (hy op List.mem_cons_self)) fun op' hop =>
      hy op' (List.mem_cons_of_mem op hop)

omit [Gauge α] in
theorem sameFor_empty (agentId : String) : SameFor agentId ({} : Store α) {} :=
  ⟨⟨[], [], holds_empty, holds_empty, rfl⟩, .inl ⟨rfl, rfl⟩⟩

/-- No agent stops the rollup of an hour. -/
theorem Holds.isOk_rollupHour {rows : List (Record α)} (h : s.Holds rows) (start : Int) :
    (s.rollupHour start).isOk = true := by
  obtain ⟨raw, hraw, -⟩ := h.rowsBetween start (start + Span.hour.millis)
  unfold Store.rollupHour
  rw [hraw]
  rfl

theorem isOk_rollupDay (s : Store α) (start : Int) :
    (s.rollupDay start).isOk = s.summaries.isSome := by
  unfold rollupDay
  cases s.summaries <;> rfl

/-- **Agents do not see each other.** After any run of a store that is empty at first, if the rows
that it is given are of four-digit years, each query for an agent is answered as it would be had the
run been given none of the rows of the others. No agent stops a rollup. -/
theorem answers_onlyOf (agentId : String) (ops : List (Operation α))
    (hy : ∀ op ∈ ops, ∀ r ∈ op.records, Month.FourDigitYear r.timestamp) :
    let s := ({} : Store α).run ops
    let alone := ({} : Store α).run (ops.flatMap (Operation.onlyOf agentId))
    (∀ first last : Int,
      (∀ limit, s.range agentId first last limit = alone.range agentId first last limit) ∧
      (∀ interval, s.aggregated agentId first last interval =
        alone.aggregated agentId first last interval) ∧
      s.hourly agentId first last = alone.hourly agentId first last ∧
      s.daily agentId first last = alone.daily agentId first last) ∧
    ∀ start : Int, (s.rollupHour start).isOk = true ∧
      (s.rollupDay start).isOk = s.summaries.isSome := by
  intro s alone
  have h : SameFor agentId s alone := (sameFor_empty agentId).run ops hy
  obtain ⟨rows, -, hs, -⟩ := h.raw
  exact ⟨fun first last => ⟨h.range first last, h.aggregated first last, h.hourly first last,
    h.daily first last⟩, fun start => ⟨hs.isOk_rollupHour start, s.isOk_rollupDay start⟩⟩

/-- An agent whose row is refused in a month of its own and whose average is no number, before
another one in the rollups. -/
def infiniteMean : List (Operation Float) :=
  [.createSummaries,
    .save (.uniform "a" 1709251200000 (0.0 / 0.0) 1),
    .saveAll [.uniform "a" 1706745600000 (1.0 / 0.0) 1, .uniform "b" 1706745600000 1.5 2,
      .uniform "a" 1706745600001 (-1.0 / 0.0) 1, .uniform "b" 1706749199999 2.5 3],
    .rollupHour 1706745600000,
    .save (.uniform "a" 1675209600000 1.0 1),
    .cleanupCycle 1706832000000 ⟨1, 2, 1⟩ false]

theorem answers_onlyOf_infiniteMean :
    (∀ op ∈ infiniteMean, ∀ r ∈ op.records, Month.FourDigitYear r.timestamp) ∧
    (infiniteMean.flatMap (Operation.onlyOf "b")).length = 4 ∧
    ((({} : Store Float).run (infiniteMean.take 3)).rollupHour 1706745600000).toOption.map
      Prod.snd = some { agents := 2, rowsWritten := 1, failures := 1 } ∧
    (({} : Store Float).run infiniteMean).daily "b" 1706745600000 1706745600000 =
      .ok [{ agentId := "b", start := 1706745600000, cpuAvg := 2.0, cpuMax := 2.5, memAvg := 2.0,
             memMax := 2.5, netRxTotal := 5, netTxTotal := 5, dataPoints := 2 }] := by
  have hy : ∀ op ∈ infiniteMean, ∀ r ∈ op.records, Month.FourDigitYear r.timestamp := by
    decide +kernel
  obtain ⟨hanswers, -⟩ := answers_onlyOf "b" infiniteMean hy
  obtain ⟨-, -, -, hdaily⟩ := hanswers 1706745600000 1706745600000
  refine ⟨hy, by decide, by decide +kernel, hdaily.trans ?_⟩
  decide +kernel

end Store
end FleetTelemetry

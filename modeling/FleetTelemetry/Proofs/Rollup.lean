/-
# What a rollup of the hour reads and writes

A store that holds a flat list of rows finds in it the rows of an hour, agent by
agent (`Store.Holds.rowsBetween`). So the rollup of the hour writes for every
agent the summary of the agent's rows of the list, under that hour and under no
other, and counts these agents (`Store.Holds.rollupHour_rollHour`).

Key definitions: `Record.inSpan`, `Record.agentsIn`, `Store.hourOf?`,
`Summaries.rollHour`.
Key theorems: `Store.Holds.rowsBetween`, `Store.Holds.rollupHour_rollHour`,
`Summary.under_rollHour`, `Store.Holds.rollupHour_spec`.
-/
import FleetTelemetry.Proofs.FlatList
import FleetTelemetry.Proofs.SummaryTable
import Mathlib.Data.String.Basic

namespace FleetTelemetry

/-- The rows of an agent from `start` on and before `stop`, in order. -/
def Record.inSpan {α : Type} (agentId : String) (start stop : Int) (rows : List (Record α)) :
    List (Record α) :=
  inOrder (rows.filter fun r =>
    r.agentId == agentId && (decide (start ≤ r.timestamp) && decide (r.timestamp < stop)))

/-- The agents of the rows from `start` on and before `stop`, ascending. -/
def Record.agentsIn {α : Type} (start stop : Int) (rows : List (Record α)) : List String :=
  Ascending.ofList ((rows.filter fun r =>
    decide (start ≤ r.timestamp) && decide (r.timestamp < stop)).map agentId)

namespace Store

open Summary

variable {α : Type}

theorem within_before (start stop ts : Int) :
    within start (stop - 1) ts = (decide (start ≤ ts) && decide (ts < stop)) := by
  unfold within
  congr 1
  exact decide_eq_decide.mpr Int.le_sub_one_iff

theorem mem_inSpan {agentId : String} {start stop : Int} {rows : List (Record α)} {r : Record α} :
    r ∈ Record.inSpan agentId start stop rows ↔
      r ∈ rows ∧ r.agentId = agentId ∧ start ≤ r.timestamp ∧ r.timestamp < stop := by
  simp only [Record.inSpan, Record.inOrder, StableOrder.mem_sort, List.mem_filter,
    Bool.and_eq_true, beq_iff_eq, decide_eq_true_eq]

theorem Holds.range_eq_inSpan {s : Store α} {rows : List (Record α)} (h : s.Holds rows)
    (agentId : String) (start stop : Int) :
    s.range agentId start (stop - 1) 0 = Record.inSpan agentId start stop rows := by
  rw [h.range]
  simp only [within_before]
  rfl

theorem foldlM_rows {s : Store α} {table : Month → List (Record α)} (start stop : Int) :
    ∀ (ms : List Month) (rows : List (Record α)),
    (∀ m ∈ ms, s.table? m = some (.rows (table m))) →
    (ms.foldlM (fun rows m =>
      match s.table? m with
      | some (.rows rs) => .ok (rows ++ rs.filter fun r => within start (stop - 1) r.timestamp)
      | _ => .error .database) rows : Except StoreError (List (Record α))) =
    .ok (rows ++ ms.flatMap fun m =>
      (table m).filter fun r => within start (stop - 1) r.timestamp)
  | [], rows, _ => by rw [List.flatMap_nil, List.append_nil]; rfl
  | m :: ms, rows, h => by
    rw [List.foldlM_cons, h m List.mem_cons_self, List.flatMap_cons, ← List.append_assoc]
    exact foldlM_rows start stop ms _ fun m' hm' => h m' (List.mem_cons_of_mem m hm')

theorem mem_agents_iff {agentId : String} {rows : List (Record α)} :
    agentId ∈ rows.map Record.agentId ↔ rowsOf agentId rows ≠ [] := by
  constructor
  · intro h hnil
    obtain ⟨r, hr, rfl⟩ := List.mem_map.mp h
    have : r ∈ rowsOf r.agentId rows :=
      StableOrder.mem_sort.mpr (List.mem_filter.mpr ⟨hr, beq_self_eq_true _⟩)
    rw [hnil] at this
    cases this
  · intro h
    obtain ⟨r, hr⟩ := List.exists_mem_of_ne_nil _ h
    obtain ⟨hr, ha⟩ := List.mem_filter.mp (StableOrder.mem_sort.mp hr)
    exact List.mem_map.mpr ⟨r, hr, beq_iff_eq.mp ha⟩

/-- The rows of an agent that a rollup reads are those of the list. -/
theorem Holds.rowsBetween {s : Store α} {rows : List (Record α)} (h : s.Holds rows)
    (start stop : Int) :
    ∃ raw, s.rowsBetween start stop = .ok raw ∧
      ∀ a, rowsOf a raw = Record.inSpan a start stop rows := by
  refine ⟨_, foldlM_rows start stop _ [] fun m hm => h.table?_of_mem_inWindow hm, fun a => ?_⟩
  set wanted : Record α → Bool := fun r =>
    r.agentId == a && (decide (start ≤ r.timestamp) && decide (r.timestamp < stop)) with hwanted
  have hparts : ((Month.inWindow s.listed start (stop - 1)).flatMap fun m =>
        (rows.filter (belongs m)).filter fun r => within start (stop - 1) r.timestamp).filter
          (fun r => r.agentId == a) =
      (Month.inWindow s.listed start (stop - 1)).flatMap fun m =>
        (rows.filter wanted).filter (belongs m) := by
    rw [List.filter_flatMap]
    refine List.flatMap_congr fun m _ => ?_
    rw [List.filter_filter, List.filter_filter, List.filter_filter]
    refine List.filter_congr fun r _ => ?_
    rw [within_before, ← Bool.and_assoc, Bool.and_comm]
    exact congrArg (belongs m r && ·) (Bool.and_assoc _ _ _)
  have hall : ∀ r ∈ rows.filter wanted,
      ∃ m ∈ Month.inWindow s.listed start (stop - 1), belongs m r = true := by
    intro r hr
    obtain ⟨hr, hw⟩ := List.mem_filter.mp hr
    refine h.exists_mem_inWindow hr ?_
    rw [within_before]
    exact (Bool.and_eq_true_iff.mp hw).2
  rw [List.nil_append, rowsOf, Record.inOrder, hparts,
    StableOrder.sort_flatMap (s.inWindow_pairwise start (stop - 1)) hall]
  rfl

theorem mem_agentsIn {agentId : String} {start stop : Int} {rows : List (Record α)} :
    agentId ∈ Record.agentsIn start stop rows ↔ Record.inSpan agentId start stop rows ≠ [] := by
  rw [Record.agentsIn, Ascending.mem_ofList, mem_agents_iff, rowsOf, List.filter_filter]
  rfl

theorem agentsIn_ascending (start stop : Int) (rows : List (Record α)) :
    (Record.agentsIn start stop rows).Pairwise (· < ·) :=
  Ascending.pairwise_ofList (fun _ _ _ => lt_trans) lt_trichotomy _

theorem agentsIn_nodup (start stop : Int) (rows : List (Record α)) :
    (Record.agentsIn start stop rows).Nodup :=
  (agentsIn_ascending start stop rows).imp fun hlt => hlt.ne

variable [Gauge α]

/-- The summary of an hour of an agent, from its rows among some. -/
def hourOf? (rows : List (Record α)) (start : Int) (agentId : String) : Option (Summary α .hour) :=
  ofHour? agentId start (Record.inSpan agentId start (start + Span.hour.millis) rows)

/-- The summary of an hour of an agent is under the agent and the hour. -/
theorem hourOf?_key {rows : List (Record α)} {start : Int} (a : String) (sm : Summary α .hour)
    (h : hourOf? rows start a = some sm) : sm.agentId = a ∧ sm.start = start :=
  ofHour?_key h

/-- An agent has a summary of an hour if it has rows in it. -/
theorem hourOf?_isSome_iff {rows : List (Record α)} {start : Int} {a : String} :
    (hourOf? rows start a).isSome = true ↔
      a ∈ Record.agentsIn start (start + Span.hour.millis) rows := by
  rw [mem_agentsIn, hourOf?, Option.isSome_iff_ne_none, ne_eq, ofHour?_eq_none_iff]

theorem mem_agentsIn_of_hourOf? {rows : List (Record α)} {start : Int} (a : String)
    (sm : Summary α .hour) (h : hourOf? rows start a = some sm) :
    a ∈ Record.agentsIn start (start + Span.hour.millis) rows :=
  hourOf?_isSome_iff.mp (Option.isSome_iff_exists.mpr ⟨sm, h⟩)

end Store

/-- The hourly summaries after the rollup of an hour. -/
def Summaries.rollHour {α : Type} [Gauge α] (tables : Summaries α) (rows : List (Record α))
    (start : Int) : List (Summary α .hour) :=
  Summary.putEach (Store.hourOf? rows start)
    (Record.agentsIn start (start + Span.hour.millis) rows) tables.hourly

theorem Summary.under_rollHour {α : Type} [Gauge α] (tables : Summaries α) (rows : List (Record α))
    (start : Int) (agentId : String) (k : Int) :
    under agentId k (tables.rollHour rows start) =
      if k = start then
        ((Store.hourOf? rows start agentId).bind stored?).elim (under agentId k tables.hourly)
          ([·])
      else under agentId k tables.hourly :=
  under_putEach_of_all Store.mem_agentsIn_of_hourOf? Store.hourOf?_key tables.hourly agentId k

namespace Store

open Summary

variable {α : Type} [Gauge α]

/-- The rollup of an hour by the rows of each agent that it reads. -/
theorem rollupHour_rollHour {s : Store α} {tables : Summaries α} (ht : s.summaries = some tables)
    {start : Int} {raw rows : List (Record α)}
    (hraw : s.rowsBetween start (start + Span.hour.millis) = .ok raw)
    (hrows : ∀ a, rowsOf a raw = Record.inSpan a start (start + Span.hour.millis) rows) :
    s.rollupHour start =
      .ok ({ s with summaries := some { tables with hourly := tables.rollHour rows start } },
        tally (hourOf? rows start)
          (Record.agentsIn start (start + Span.hour.millis) rows)) := by
  have hsummary : (fun a => ofHour? a start (rowsOf a raw)) = hourOf? rows start :=
    funext fun a => by rw [hrows, hourOf?]
  have hagents : Ascending.ofList (raw.map Record.agentId) =
      Record.agentsIn start (start + Span.hour.millis) rows := by
    refine (Ascending.pairwise_ofList (fun _ _ _ => lt_trans) lt_trichotomy _).eq_of_mem_iff
      (agentsIn_ascending start _ rows) fun a => ?_
    rw [mem_agentsIn, Ascending.mem_ofList, mem_agents_iff, hrows]
  have hroll := rollupHour_putEach ht hraw
  rw [hsummary, hagents] at hroll
  exact hroll

/-- **The rollup of an hour** summarises the rows of the hour of the list, agent by agent. -/
theorem Holds.rollupHour_rollHour {s : Store α} {rows : List (Record α)} (h : s.Holds rows)
    {tables : Summaries α} (ht : s.summaries = some tables) (start : Int) :
    s.rollupHour start =
      .ok ({ s with summaries := some { tables with hourly := tables.rollHour rows start } },
        tally (hourOf? rows start)
          (Record.agentsIn start (start + Span.hour.millis) rows)) := by
  obtain ⟨raw, hraw, hrows⟩ := h.rowsBetween start (start + Span.hour.millis)
  exact Store.rollupHour_rollHour ht hraw hrows

/-- It writes the summaries of these rows, where they can be stored, and leaves
all else as it is. It reports no failure only if it wrote one for every agent with a row. -/
theorem Holds.rollupHour_spec {s : Store α} {rows : List (Record α)} (h : s.Holds rows)
    {tables : Summaries α} (ht : s.summaries = some tables) (start : Int) :
    ∃ report hourly,
      s.rollupHour start =
        .ok ({ s with summaries := some { tables with hourly } }, report) ∧
      (∀ a k, under a k hourly =
        if k = start then ((hourOf? rows start a).bind stored?).elim (under a k tables.hourly) ([·])
        else under a k tables.hourly) ∧
      (report.failures = 0 →
        ∀ a sm, hourOf? rows start a = some sm → sm.stored?.isSome = true) :=
  ⟨_, _, h.rollupHour_rollHour ht start, under_rollHour tables rows start, fun h₀ _ _ hsm =>
    isSome_of_refused_eq_zero mem_agentsIn_of_hourOf? h₀ hsm⟩

end Store
end FleetTelemetry

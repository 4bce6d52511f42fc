/-
# Tables of summaries

A table of summaries is looked at under the key of an agent and a start. To put
a summary leaves it alone under its key and changes nothing under another
(`Summary.under_put`); a rollup puts the summaries of some agents for one start,
each as far as its table takes it (`Summary.putEach`), and counts those that are
taken and those that are refused (`Summary.tally`). To do so again changes
nothing (`Summary.putEach_putEach`).

Key definitions: `Summary.under`, `Summary.putEach`, `Summary.refused`,
`Summary.tally`, `Summary.dayOf?`, `Summaries.rollDay`.
Key theorems: `Summary.under_put`, `Summary.select_eq`, `Summary.under_putEach`,
`Summary.putEach_eq`, `Summary.tally_total`, `Summary.under_rollDay`,
`Store.cleanup_summaries`, `Store.rollupHour_putEach`, `Store.rollupDay_rollDay`,
`Store.cleanupCycle_eq`.
-/
import FleetTelemetry.Proofs.StableOrder
import FleetTelemetry.Store.Maintenance

namespace FleetTelemetry
namespace Summary

variable {α : Type} {span : Span}

/-- The rows of a table for an agent and a start. -/
def under (agentId : String) (start : Int) (table : List (Summary α span)) :
    List (Summary α span) :=
  table.filter fun t => t.agentId == agentId && t.start == start

theorem under_put (s : Summary α span) (table : List (Summary α span)) (agentId : String)
    (start : Int) :
    under agentId start (s.put table) =
      if s.agentId = agentId ∧ s.start = start then [s] else under agentId start table := by
  unfold under put
  rw [List.filter_append, List.filter_filter]
  split
  · next h =>
    obtain ⟨rfl, rfl⟩ := h
    simp
  · next h =>
    have hs : (s.agentId == agentId && s.start == start) = false := by simpa using h
    rw [List.filter_cons_of_neg (by rw [hs]; exact Bool.false_ne_true), List.filter_nil,
      List.append_nil]
    refine List.filter_congr fun t _ => ?_
    by_cases ht : t.agentId = agentId ∧ t.start = start
    · obtain ⟨rfl, rfl⟩ := ht
      have hne : ¬ (t.agentId = s.agentId ∧ t.start = s.start) := fun h' =>
        h ⟨h'.1.symm, h'.2.symm⟩
      simpa only [beq_self_eq_true, Bool.and_self, Bool.true_and, Bool.not_eq_true',
        Bool.and_eq_false_imp, beq_iff_eq, beq_eq_false_iff_ne, ne_eq, not_and] using hne
    · have : (t.agentId == agentId && t.start == start) = false := by simpa using ht
      rw [this, Bool.false_and]

theorem under_keptSummaries (first : Int) (table : List (Summary α span)) (agentId : String)
    (start : Int) :
    under agentId start (Store.keptSummaries first table) =
      if first ≤ start then under agentId start table else [] := by
  unfold under Store.keptSummaries
  rw [List.filter_filter]
  split
  · next h =>
    refine List.filter_congr fun t _ => ?_
    by_cases ht : t.start = start
    · rw [ht, decide_eq_true h, Bool.and_true]
    · have : (t.start == start) = false := by simpa using ht
      rw [this, Bool.and_false, Bool.false_and]
  · next h =>
    refine List.filter_eq_nil_iff.mpr fun t _ ht => ?_
    simp only [Bool.and_eq_true, beq_iff_eq, decide_eq_true_eq] at ht
    omega

/-! ### Queries -/

theorem filter_start (agentId : String) (first last k : Int) (table : List (Summary α span)) :
    (table.filter fun s => s.agentId == agentId && within first last s.start).filter
      (fun s => s.start == k) = if within first last k then under agentId k table else [] := by
  rw [List.filter_filter]
  split
  · next hk =>
    refine List.filter_congr fun s _ => ?_
    by_cases hs : s.start = k
    · rw [hs, hk, Bool.and_true, Bool.and_comm]
    · have : (s.start == k) = false := by simpa using hs
      rw [this, Bool.false_and, Bool.and_false]
  · next hk =>
    refine List.filter_eq_nil_iff.mpr fun s _ hs => hk ?_
    simp only [Bool.and_eq_true, beq_iff_eq] at hs
    exact hs.1 ▸ hs.2.2

/-- Summaries that ascend and are those of an agent under every start of a window answer its
query. -/
theorem select_eq {agentId : String} {first last : Int} {hours table : List (Summary α span)}
    (hp : hours.Pairwise fun s t => s.start ≤ t.start)
    (h : ∀ k, hours.filter (fun s => s.start == k) =
      if within first last k then under agentId k table else []) :
    select agentId first last table = hours := by
  refine (StableOrder.eq_sort hp fun k => ?_).symm
  rw [h, filter_start]

theorem select_congr {agentId : String} {table table' : List (Summary α span)}
    (h : ∀ k, under agentId k table' = under agentId k table) (first last : Int) :
    select agentId first last table' = select agentId first last table := by
  refine StableOrder.sort_congr fun k => ?_
  rw [filter_start, filter_start, h]

theorem select_single (agentId : String) (start : Int) (table : List (Summary α span)) :
    select agentId start start table = under agentId start table := by
  have hstart : ∀ s ∈ under agentId start table, s.start = start := by
    intro s hs
    have := (List.mem_filter.mp hs).2
    rw [Bool.and_eq_true, beq_iff_eq, beq_iff_eq] at this
    exact this.2
  refine select_eq (List.pairwise_of_forall_mem_list fun s hs t ht => ?_) fun k => ?_
  · exact Int.le_of_eq ((hstart s hs).trans (hstart t ht).symm)
  · split
    · next hk =>
      obtain rfl : k = start := by
        simp only [within, Bool.and_eq_true, decide_eq_true_eq] at hk
        omega
      exact List.filter_eq_self.mpr fun s hs => beq_iff_eq.mpr (hstart s hs)
    · next hk =>
      refine List.filter_eq_nil_iff.mpr fun s hs hsk => hk ?_
      rw [← beq_iff_eq.mp hsk, hstart s hs]
      simp [within]

/-! ### Summaries that are put -/

variable [Gauge α]

/-- What is read back for a summary differs from it in its averages and maxima alone. -/
theorem stored?_eq_some {s s' : Summary α span} (h : s.stored? = some s') :
    Gauge.stored s.cpuAvg = some s'.cpuAvg ∧ Gauge.stored s.cpuMax = some s'.cpuMax ∧
      Gauge.stored s.memAvg = some s'.memAvg ∧ Gauge.stored s.memMax = some s'.memMax ∧
      s' = { s with
        cpuAvg := s'.cpuAvg, cpuMax := s'.cpuMax, memAvg := s'.memAvg, memMax := s'.memMax } := by
  simp only [stored?, Option.bind_eq_bind, Option.pure_def, Option.bind_eq_some_iff,
    Option.some.injEq] at h
  obtain ⟨_, h₁, _, h₂, _, h₃, _, h₄, rfl⟩ := h
  exact ⟨h₁, h₂, h₃, h₄, rfl⟩

theorem stored?_key {s s' : Summary α span} (h : s.stored? = some s') :
    s'.agentId = s.agentId ∧ s'.start = s.start := by
  obtain ⟨-, -, -, -, h⟩ := stored?_eq_some h
  rw [h]
  exact ⟨rfl, rfl⟩

/-- Puts the summaries of some agents into a table, as far as there are such and it takes them. -/
def putEach (summary : String → Option (Summary α span)) :
    List String → List (Summary α span) → List (Summary α span)
  | [], table => table
  | a :: agents, table =>
    putEach summary agents (((summary a).bind stored?).elim table fun s => s.put table)

/-- The number of agents whose summaries can be stored. -/
def storable (summary : String → Option (Summary α span)) (agents : List String) : Nat :=
  agents.countP fun a => ((summary a).bind stored?).isSome

/-- The number of agents whose summaries are refused. -/
def refused (summary : String → Option (Summary α span)) (agents : List String) : Nat :=
  agents.countP fun a => (summary a).any fun s => s.stored?.isNone

/-- What a rollup of some agents reports. -/
def tally (summary : String → Option (Summary α span)) (agents : List String) : RollupReport where
  agents := agents.length
  rowsWritten := storable summary agents
  failures := refused summary agents

theorem tally_total {summary : String → Option (Summary α span)} {agents : List String}
    (hall : ∀ a ∈ agents, (summary a).isSome = true) :
    (tally summary agents).rowsWritten + (tally summary agents).failures =
      (tally summary agents).agents := by
  have hrefused : refused summary agents =
      agents.countP fun a => decide ¬((summary a).bind stored?).isSome = true := by
    refine List.countP_congr fun a ha => ?_
    obtain ⟨s, hs⟩ := Option.isSome_iff_exists.mp (hall a ha)
    rw [hs, Option.any_some, Option.bind_some]
    simp
  show storable summary agents + refused summary agents = agents.length
  rw [hrefused]
  exact (List.length_eq_countP_add_countP _).symm

/-- Putting the summaries of one start shows under that start alone, and there for the agents that
have one. -/
theorem under_putEach {summary : String → Option (Summary α span)} {start : Int}
    (hkey : ∀ a s, summary a = some s → s.agentId = a ∧ s.start = start) (a : String) (k : Int) :
    ∀ (agents : List String) (table : List (Summary α span)),
    under a k (putEach summary agents table) =
      if k = start ∧ a ∈ agents then ((summary a).bind stored?).elim (under a k table) ([·])
      else under a k table
  | [], table => by simp [putEach]
  | b :: agents, table => by
    rw [putEach, under_putEach hkey a k agents]
    cases hb : (summary b).bind stored? with
    | none =>
      by_cases hab : a = b
      · subst hab
        rw [hb]
        simp
      · simp [hab]
    | some s =>
      obtain ⟨s₀, h₀, hs⟩ := Option.bind_eq_some_iff.mp hb
      obtain ⟨hk₁, hk₂⟩ := stored?_key hs
      obtain ⟨hk₃, hk₄⟩ := hkey b s₀ h₀
      simp only [Option.elim_some, under_put, hk₁, hk₂, hk₃, hk₄, List.mem_cons]
      by_cases hab : a = b
      · subst hab
        rw [hb]
        by_cases hk : k = start <;> simp [hk, Ne.symm]
      · simp [hab, Ne.symm hab]

/-- Whether a rollup of one start puts another summary in the place of this one. -/
def replaced (summary : String → Option (Summary α span)) (agents : List String) (start : Int)
    (t : Summary α span) : Bool :=
  t.start == start && agents.contains t.agentId && ((summary t.agentId).bind stored?).isSome

/-- **What a rollup writes stands in the end of the table**, in the order of the agents, and what
it replaces is gone. -/
theorem putEach_eq {summary : String → Option (Summary α span)} {start : Int}
    (hkey : ∀ a s, summary a = some s → s.agentId = a ∧ s.start = start) :
    ∀ {agents : List String}, agents.Nodup → ∀ table : List (Summary α span),
    putEach summary agents table =
      table.filter (fun t => !replaced summary agents start t) ++
        agents.filterMap fun a => (summary a).bind stored?
  | [], _, table => by simp [putEach, replaced]
  | b :: agents, hd, table => by
    obtain ⟨hb, hd⟩ := List.nodup_cons.mp hd
    rw [putEach, putEach_eq hkey hd]
    cases hs : (summary b).bind stored? with
    | none =>
      rw [List.filterMap_cons, hs, Option.elim_none]
      refine congrArg (· ++ _) (List.filter_congr fun t _ => ?_)
      by_cases ht : t.agentId = b
      · simp [replaced, ht, hs]
      · simp [replaced, ht]
    | some s =>
      obtain ⟨s₀, h₀, hs₀⟩ := Option.bind_eq_some_iff.mp hs
      obtain ⟨hagent, hstart⟩ := stored?_key hs₀
      rw [(hkey b s₀ h₀).1] at hagent
      rw [(hkey b s₀ h₀).2] at hstart
      have hfresh : replaced summary agents start s = false := by simp [replaced, hagent, hb]
      rw [List.filterMap_cons, hs, Option.elim_some, put, List.filter_append,
        List.filter_filter, List.filter_singleton, hfresh, List.append_assoc]
      refine congrArg₂ (· ++ ·) (List.filter_congr fun t _ => ?_) rfl
      by_cases ht : t.agentId = b
      · simp [replaced, ht, hs, hb, hagent, hstart]
      · simp [replaced, ht, hagent]

/-- To write the same summaries again changes nothing. -/
theorem putEach_putEach {summary : String → Option (Summary α span)} {start : Int}
    (hkey : ∀ a s, summary a = some s → s.agentId = a ∧ s.start = start) {agents : List String}
    (hd : agents.Nodup) (table : List (Summary α span)) :
    putEach summary agents (putEach summary agents table) = putEach summary agents table := by
  have hnew : (agents.filterMap fun a => (summary a).bind stored?).filter
      (fun t => !replaced summary agents start t) = [] := by
    refine List.filter_eq_nil_iff.mpr fun t ht => ?_
    obtain ⟨a, ha, hs⟩ := List.mem_filterMap.mp ht
    obtain ⟨s₀, h₀, hs₀⟩ := Option.bind_eq_some_iff.mp hs
    obtain ⟨hagent, hstart⟩ := stored?_key hs₀
    rw [(hkey a s₀ h₀).1] at hagent
    rw [(hkey a s₀ h₀).2] at hstart
    simp [replaced, hagent, hstart, ha, hs]
  rw [putEach_eq hkey hd (putEach summary agents table), putEach_eq hkey hd table,
    List.filter_append, List.filter_filter, hnew, List.append_nil]
  simp only [Bool.and_self]

section All

variable {summary : String → Option (Summary α span)} {agents : List String}
  (hall : ∀ a s, summary a = some s → a ∈ agents)
include hall

theorem under_putEach_of_all {start : Int}
    (hkey : ∀ a s, summary a = some s → s.agentId = a ∧ s.start = start)
    (table : List (Summary α span)) (a : String) (k : Int) :
    under a k (putEach summary agents table) =
      if k = start then ((summary a).bind stored?).elim (under a k table) ([·])
      else under a k table := by
  rw [under_putEach hkey a k]
  cases hs : summary a with
  | none => simp
  | some s => simp only [hall a s hs, and_true]

theorem isSome_of_refused_eq_zero (h : refused summary agents = 0) {a : String}
    {s : Summary α span} (hs : summary a = some s) : s.stored?.isSome = true := by
  have hnot := List.countP_eq_zero.mp h a (hall a s hs)
  rw [hs] at hnot
  cases hst : s.stored? with
  | none => simp [hst] at hnot
  | some _ => rfl

end All

/-- The summary of a day of an agent, from its hours in a table. -/
def dayOf? (hourly : List (Summary α .hour)) (start : Int) (agentId : String) :
    Option (Summary α .day) :=
  ofDay? agentId start (select agentId start (start + Span.day.millis - 1) hourly)

/-- The agents with hours in a day. -/
def agentsOfDay (hourly : List (Summary α .hour)) (start : Int) : List String :=
  Ascending.ofList
    ((hourly.filter fun h => within start (start + Span.day.millis - 1) h.start).map
      Summary.agentId)

theorem ofHour?_key {agentId : String} {start : Int} {rows : List (Record α)}
    {summary : Summary α .hour} (h : ofHour? agentId start rows = some summary) :
    summary.agentId = agentId ∧ summary.start = start := by
  unfold ofHour? at h
  split at h
  · cases h
  · obtain rfl := Option.some.inj h
    exact ⟨rfl, rfl⟩

theorem mem_agentsOfDay {hourly : List (Summary α .hour)} {start : Int} {a : String}
    {s : Summary α .day} (h : dayOf? hourly start a = some s) : a ∈ agentsOfDay hourly start := by
  unfold dayOf? ofDay? at h
  dsimp only at h
  split at h
  · cases h
  · next hne =>
    rw [Bool.or_eq_true, not_or, List.isEmpty_iff] at hne
    obtain ⟨t, ht⟩ := List.exists_mem_of_ne_nil _ hne.1
    obtain ⟨ht, hw⟩ := List.mem_filter.mp (StableOrder.mem_sort.mp ht)
    rw [Bool.and_eq_true, beq_iff_eq] at hw
    exact Ascending.mem_ofList.mpr
      (List.mem_map.mpr ⟨t, List.mem_filter.mpr ⟨ht, hw.2⟩, hw.1⟩)

theorem ofDay?_key {agentId : String} {start : Int} {hours : List (Summary α .hour)}
    {summary : Summary α .day} (h : ofDay? agentId start hours = some summary) :
    summary.agentId = agentId ∧ summary.start = start := by
  unfold ofDay? at h
  dsimp only at h
  split at h
  · cases h
  · obtain rfl := Option.some.inj h
    exact ⟨rfl, rfl⟩

end Summary

/-- The daily summaries after the rollup of a day. -/
def Summaries.rollDay {α : Type} [Gauge α] (tables : Summaries α) (start : Int) :
    List (Summary α .day) :=
  Summary.putEach (Summary.dayOf? tables.hourly start) (Summary.agentsOfDay tables.hourly start)
    tables.daily

namespace Summary

theorem under_rollDay {α : Type} [Gauge α] (tables : Summaries α) (start : Int)
    (agentId : String) (k : Int) :
    under agentId k (tables.rollDay start) =
      if k = start then
        ((dayOf? tables.hourly start agentId).bind stored?).elim (under agentId k tables.daily)
          ([·])
      else under agentId k tables.daily :=
  under_putEach_of_all (fun _ _ => mem_agentsOfDay) (fun _ _ h => ofDay?_key h) tables.daily
    agentId k

end Summary

namespace Store

open Summary

variable {α : Type} [Gauge α] {span : Span}

/-! ### What leaves the tables alone, and what a cleanup leaves of them -/

omit [Gauge α] in
theorem ensure_summaries {s s' : Store α} {m : Month} (h : s.ensure m = .ok s') :
    s'.summaries = s.summaries := by
  unfold ensure at h
  split at h
  · rw [← Except.ok.inj h]
  · split at h
    · cases h
    · split at h
      · cases h
      · rw [← Except.ok.inj h]
      · rw [← Except.ok.inj h]
        rfl

theorem save_summaries (s : Store α) (r : Record α) : (s.save r).1.summaries = s.summaries := by
  unfold save
  split
  · rfl
  · split
    · rfl
    · next s₁ h₁ =>
      have hs := ensure_summaries h₁
      split
      · exact hs
      · next s₂ h₂ =>
        unfold append at h₂
        split at h₂
        · rw [← Except.ok.inj h₂]
          exact hs
        · cases h₂

theorem saveAll_summaries (rs : List (Record α)) (s : Store α) :
    (s.saveAll rs).1.summaries = s.summaries := by
  rw [saveAll_fst]
  induction rs generalizing s with
  | nil => rfl
  | cons r rs ih => exact (ih _).trans (save_summaries s r)

omit [Gauge α] in
theorem pruneRaw_summaries (first : Int) (s : Store α) (report : CleanupReport) :
    (pruneRaw first s report).1.summaries = s.summaries := by
  unfold pruneRaw
  split
  · rfl
  · next c _ =>
    have hone : ∀ (s : Store α) report m,
        (pruneMonth first c s report m).1.summaries = s.summaries := by
      intro s report m
      unfold pruneMonth
      split
      · rfl
      · split
        · split <;> rfl
        · rfl
    generalize s.listed = ms
    induction ms generalizing s report with
    | nil => rfl
    | cons m ms ih => exact (ih _ _).trans (hone s report m)

omit [Gauge α] in
/-- A cleanup applies the raw cutoff and those of the summaries. -/
theorem cleanup_eq {s : Store α} {tables : Summaries α} (ht : s.summaries = some tables)
    (now : Int) (policy : RetentionPolicy) :
    let raw := pruneRaw (cutoff now policy.rawDays) s {}
    let hourly := keptSummaries (cutoff now policy.hourlyDays) tables.hourly
    let daily := keptSummaries (cutoff now policy.dailyDays) tables.daily
    s.cleanup now policy =
      ({ raw.1 with summaries := some { hourly, daily } },
        { raw.2 with
          hourlyRowsDeleted := tables.hourly.length - hourly.length
          dailyRowsDeleted := tables.daily.length - daily.length }) := by
  have hp := (pruneRaw_summaries (cutoff now policy.rawDays) s {}).trans ht
  unfold cleanup pruneSummaries
  dsimp only
  rw [hp]

omit [Gauge α] in
theorem cleanup_summaries {s : Store α} {tables : Summaries α} (ht : s.summaries = some tables)
    (now : Int) (policy : RetentionPolicy) :
    (s.cleanup now policy).1.summaries = some
      { hourly := keptSummaries (cutoff now policy.hourlyDays) tables.hourly
        daily := keptSummaries (cutoff now policy.dailyDays) tables.daily } := by
  rw [cleanup_eq ht]

/-! ### Rollups -/

/-- Writing the summary of each agent in turn puts each of them and counts, if `put` does so with
one. -/
theorem rollupEach_putEach (put : Store α → Summary α span → Except StoreError (Store α))
    (write : List (Summary α span) → Store α)
    (hput : ∀ table s, put (write table) s =
      s.stored?.elim (.error .database) fun s => .ok (write (s.put table)))
    (summary : String → Option (Summary α span)) :
    ∀ (agents : List String) (table : List (Summary α span)) (report : RollupReport),
    rollupEach (fun s a => (summary a).map (put s)) agents (write table) report =
      (write (putEach summary agents table),
        { report with
          rowsWritten := report.rowsWritten + storable summary agents
          failures := report.failures + refused summary agents })
  | [], _, _ => rfl
  | a :: agents, table, report => by
    have ih := rollupEach_putEach put write hput summary agents
    unfold rollupEach putEach storable refused
    rw [List.countP_cons, List.countP_cons]
    cases ha : summary a with
    | none => exact ih table report
    | some s =>
      rw [Option.map_some, hput, Option.bind_some, Option.any_some]
      cases s.stored? with
      | none =>
        refine (ih table { report with failures := report.failures + 1 }).trans ?_
        simp only [storable, refused, Option.isSome_none, Option.isNone_none, Bool.false_eq_true,
          if_false, if_true, Nat.add_zero, Nat.add_assoc, Nat.add_comm 1, Option.elim_none]
      | some s' =>
        refine (ih (s'.put table) { report with rowsWritten := report.rowsWritten + 1 }).trans ?_
        simp only [storable, refused, Option.isSome_some, Option.isNone_some, Bool.false_eq_true,
          if_false, if_true, Nat.add_zero, Nat.add_assoc, Nat.add_comm 1, Option.elim_some]

theorem rollupHour_putEach {s : Store α} {tables : Summaries α} (ht : s.summaries = some tables)
    {start : Int} {raw : List (Record α)}
    (hraw : s.rowsBetween start (start + Span.hour.millis) = .ok raw) :
    let agents := Ascending.ofList (raw.map Record.agentId)
    let summary := fun a => ofHour? a start (rowsOf a raw)
    s.rollupHour start =
      .ok ({ s with
        summaries := some { tables with hourly := putEach summary agents tables.hourly } },
        tally summary agents) := by
  intro agents summary
  obtain ⟨months, _, ensured⟩ := s
  obtain rfl := show _ = _ from ht
  have h := rollupEach_putEach putHourly
    (fun table => { months, summaries := some { tables with hourly := table }, ensured })
    (fun table s => by unfold putHourly; cases s.stored? <;> rfl) summary agents tables.hourly
    { agents := agents.length }
  unfold rollupHour
  rw [hraw]
  refine congrArg Except.ok (h.trans ?_)
  rw [Nat.zero_add, Nat.zero_add]
  rfl

/-- An hourly rollup leaves every other hour as it is, and the days. -/
theorem rollupHour_hourly {s s' : Store α} {tables : Summaries α} (ht : s.summaries = some tables)
    {start : Int} {report : RollupReport} (h : s.rollupHour start = .ok (s', report)) :
    ∃ hourly, s'.summaries = some { tables with hourly } ∧
      ∀ a k, k ≠ start → under a k hourly = under a k tables.hourly := by
  cases hraw : s.rowsBetween start (start + Span.hour.millis) with
  | error e =>
    unfold rollupHour at h
    rw [hraw] at h
    cases h
  | ok raw =>
    obtain ⟨rfl, -⟩ := Prod.mk.inj (Except.ok.inj (h.symm.trans (rollupHour_putEach ht hraw)))
    refine ⟨_, rfl, fun a k hk => ?_⟩
    rw [under_putEach (fun a sm hsm => ofHour?_key hsm) a k, if_neg fun h => hk h.1]

/-- A daily rollup puts the summaries of the agents with hours in the day. -/
theorem rollupDay_rollDay {s : Store α} {tables : Summaries α} (ht : s.summaries = some tables)
    (start : Int) :
    s.rollupDay start =
      .ok ({ s with summaries := some { tables with daily := tables.rollDay start } },
        tally (dayOf? tables.hourly start) (agentsOfDay tables.hourly start)) := by
  obtain ⟨months, _, ensured⟩ := s
  obtain rfl := show _ = _ from ht
  have h := rollupEach_putEach putDaily
    (fun table => { months, summaries := some { tables with daily := table }, ensured })
    (fun table s => by unfold putDaily; cases s.stored? <;> rfl) (dayOf? tables.hourly start)
    (agentsOfDay tables.hourly start) tables.daily
    { agents := (agentsOfDay tables.hourly start).length }
  unfold rollupDay
  refine congrArg Except.ok (h.trans ?_)
  rw [Nat.zero_add, Nat.zero_add]
  rfl

/-- **The rollup of a day** writes the summaries of its hours, where they can be stored, and leaves
all else as it is. It reports no failure only if it wrote one for every agent that has one. -/
theorem rollupDay_spec {s : Store α} {tables : Summaries α} (ht : s.summaries = some tables)
    (start : Int) :
    ∃ report daily,
      s.rollupDay start = .ok ({ s with summaries := some { tables with daily } }, report) ∧
      (∀ a k, under a k daily =
        if k = start then
          ((dayOf? tables.hourly start a).bind stored?).elim (under a k tables.daily) ([·])
        else under a k tables.daily) ∧
      (report.failures = 0 → ∀ a sm, dayOf? tables.hourly start a = some sm →
        sm.stored?.isSome = true) := by
  refine ⟨_, _, rollupDay_rollDay ht start, under_rollDay tables start, fun h₀ a sm hsm => ?_⟩
  exact isSome_of_refused_eq_zero (fun _ _ => mem_agentsOfDay) h₀ hsm

/-- A cleanup cycle rolls up the last day and cleans up. -/
theorem cleanupCycle_eq {s : Store α} {tables : Summaries α} (ht : s.summaries = some tables)
    (now : Int) (policy : RetentionPolicy) (vacuumAfter : Bool) :
    (s.cleanupCycle now policy vacuumAfter).1 =
      (Store.cleanup { s with
        summaries := some { tables with daily := tables.rollDay (previousStart .day now) } }
        now policy).1 := by
  unfold cleanupCycle
  rw [rollupDay_rollDay ht]
  dsimp only
  split <;> rfl

theorem cleanupCycle_summaries {s : Store α} {tables : Summaries α}
    (ht : s.summaries = some tables) (now : Int) (policy : RetentionPolicy) (vacuumAfter : Bool) :
    (s.cleanupCycle now policy vacuumAfter).1.summaries = some
      { hourly := keptSummaries (cutoff now policy.hourlyDays) tables.hourly
        daily := keptSummaries (cutoff now policy.dailyDays)
          (tables.rollDay (previousStart .day now)) } := by
  rw [cleanupCycle_eq ht]
  exact cleanup_summaries (show Store.summaries { s with
    summaries := some { tables with daily := tables.rollDay (previousStart .day now) } } = _
    from rfl) now policy

end Store
end FleetTelemetry

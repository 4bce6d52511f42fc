/-
# The last day and the cleanup that rolls it up

A cleanup cycle writes the summary of the last day and then takes the days that
begin before the daily cutoff. Every hour that a run leaves has rows behind it
(`Store.hasPoints_run`), so every agent with hours in the last day gets a
summary of it. A window of more than one day keeps that summary. One of a single
day takes it in the cycle that wrote it, unless that runs at the turn of the day
(`Store.cleanupCycle_lastDay`).

Key definitions: `RetentionPolicy.KeepsLastDay`, `Store.HasPoints`.
Key theorems: `Store.hasPoints_run`, `Summary.exists_ofDay?_of_hasPoints`,
`Store.cleanupCycle_lastDay`.
-/
import FleetTelemetry.Proofs.CleanupCycle
import FleetTelemetry.Proofs.HourlyInvariant

namespace FleetTelemetry

/-- Whether a cleanup keeps the summary of the last day. -/
def RetentionPolicy.KeepsLastDay (policy : RetentionPolicy) (now : Int) : Prop :=
  policy.dailyDays ≠ 1 ∨ millisPerDay ∣ now

instance (policy : RetentionPolicy) (now : Int) : Decidable (policy.KeepsLastDay now) :=
  inferInstanceAs (Decidable (_ ∨ _))

theorem RetentionPolicy.keepsLastDay_iff {policy : RetentionPolicy} (hp : policy.hasDays = true)
    (now : Int) :
    policy.KeepsLastDay now ↔ cutoff now policy.dailyDays ≤ previousStart .day now :=
  (cutoff_le_previousStart_iff (hasDays_iff.mp hp).2.2 now).symm

namespace Summary

variable {α : Type}

/-- Rows are behind every one of some summaries. -/
def HasPoints {span : Span} (table : List (Summary α span)) : Prop := ∀ t ∈ table, 1 ≤ t.dataPoints

theorem HasPoints.totalPoints {span : Span} : ∀ {table : List (Summary α span)},
    HasPoints table → table ≠ [] → 1 ≤ totalPoints table
  | [], _, hne => absurd rfl hne
  | [t], h, _ => by
    have := h t List.mem_cons_self
    simpa only [Summary.totalPoints, Int.add_zero] using this
  | t :: t' :: table, h, _ => by
    have ht := h t List.mem_cons_self
    have hrest : HasPoints (t' :: table) := fun u hu => h u (List.mem_cons_of_mem t hu)
    have ih := hrest.totalPoints (List.cons_ne_nil t' table)
    rw [Summary.totalPoints]
    omega

theorem HasPoints.put {span : Span} {table : List (Summary α span)} (h : HasPoints table)
    {s : Summary α span} (hs : 1 ≤ s.dataPoints) : HasPoints (s.put table) := by
  intro t ht
  rcases List.mem_append.mp ht with ht | ht
  · exact h t (List.mem_filter.mp ht).1
  · rwa [List.mem_singleton.mp ht]

variable [Gauge α]

theorem dataPoints_pos {agentId : String} {start : Int} {rows : List (Record α)}
    {sm sm' : Summary α .hour} (h : ofHour? agentId start rows = some sm)
    (hs : sm.stored? = some sm') : 1 ≤ sm'.dataPoints := by
  have := List.length_pos_of_ne_nil (ofHour?_eq_some h).1
  rw [dataPoints_of_ofHour? h hs]
  omega

theorem exists_ofDay?_of_hasPoints {hours : List (Summary α .hour)} (h : HasPoints hours)
    (hne : hours ≠ []) (agentId : String) (start : Int) :
    ∃ sm, ofDay? agentId start hours = some sm := by
  rw [← Option.isSome_iff_exists, ofDay?_isSome_iff]
  exact h.totalPoints hne

theorem hasPoints_invariant : HourlyInvariant (HasPoints : List (Summary α .hour) → Prop) where
  nil _ hmem := absurd hmem List.not_mem_nil
  put h hsm hst := h.put (dataPoints_pos hsm hst)
  kept _ h := fun t hmem => h t (List.mem_filter.mp hmem).1

end Summary

namespace Store

open Summary

variable {α : Type} [Gauge α]

/-! ### Every hour has rows behind it -/

/-- Rows are behind every hour of a store. -/
def HasPoints (s : Store α) : Prop :=
  ∀ tables, s.summaries = some tables → Summary.HasPoints tables.hourly

/-- **Every hour that a run leaves has rows behind it.** -/
theorem hasPoints_run (ops : List (Operation α)) : (({} : Store α).run ops).HasPoints :=
  hasPoints_invariant.run ops

/-! ### The last day after a cycle -/

/-- Under the last day an agent has after a cycle what the rollup wrote, if the daily cutoff does
not pass it, and nothing otherwise. -/
theorem daily_cleanupCycle {s : Store α} {tables : Summaries α} (ht : s.summaries = some tables)
    {now : Int} {policy : RetentionPolicy} (hp : policy.hasDays = true) (vacuumAfter : Bool)
    (agentId : String) :
    let day := previousStart .day now
    (s.cleanupCycle now policy vacuumAfter).1.daily agentId day day =
      .ok (if policy.KeepsLastDay now then
        ((dayOf? tables.hourly day agentId).bind stored?).elim (under agentId day tables.daily)
          ([·])
      else []) := by
  intro day
  rw [daily_eq (cleanupCycle_summaries ht now policy vacuumAfter), select_single,
    under_keptSummaries, under_rollDay, if_pos rfl]
  exact congrArg _ (if_congr (RetentionPolicy.keepsLastDay_iff hp now).symm rfl rfl)

/-- **A cycle leaves one summary of the last day to each agent with hours in it**, that of those
hours, if its policy keeps the last day. If not, it leaves none. -/
theorem cleanupCycle_lastDay (ops : List (Operation α)) (now : Int) {policy : RetentionPolicy}
    (hp : policy.hasDays = true) (vacuumAfter : Bool) (agentId : String)
    {hours : List (Summary α .hour)} :
    let s := ({} : Store α).run ops
    let day := previousStart .day now
    s.hourly agentId day (day + millisPerDay - 1) = .ok hours → hours ≠ [] →
    (s.perform (.rollupDay day)).2.isFaultless = true →
    ∃ sm, (ofDay? agentId day hours).bind stored? = some sm ∧
      (s.cleanupCycle now policy vacuumAfter).1.daily agentId day day =
        .ok (if policy.KeepsLastDay now then [sm] else []) := by
  intro s day hhours hne hf
  cases ht : s.summaries with
  | none =>
    rw [Store.hourly, ht] at hhours
    cases hhours
  | some tables =>
    rw [hourly_eq ht] at hhours
    obtain rfl := Except.ok.inj hhours
    have hpoints : Summary.HasPoints (select agentId day (day + millisPerDay - 1) tables.hourly) :=
      fun t hmem => hasPoints_run ops tables ht t
        (List.mem_filter.mp (StableOrder.mem_sort.mp hmem)).1
    obtain ⟨sm, hsm⟩ := exists_ofDay?_of_hasPoints hpoints hne agentId day
    -- without a failure the summary of the day was taken
    obtain ⟨report, daily, hroll, -, hok⟩ := rollupDay_spec ht day
    obtain ⟨sm', hsm'⟩ := Option.isSome_iff_exists.mp
      (hok (failures_of_rollupDay hroll hf) agentId sm hsm)
    refine ⟨sm', by rw [hsm, Option.bind_some, hsm'], ?_⟩
    rw [daily_cleanupCycle ht hp vacuumAfter]
    have hday : dayOf? tables.hourly day agentId = some sm := hsm
    rw [hday, Option.bind_some, hsm', Option.elim_some]

/-- At six in the morning a window of one day has taken the last day already, even if the hours of
it are still there. One of two days has not, even if the hours are gone. -/
theorem cleanupCycle_lastDay_morning :
    let s := ({} : Store Float).run (twoHours 1706745600000 1706788800000)
    s.hourly "a" 1706745600000 (1706745600000 + millisPerDay - 1) =
        .ok [level 1706745600000 1, level 1706788800000 1] ∧
      (s.cleanupCycle 1706853600000 ⟨30, 30, 1⟩ false).1.daily "a" 1706745600000 1706745600000 =
        .ok [] ∧
      (s.cleanupCycle 1706853600000 ⟨30, 1, 2⟩ true).1.daily "a" 1706745600000 1706745600000 =
        .ok [level 1706745600000 2] := by
  have hhours : (({} : Store Float).run (twoHours 1706745600000 1706788800000)).hourly "a"
      1706745600000 (1706745600000 + millisPerDay - 1) =
      .ok [level 1706745600000 1, level 1706788800000 1] := by decide +kernel
  have hf : ((({} : Store Float).run (twoHours 1706745600000 1706788800000)).perform
      (.rollupDay 1706745600000)).2.isFaultless = true := by decide +kernel
  have hp : RetentionPolicy.hasDays ⟨30, 30, 1⟩ = true := by decide
  have hp' : RetentionPolicy.hasDays ⟨30, 1, 2⟩ = true := by decide
  obtain ⟨_, _, htaken⟩ := cleanupCycle_lastDay (twoHours 1706745600000 1706788800000)
    1706853600000 hp false "a" hhours (by simp) hf
  obtain ⟨sm, hsm, hleft⟩ := cleanupCycle_lastDay (twoHours 1706745600000 1706788800000)
    1706853600000 hp' true "a" hhours (by simp) hf
  obtain rfl := Option.some.inj ((ofDay?_level_two _ _ _).symm.trans hsm)
  exact ⟨hhours, htaken, hleft⟩

end Store
end FleetTelemetry

/-
# What every hourly summary of a run has

The hourly summaries of a store come from rollups of the hour: one after the
other is put into the table, and cleanups take some of them. A property of the
table that both keep, and that an empty table has, is there after any run
(`Summary.HourlyInvariant.run`). That no agent has two summaries of one hour is
such a property (`Store.distinctKeys_run`).

Key definitions: `Summary.HourlyInvariant`, `Store.HourlyHas`,
`Summary.DistinctKeys`.
Key theorems: `Summary.HourlyInvariant.step`, `Summary.HourlyInvariant.run`,
`Store.distinctKeys_run`, `Summary.DistinctKeys.select_strict`.
-/
import FleetTelemetry.Proofs.HourlyRetention

namespace FleetTelemetry

variable {α : Type}

/-- Whether the hourly summaries of a store, if it has their table, have a property. -/
def Store.HourlyHas (P : List (Summary α .hour) → Prop) (s : Store α) : Prop :=
  ∀ tables, s.summaries = some tables → P tables.hourly

theorem Store.HourlyHas.congr {P : List (Summary α .hour) → Prop} {s s' : Store α}
    (h : s.HourlyHas P) (hs : s'.summaries = s.summaries) : s'.HourlyHas P :=
  fun tables ht => h tables (hs.symm.trans ht)

namespace Summary

/-- A property of hourly summaries that an empty table has, and that neither a summary of rows nor a
cleanup takes away. -/
structure HourlyInvariant [Gauge α] (P : List (Summary α .hour) → Prop) : Prop where
  nil : P []
  put : ∀ {table : List (Summary α .hour)} {agentId : String} {start : Int}
    {rows : List (Record α)} {sm sm' : Summary α .hour}, P table →
    ofHour? agentId start rows = some sm → sm.stored? = some sm' → P (sm'.put table)
  kept : ∀ {table : List (Summary α .hour)} (first : Int), P table →
    P (Store.keptSummaries first table)

namespace HourlyInvariant

open Store

variable [Gauge α] {P : List (Summary α .hour) → Prop} (hP : HourlyInvariant P)
include hP

/-! ### One operation -/

theorem rollupHour {s s' : Store α} (h : s.HourlyHas P) {start : Int} {report : RollupReport}
    (hr : s.rollupHour start = .ok (s', report)) : s'.HourlyHas P := by
  unfold Store.rollupHour at hr
  split at hr
  · cases hr
  · rw [← show _ = s' from congrArg Prod.fst (Except.ok.inj hr)]
    refine rollupEach_induction (fun s₁ a s₂ h₁ h₂ => ?_) _ s _ h
    obtain ⟨sm, hsm, hput⟩ := Option.map_eq_some_iff.mp h₂
    unfold putHourly at hput
    split at hput
    · next tables sm' ht hst =>
      rw [← Except.ok.inj hput]
      intro tables' ht'
      obtain rfl := Option.some.inj ht'
      exact hP.put (h₁ tables ht) hsm hst
    · cases hput

omit hP in
theorem rollupDay {s s' : Store α} (h : s.HourlyHas P) {start : Int} {report : RollupReport}
    (hr : s.rollupDay start = .ok (s', report)) : s'.HourlyHas P := by
  cases hs : s.summaries with
  | none =>
    rw [Store.rollupDay, hs] at hr
    cases hr
  | some tables =>
    rw [rollupDay_rollDay hs] at hr
    obtain ⟨rfl, -⟩ := Prod.mk.inj (Except.ok.inj hr)
    intro tables' ht'
    obtain rfl := Option.some.inj ht'
    exact h tables hs

theorem cleanup {s : Store α} (h : s.HourlyHas P) (now : Int) (policy : RetentionPolicy) :
    (s.cleanup now policy).1.HourlyHas P := by
  have hp := h.congr (pruneRaw_summaries (cutoff now policy.rawDays) s {})
  unfold Store.cleanup pruneSummaries
  dsimp only
  split
  · exact hp
  · next tables ht =>
    intro tables' ht'
    obtain rfl := Option.some.inj ht'
    exact hP.kept _ (hp tables ht)

theorem createSummaries {s : Store α} (h : s.HourlyHas P) : s.createSummaries.HourlyHas P := by
  intro tables ht
  obtain rfl := Option.some.inj ht
  cases hs : s.summaries with
  | none => exact hP.nil
  | some tables => exact h tables hs

/-- An operation keeps an invariant of the hourly summaries. -/
theorem step {s : Store α} (h : s.HourlyHas P) (op : Operation α) : (s.step op).HourlyHas P := by
  have hhour : ∀ start, (s.step (.rollupHour start)).HourlyHas P := by
    intro start
    rw [step_rollupHour]
    split
    · next hr => exact hP.rollupHour h hr
    · exact h
  have hday : ∀ start, (s.step (.rollupDay start)).HourlyHas P := by
    intro start
    rw [step_rollupDay]
    split
    · next hr => exact rollupDay h hr
    · exact h
  cases op with
  | save r => exact h.congr (save_summaries s r)
  | saveAll rs => exact h.congr (saveAll_summaries rs s)
  | range | aggregated | hourly | daily | listed | hasMonth | vacuum | reconnect => exact h
  | createSummaries => exact hP.createSummaries h
  | setUp now => exact (hP.createSummaries h).congr (step_setUp_summaries s now)
  | rollupHour start => exact hhour start
  | rollupDay start => exact hday start
  | rollupPreviousHour now =>
    rw [step_rollupPreviousHour]
    exact hhour _
  | cleanup now policy => exact hP.cleanup h now policy
  | cleanupCycle now policy vacuumAfter =>
    rw [step_cleanupCycle]
    exact hP.cleanup (hday _) now policy

/-! ### Runs -/

/-- **An invariant of the hourly summaries holds after any run** of a store that is empty at
first. -/
theorem run (ops : List (Operation α)) : (({} : Store α).run ops).HourlyHas P := by
  suffices h : ∀ s : Store α, s.HourlyHas P → (s.run ops).HourlyHas P from
    h {} fun tables ht => by cases ht
  induction ops with
  | nil => exact fun _ h => h
  | cons op ops ih => exact fun s h => ih _ (hP.step h op)

end HourlyInvariant

/-! ### One summary of an hour -/

/-- No agent has two summaries of one start. -/
def DistinctKeys {span : Span} (table : List (Summary α span)) : Prop :=
  ∀ agentId start, (under agentId start table).length ≤ 1

theorem distinctKeys_invariant [Gauge α] :
    HourlyInvariant (DistinctKeys : List (Summary α .hour) → Prop) where
  nil _ _ := Nat.zero_le 1
  put {_ _ _ _ _ sm'} h _ _ := fun a k => by
    rw [under_put]
    split
    · exact Nat.le_refl 1
    · exact h a k
  kept first h := fun a k => by
    rw [under_keptSummaries]
    split
    · exact h a k
    · exact Nat.zero_le 1

/-- Summaries of one agent with distinct keys ascend strictly. -/
theorem DistinctKeys.select_strict {span : Span} {table : List (Summary α span)}
    (h : DistinctKeys table) (agentId : String) (first last : Int) :
    (select agentId first last table).Pairwise fun s t => s.start < t.start := by
  refine StableOrder.pairwise_sort_strict fun k => ?_
  rw [filter_start]
  split
  · exact h agentId k
  · exact Nat.zero_le 1

end Summary

/-- No agent has two summaries of one hour. -/
theorem Store.distinctKeys_run [Gauge α] (ops : List (Operation α)) :
    (({} : Store α).run ops).HourlyHas Summary.DistinctKeys :=
  Summary.distinctKeys_invariant.run ops

end FleetTelemetry

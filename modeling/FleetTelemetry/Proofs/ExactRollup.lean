/-
# The rollup of an hour is exact

An hour may begin at any instant and reach over the turn of a month. Its rollup
finds every agent with a row in it, from the start on and before the end, and
writes for each the summary of all of its rows there, unless a reading of the
summary is no number, which a table refuses. Every other summary stays
(`Summaries.rollsUp`), and each agent is counted once (`Store.reports_tally`). To
roll up the hour again changes nothing (`Summaries.rollHour_rollHour`); after
further saves it summarises their rows too.

Key definitions: `Summary.Readable`, `Summary.unsigned`, `Store.RollsUp`,
`Store.Reports`.
Key theorems: `Summary.stored?_isSome_iff`, `Store.reports_tally`,
`Summaries.rollsUp`, `Summaries.rollHour_rollHour`, `Store.Holds.run_saves`,
`Store.rollupHour_exact`.
-/
import FleetTelemetry.Proofs.DailyRollup
import FleetTelemetry.Proofs.HourlyInvariant
import FleetTelemetry.Proofs.Peak
import Mathlib.Data.List.Dedup

namespace FleetTelemetry

/-! ### What a table takes -/

namespace Summary

variable {span : Span}

/-- Whether every reading of a summary is a number. -/
def Readable (s : Summary Float span) : Prop :=
  s.cpuAvg.isNaN = false ∧ s.cpuMax.isNaN = false ∧ s.memAvg.isNaN = false ∧
    s.memMax.isNaN = false

instance (s : Summary Float span) : Decidable s.Readable := inferInstanceAs (Decidable (_ ∧ _))

/-- A summary without the signs of its zeros. -/
def unsigned (s : Summary Float span) : Summary Float span :=
  { s with
    cpuAvg := if s.cpuAvg == 0.0 then 0.0 else s.cpuAvg
    cpuMax := if s.cpuMax == 0.0 then 0.0 else s.cpuMax
    memAvg := if s.memAvg == 0.0 then 0.0 else s.memAvg
    memMax := if s.memMax == 0.0 then 0.0 else s.memMax }

theorem stored?_of_readable {s : Summary Float span} (h : s.Readable) :
    s.stored? = some s.unsigned := by
  obtain ⟨h₁, h₂, h₃, h₄⟩ := h
  rw [stored?, Gauge.stored_eq_some_iff.mpr ⟨h₁, rfl⟩, Gauge.stored_eq_some_iff.mpr ⟨h₂, rfl⟩,
    Gauge.stored_eq_some_iff.mpr ⟨h₃, rfl⟩, Gauge.stored_eq_some_iff.mpr ⟨h₄, rfl⟩]
  rfl

/-- A table takes a summary just if its readings are numbers. -/
theorem stored?_isSome_iff {s : Summary Float span} : s.stored?.isSome = true ↔ s.Readable := by
  constructor
  · intro h
    obtain ⟨s', hs⟩ := Option.isSome_iff_exists.mp h
    obtain ⟨h₁, h₂, h₃, h₄, -⟩ := stored?_eq_some hs
    exact ⟨(Gauge.stored_eq_some_iff.mp h₁).1, (Gauge.stored_eq_some_iff.mp h₂).1,
      (Gauge.stored_eq_some_iff.mp h₃).1, (Gauge.stored_eq_some_iff.mp h₄).1⟩
  · intro h
    rw [stored?_of_readable h]
    rfl

end Summary

namespace Store

open Summary

/-- From the hourly summaries before the rollup of an hour those after it: an agent with rows in the
hour has the summary of these rows there, if its readings are numbers, and all others are as they
were. -/
structure RollsUp (rows : List (Record Float)) (start : Int)
    (hourly hourly' : List (Summary Float .hour)) : Prop where
  written : ∀ agentId, Record.inSpan agentId start (start + millisPerHour) rows ≠ [] →
    ∃ sm, hourOf? rows start agentId = some sm ∧
      (sm.Readable → under agentId start hourly' = [sm.unsigned])
  others : ∀ agentId k,
    (k = start → ∀ sm, hourOf? rows start agentId = some sm → ¬ sm.Readable) →
    under agentId k hourly' = under agentId k hourly

/-- The distinct agents of the rows of an hour. -/
def agentsOfHour (rows : List (Record Float)) (start : Int) : List String :=
  ((rows.filter fun r =>
    decide (start ≤ r.timestamp) && decide (r.timestamp < start + millisPerHour)).map
      Record.agentId).dedup

/-- A rollup of an hour counts the agents with rows in it, and those of them whose summary it wrote;
the others are its failures. -/
structure Reports (rows : List (Record Float)) (start : Int) (report : RollupReport) : Prop where
  agents : report.agents = (agentsOfHour rows start).length
  rowsWritten : report.rowsWritten = (agentsOfHour rows start).countP fun a =>
    (hourOf? rows start a).any fun sm => decide sm.Readable
  total : report.rowsWritten + report.failures = report.agents

theorem agentsIn_perm (rows : List (Record Float)) (start : Int) :
    (Record.agentsIn start (start + Span.hour.millis) rows).Perm (agentsOfHour rows start) :=
  (List.perm_ext_iff_of_nodup (agentsIn_nodup _ _ rows) (List.nodup_dedup _)).mpr fun _ =>
    Ascending.mem_ofList.trans List.mem_dedup.symm

theorem reports_tally (rows : List (Record Float)) (start : Int) : Reports rows start
    (tally (hourOf? rows start) (Record.agentsIn start (start + Span.hour.millis) rows)) where
  agents := (agentsIn_perm rows start).length_eq
  rowsWritten := by
    refine Eq.trans (List.countP_congr fun a _ => ?_) ((agentsIn_perm rows start).countP_eq _)
    cases hourOf? rows start a with
    | none => rfl
    | some sm => rw [Option.bind_some, Option.any_some, stored?_isSome_iff, decide_eq_true_eq]
  total := tally_total fun _ ha => hourOf?_isSome_iff.mpr ha

end Store

namespace Summaries

open Summary Store

variable (tables : Summaries Float) (rows : List (Record Float)) (start : Int)

theorem rollsUp : RollsUp rows start tables.hourly (tables.rollHour rows start) where
  written agentId hne := by
    obtain ⟨sm, hsm⟩ :=
      Option.isSome_iff_exists.mp (hourOf?_isSome_iff.mpr (mem_agentsIn.mpr hne))
    refine ⟨sm, hsm, fun hr => ?_⟩
    rw [under_rollHour, if_pos rfl, hsm, Option.bind_some, stored?_of_readable hr,
      Option.elim_some]
  others agentId k h := by
    rw [under_rollHour]
    split
    · next hk =>
      have hnone : (hourOf? rows start agentId).bind stored? = none := by
        refine Option.bind_eq_none_iff.mpr fun sm hsm => ?_
        rw [← Option.not_isSome_iff_eq_none, stored?_isSome_iff]
        exact h hk sm hsm
      rw [hnone, Option.elim_none]
    · rfl

/-- To roll up the same rows again changes nothing. -/
theorem rollHour_rollHour :
    rollHour { tables with hourly := tables.rollHour rows start } rows start =
      tables.rollHour rows start :=
  putEach_putEach hourOf?_key (agentsIn_nodup _ _ rows) tables.hourly

end Summaries

namespace Store

open Summary

section Saves

variable {α : Type} [Gauge α]

theorem Holds.run_saves : ∀ {saves : List (Operation α)} {s : Store α} {rows : List (Record α)},
    s.Holds rows → (∀ op ∈ saves, op.isSave = true) →
    (∀ r ∈ s.acceptedIn saves, Month.FourDigitYear r.timestamp) →
    (s.run saves).Holds (rows ++ s.acceptedIn saves)
  | [], _, _, h, _, _ => by
    rw [acceptedIn, List.append_nil]
    exact h
  | op :: saves, s, rows, h, hsaves, hy => by
    have hspares : ∀ r ∈ rows, op.spares r = true := by
      have hop := hsaves op List.mem_cons_self
      cases op with
      | save | saveAll => exact fun _ _ => rfl
      | _ => cases hop
    rw [acceptedIn] at hy ⊢
    have hstep := h.step op fun r hr => hy r (List.mem_append_left _ hr)
    rw [List.filter_eq_self.mpr hspares] at hstep
    rw [run_cons, ← List.append_assoc]
    exact hstep.run_saves (fun op' hop' => hsaves op' (List.mem_cons_of_mem op hop'))
      fun r hr => hy r (List.mem_append_right _ hr)

end Saves

/-- **The rollup of an hour is exact and replaces.** After any run of a store that is empty at first
and has its tables of summaries, with rows of four-digit years only, the rollup of the hour from any
instant on succeeds. It writes for each agent the summary of all of its rows in the hour, if the
readings of that are numbers, and leaves every other hourly summary, all daily ones and all rows as
they are; it counts the agents with rows in the hour and those whose summary it could not write.
Again it changes nothing, and after further saves it summarises what they added too. A query for an
agent and a window answers the hourly summaries of both, each once and ascending. -/
theorem rollupHour_exact (ops : List (Operation Float))
    (hy : ∀ r ∈ ({} : Store Float).acceptedIn ops, Month.FourDigitYear r.timestamp)
    {tables : Summaries Float} (ht : (({} : Store Float).run ops).summaries = some tables)
    (start : Int) :
    let s := ({} : Store Float).run ops
    let rows := ({} : Store Float).kept ops
    ∃ hourly report,
      let after : Store Float := { s with summaries := some { tables with hourly } }
      s.rollupHour start = .ok (after, report) ∧
      RollsUp rows start tables.hourly hourly ∧
      Reports rows start report ∧
      after.rollupHour start = .ok (after, report) ∧
      (∀ saves : List (Operation Float), (∀ op ∈ saves, op.isSave = true) →
        (∀ r ∈ after.acceptedIn saves, Month.FourDigitYear r.timestamp) →
        ∃ hourly' report',
          (after.run saves).rollupHour start = .ok
            ({ after.run saves with summaries := some { tables with hourly := hourly' } },
              report') ∧
          RollsUp (rows ++ after.acceptedIn saves) start hourly hourly' ∧
          Reports (rows ++ after.acceptedIn saves) start report') ∧
      ∀ agentId first last, ∃ hours,
        after.hourly agentId first last = .ok hours ∧
        (hours.Pairwise fun h h' => h.start < h'.start) ∧
        ∀ h, h ∈ hours ↔ h ∈ hourly ∧ h.agentId = agentId ∧ first ≤ h.start ∧ h.start ≤ last := by
  intro s rows
  have h : s.Holds rows := holds_empty.run ops hy
  have hroll := h.rollupHour_rollHour ht start
  refine ⟨_, _, hroll, tables.rollsUp rows start, reports_tally rows start, ?_, ?_, ?_⟩
  · have hagain := (h.withSummaries (some { tables with
      hourly := tables.rollHour rows start })).rollupHour_rollHour rfl start
    rw [Summaries.rollHour_rollHour] at hagain
    exact hagain
  · intro saves hsaves hys
    have hafter := h.withSummaries (some { tables with hourly := tables.rollHour rows start })
    have ht' := run_saves_summaries saves { s with
      summaries := some { tables with hourly := tables.rollHour rows start } } hsaves
    exact ⟨_, _, (hafter.run_saves hsaves hys).rollupHour_rollHour ht' start,
      Summaries.rollsUp { tables with hourly := tables.rollHour rows start } _ start,
      reports_tally _ start⟩
  · intro agentId first last
    have hdistinct : DistinctKeys (tables.rollHour rows start) :=
      distinctKeys_invariant.rollupHour (distinctKeys_run ops) hroll _ rfl
    refine ⟨_, rfl, hdistinct.select_strict agentId first last, fun sm => ?_⟩
    rw [select, StableOrder.mem_sort, List.mem_filter, Bool.and_eq_true, beq_iff_eq, within,
      Bool.and_eq_true, decide_eq_true_eq, decide_eq_true_eq]

/-- An hour that begins half an hour before a February does: one agent has rows in both months and
one right at the end, and another has an infinite reading in each month, the second of which comes
after a first rollup. -/
def acrossMonths : List (Operation Float) :=
  [.createSummaries,
    .saveAll [.uniform "b" 1706743800000 (1.0 / 0.0) 5, .uniform "a" 1706747399999 3.0 7],
    .rollupHour 1706743800000,
    .saveAll [.uniform "b" 1706747399999 (-(1.0 / 0.0)) 5, .uniform "a" 1706743800000 1.0 5,
      .uniform "a" 1706747400000 9.0 1]]

/-- The hour of the first agent is replaced by that of its two rows; the mean of the other is no
number, so that its hour stays and is reported. -/
theorem rollupHour_exact_acrossMonths :
    let s := ({} : Store Float).run acrossMonths
    (∀ r ∈ ({} : Store Float).acceptedIn acrossMonths, Month.FourDigitYear r.timestamp) ∧
    ∃ tables, s.summaries = some tables ∧ ∃ hourly,
      s.rollupHour 1706743800000 =
        .ok ({ s with summaries := some { tables with hourly } }, ⟨2, 1, 1⟩) ∧
      under "a" 1706743800000 hourly =
        [{ agentId := "a", start := 1706743800000, cpuAvg := 2.0, cpuMax := 3.0, memAvg := 2.0,
           memMax := 3.0, netRxTotal := 12, netTxTotal := 12, dataPoints := 2 }] ∧
      under "b" 1706743800000 hourly = under "b" 1706743800000 tables.hourly := by
  intro s
  have hy : ∀ r ∈ ({} : Store Float).acceptedIn acrossMonths,
      Month.FourDigitYear r.timestamp := by decide +kernel
  obtain ⟨tables, ht⟩ : ∃ tables, s.summaries = some tables :=
    Option.isSome_iff_exists.mp (by decide +kernel)
  obtain ⟨hourly, report, hroll, hrolls, hreports, -⟩ :=
    rollupHour_exact acrossMonths hy ht 1706743800000
  have hreport : report = ⟨2, 1, 1⟩ := by
    have hagents : report.agents = 2 := hreports.agents.trans (by decide +kernel)
    have hwritten : report.rowsWritten = 1 := hreports.rowsWritten.trans (by decide +kernel)
    have htotal := hreports.total
    obtain ⟨agents, rowsWritten, failures⟩ := report
    obtain rfl : agents = 2 := hagents
    obtain rfl : rowsWritten = 1 := hwritten
    obtain rfl : failures = 1 := Nat.add_left_cancel (show 1 + failures = 1 + 1 from htotal)
    rfl
  refine ⟨hy, tables, ht, hourly, hreport ▸ hroll, ?_, hrolls.others "b" _ fun _ sm hsm => ?_⟩
  · obtain ⟨sm, hsm, hunder⟩ := hrolls.written "a" (by decide +kernel)
    obtain rfl := Option.some.inj (hsm.symm.trans (show _ = some
      { agentId := "a", start := 1706743800000, cpuAvg := 2.0, cpuMax := 3.0, memAvg := 2.0,
        memMax := 3.0, netRxTotal := 12, netTxTotal := 12, dataPoints := 2 } by decide +kernel))
    exact (hunder (by decide +kernel)).trans (by decide +kernel)
  · have hnone : ∀ sm ∈ hourOf? (({} : Store Float).kept acrossMonths) 1706743800000 "b",
        ¬ sm.Readable := by decide +kernel
    exact hnone sm hsm

end Store
end FleetTelemetry

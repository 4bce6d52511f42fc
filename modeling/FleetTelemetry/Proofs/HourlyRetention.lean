/-
# Retention and the hourly summaries

A worker rolls up the hour that ended before, and cleans up with windows of a
day at least. As its clock never goes back, the raw cutoff of a cleanup lies
before every hour that is rolled up later, so each rollup still finds all that
was accepted in its hour (`Store.inSpan_before`). What it writes stays until the
hour is rolled up again or a cleanup passes it (`Store.run_hourly`).

Key definitions: `Operation.isUpkeep`, `Operation.hour?`, `Operation.keepsHour`.
Key theorems: `Store.step_hourly`, `Store.run_hourly`, `Store.inSpan_before`,
`Store.hourly_upkeep`.
-/
import FleetTelemetry.Proofs.Rollup

namespace FleetTelemetry

/-! ### What a worker does -/

/-- Whether all windows are a day at least. -/
def RetentionPolicy.hasDays (policy : RetentionPolicy) : Bool :=
  decide (1 ≤ policy.rawDays) && decide (1 ≤ policy.hourlyDays) && decide (1 ≤ policy.dailyDays)

theorem RetentionPolicy.hasDays_iff {policy : RetentionPolicy} : policy.hasDays = true ↔
    1 ≤ policy.rawDays ∧ 1 ≤ policy.hourlyDays ∧ 1 ≤ policy.dailyDays := by
  rw [hasDays, Bool.and_eq_true, Bool.and_eq_true, decide_eq_true_eq, decide_eq_true_eq,
    decide_eq_true_eq, and_assoc]

namespace Operation

variable {α : Type}

/-- Whether an operation is one of a writer, a reader or a worker: all windows of its cleanups are a
day at least, and no hour is rolled up but the last one. -/
def isUpkeep : Operation α → Bool
  | .cleanup _ policy | .cleanupCycle _ policy _ => policy.hasDays
  | .rollupHour _ => false
  | _ => true

/-- The instant by which an operation goes. -/
def now? : Operation α → Option Int
  | .rollupPreviousHour now | .cleanup now _ | .cleanupCycle now _ _ => some now
  | _ => none

/-- The hour that an operation rolls up. -/
def hour? : Operation α → Option Int
  | .rollupHour start => some start
  | .rollupPreviousHour now => some (previousStart .hour now)
  | _ => none

/-- Whether an operation leaves the summaries of an hour where they are. -/
def keepsHour (hour : Int) : Operation α → Bool
  | .cleanup now policy | .cleanupCycle now policy _ =>
    decide (cutoff now policy.hourlyDays ≤ hour)
  | _ => true

theorem spares_of_isUpkeep {op : Operation α} (hop : op.isUpkeep = true) {now : Int}
    (hnow : ∀ t ∈ op.now?, t ≤ now) {r : Record α} (hr : now - millisPerDay ≤ r.timestamp) :
    op.spares r = true := by
  have hcut : ∀ (t : Int) (policy : RetentionPolicy), policy.hasDays = true → t ≤ now →
      cutoff t policy.rawDays ≤ r.timestamp := by
    intro t policy hp ht
    have hd : 1 ≤ policy.rawDays.toNat :=
      UInt32.le_iff_toNat_le.mp (RetentionPolicy.hasDays_iff.mp hp).1
    unfold cutoff
    unfold millisPerDay millisPerHour millisPerMinute at *
    omega
  cases op with
  | cleanup t policy =>
    rw [spares, decide_eq_true (hcut t policy hop (hnow t rfl)), Bool.or_true]
  | cleanupCycle t policy _ =>
    rw [spares, decide_eq_true (hcut t policy hop (hnow t rfl)), Bool.or_true]
  | _ => rfl

end Operation

namespace Store

open Summary

variable {α : Type}

/-! ### The hourly summaries after an operation -/

/-- The summaries of every hour that an operation does not roll up come through it, or a cleanup
takes them. -/
def PassesHours (op : Operation α) (hourly hourly' : List (Summary α .hour)) : Prop :=
  ∀ a hour, op.hour? ≠ some hour →
    under a hour hourly' = if op.keepsHour hour = true then under a hour hourly else []

theorem passesHours_refl {op : Operation α} (hk : ∀ hour, op.keepsHour hour = true)
    (hourly : List (Summary α .hour)) : PassesHours op hourly hourly :=
  fun _ hour _ => (if_pos (hk hour)).symm

theorem passesHours_keptSummaries {op : Operation α} {first : Int}
    (hk : ∀ hour, op.keepsHour hour = decide (first ≤ hour)) (hourly : List (Summary α .hour)) :
    PassesHours op hourly (keptSummaries first hourly) := by
  intro a hour _
  rw [hk, under_keptSummaries]
  simp only [decide_eq_true_eq]

variable [Gauge α]

theorem step_rollupHour_hourly {s : Store α} {tables : Summaries α}
    (ht : s.summaries = some tables) (start : Int) :
    ∃ tables', (s.step (.rollupHour start)).summaries = some tables' ∧
      PassesHours (Operation.rollupHour start : Operation α) tables.hourly tables'.hourly := by
  rw [step_rollupHour]
  split
  · next hr =>
    obtain ⟨hourly, hs, hu⟩ := rollupHour_hourly ht hr
    exact ⟨_, hs, fun a hour hne => hu a hour fun h => hne (congrArg some h.symm)⟩
  · exact ⟨tables, ht, passesHours_refl (fun _ => rfl) _⟩

omit [Gauge α] in
theorem setUp_summaries {s s' : Store α} {now : Int} (h : s.setUp now = .ok s') :
    s'.summaries = s.createSummaries.summaries := by
  unfold setUp at h
  split at h
  · cases h
  · exact ensure_summaries h

theorem step_setUp_summaries (s : Store α) (now : Int) :
    (s.step (.setUp now)).summaries = s.createSummaries.summaries := by
  rw [step_setUp]
  split
  · next hs => exact setUp_summaries hs
  · rfl

/-- An operation rolls up its hour, and the summaries of the others come through it. -/
theorem step_hourly {s : Store α} {tables : Summaries α} (ht : s.summaries = some tables)
    (op : Operation α) :
    ∃ tables', (s.step op).summaries = some tables' ∧
      PassesHours op tables.hourly tables'.hourly := by
  have hcreate : s.createSummaries.summaries = some tables := by
    unfold createSummaries
    rw [ht, Option.getD_some]
  cases op with
  | save r => exact ⟨tables, (save_summaries s r).trans ht, passesHours_refl (fun _ => rfl) _⟩
  | saveAll rs =>
    exact ⟨tables, (saveAll_summaries rs s).trans ht, passesHours_refl (fun _ => rfl) _⟩
  | range | aggregated | hourly | daily | listed | hasMonth | vacuum | reconnect =>
    exact ⟨tables, ht, passesHours_refl (fun _ => rfl) _⟩
  | createSummaries => exact ⟨tables, hcreate, passesHours_refl (fun _ => rfl) _⟩
  | setUp now =>
    exact ⟨tables, (step_setUp_summaries s now).trans hcreate, passesHours_refl (fun _ => rfl) _⟩
  | rollupHour start => exact step_rollupHour_hourly ht start
  | rollupPreviousHour now =>
    rw [step_rollupPreviousHour]
    exact step_rollupHour_hourly ht (previousStart .hour now)
  | rollupDay start =>
    rw [step_rollupDay, rollupDay_rollDay ht]
    exact ⟨_, rfl, passesHours_refl (fun _ => rfl) tables.hourly⟩
  | cleanup now policy =>
    exact ⟨_, cleanup_summaries ht now policy, passesHours_keptSummaries (fun _ => rfl) _⟩
  | cleanupCycle now policy vacuumAfter =>
    refine ⟨_, cleanupCycle_summaries ht now policy vacuumAfter,
      passesHours_keptSummaries (fun _ => rfl) _⟩

/-- What was written for an hour stays until the hour is rolled up again or a cleanup takes it. -/
theorem run_hourly : ∀ (ops : List (Operation α)) {s : Store α} {tables : Summaries α},
    s.summaries = some tables →
    ∃ tables', (s.run ops).summaries = some tables' ∧
      ∀ a hour, (∀ op ∈ ops, op.hour? ≠ some hour) →
        under a hour tables'.hourly =
          if (ops.all fun op => op.keepsHour hour) = true then under a hour tables.hourly else []
  | [], _, tables, ht => ⟨tables, ht, fun _ _ _ => rfl⟩
  | op :: ops, s, tables, ht => by
    obtain ⟨tables₁, ht₁, hpass⟩ := step_hourly ht op
    obtain ⟨tables₂, ht₂, hrest⟩ := run_hourly ops ht₁
    refine ⟨tables₂, ht₂, fun a hour hne => ?_⟩
    rw [hrest a hour fun op' hop => hne op' (List.mem_cons_of_mem op hop),
      hpass a hour (hne op List.mem_cons_self), List.all_cons]
    cases op.keepsHour hour <;> simp

/-! ### No row is taken before its hour is rolled up -/

theorem sub_day_le_previousStart (now : Int) : now - millisPerDay ≤ previousStart .hour now := by
  have h := lt_bucketStart_add (show 0 < millisPerHour by decide) now
  show now - millisPerDay ≤ bucketStart millisPerHour now - millisPerHour
  unfold millisPerDay millisPerHour millisPerMinute at *
  omega

/-- The rows of the last hour are still there, whatever a worker cleaned up before. -/
theorem inSpan_kept (s : Store α) {ops : List (Operation α)}
    (hops : ∀ op ∈ ops, op.isUpkeep = true) {now : Int}
    (hnow : ∀ op ∈ ops, ∀ t ∈ op.now?, t ≤ now) (agentId : String) (stop : Int) :
    Record.inSpan agentId (previousStart .hour now) stop (s.kept ops) =
      Record.inSpan agentId (previousStart .hour now) stop (s.acceptedIn ops) := by
  refine congrArg Record.inOrder (kept_filter _ s ops fun op hop r hr => ?_)
  simp only [Bool.and_eq_true, decide_eq_true_eq] at hr
  exact Operation.spares_of_isUpkeep (hops op hop) (hnow op hop)
    (Int.le_trans (sub_day_le_previousStart now) hr.2.1)

theorem step_of_hour? {s : Store α} {op : Operation α} {hour : Int} (h : op.hour? = some hour) :
    s.step op = s.step (.rollupHour hour) := by
  cases op with
  | rollupHour start =>
    obtain rfl := Option.some.inj h
    rfl
  | rollupPreviousHour now =>
    obtain rfl := Option.some.inj h
    exact step_rollupPreviousHour s now
  | _ => cases h

theorem run_hourly_nil {s : Store α} (h : s.Holds []) {tables : Summaries α}
    (ht : s.summaries = some tables) (h₀ : tables.hourly = []) (ops : List (Operation α))
    (hy : ∀ r ∈ s.acceptedIn ops, Month.FourDigitYear r.timestamp) :
    ∃ tables', (s.run ops).summaries = some tables' ∧ ∀ a hour,
      hourOf? (s.acceptedIn ops) hour a = none → under a hour tables'.hourly = [] := by
  induction ops using List.reverseRecOn with
  | nil => exact ⟨tables, ht, fun a hour _ => by rw [h₀]; rfl⟩
  | append_singleton ops op ih =>
    rw [acceptedIn_concat] at hy
    have hy' : ∀ r ∈ s.acceptedIn ops, Month.FourDigitYear r.timestamp := fun r hr =>
      hy r (List.mem_append_left _ hr)
    obtain ⟨tables₁, ht₁, ih⟩ := ih hy'
    obtain ⟨tables₂, ht₂, hpass⟩ := step_hourly ht₁ op
    rw [run_append]
    refine ⟨tables₂, ht₂, fun a hour hnone => ?_⟩
    rw [acceptedIn_concat, hourOf?, ofHour?_eq_none_iff, List.eq_nil_iff_forall_not_mem] at hnone
    have hsub : ∀ rows : List (Record α), (∀ r ∈ rows, r ∈ s.acceptedIn ops) →
        hourOf? rows hour a = none := by
      intro rows hr
      rw [hourOf?, ofHour?_eq_none_iff, List.eq_nil_iff_forall_not_mem]
      intro r hmem
      obtain ⟨hrows, hspan⟩ := mem_inSpan.mp hmem
      exact hnone r (mem_inSpan.mpr ⟨List.mem_append_left _ (hr r hrows), hspan⟩)
    have hnil := ih a hour (hsub _ fun r hr => hr)
    by_cases hop : op.hour? = some hour
    · -- the hour is rolled up, and no row of it is kept
      obtain ⟨report, hourly, hroll, hu, -⟩ := (h.run ops hy').rollupHour_spec ht₁ hour
      rw [step_of_hour? hop, step_rollupHour, hroll] at ht₂
      obtain rfl := Option.some.inj ht₂
      rw [hu, if_pos rfl, hsub _ fun r hr => mem_kept hr]
      exact hnil
    · rw [hpass a hour hop, hnil, ite_self]

/-- A rollup without a failure writes a summary for every agent with a row in the hour. -/
theorem Holds.step_rollupPreviousHour {s : Store α} {rows : List (Record α)} (h : s.Holds rows)
    {tables : Summaries α} (ht : s.summaries = some tables) {now : Int}
    (hf : (s.perform (.rollupPreviousHour now)).2.isFaultless = true) :
    ∃ tables', (s.step (.rollupPreviousHour now)).summaries = some tables' ∧ ∀ a,
      let hour := previousStart .hour now
      (∀ sm, hourOf? rows hour a = some sm → sm.stored?.isSome = true) ∧
      under a hour tables'.hourly =
        ((hourOf? rows hour a).bind stored?).elim (under a hour tables.hourly) ([·]) := by
  obtain ⟨report, hourly, hroll, hu, hok⟩ := h.rollupHour_spec ht (previousStart .hour now)
  have hreport := failures_of_rollupPreviousHour hroll hf
  rw [Store.step_rollupPreviousHour, step_rollupHour, hroll]
  exact ⟨_, rfl, fun a => ⟨hok hreport a, (hu a _).trans (if_pos rfl)⟩⟩

section Upkeep

variable {s : Store α} (h₀ : s.Holds []) {pre post : List (Operation α)} {now : Int}
  (hops : ∀ op ∈ pre ++ .rollupPreviousHour now :: post, op.isUpkeep = true)
  (hnow : ((pre ++ .rollupPreviousHour now :: post).filterMap Operation.now?).Pairwise (· ≤ ·))
  (hy : ∀ r ∈ s.acceptedIn (pre ++ .rollupPreviousHour now :: post),
    Month.FourDigitYear r.timestamp)
include h₀ hops hnow hy

omit h₀ hy in
/-- No cleanup before a rollup took a row of its hour. -/
theorem inSpan_before (agentId : String) (stop : Int) :
    Record.inSpan agentId (previousStart .hour now) stop (s.kept pre) =
      Record.inSpan agentId (previousStart .hour now) stop (s.acceptedIn pre) := by
  refine inSpan_kept s (fun op hop => hops op (List.mem_append_left _ hop)) ?_ agentId stop
  intro op hop t ht
  rw [List.filterMap_append, List.pairwise_append] at hnow
  exact hnow.2.2 t (List.mem_filterMap.mpr ⟨op, hop, ht⟩) now
    (List.mem_filterMap.mpr ⟨_, List.mem_cons_self, rfl⟩)

omit hops hnow in
theorem holds_before : (s.run pre).Holds (s.kept pre) := by
  rw [acceptedIn_append] at hy
  exact h₀.run pre fun r hr => hy r (List.mem_append_left _ hr)

/-- A rollup leaves for its hour the summary of all rows that were accepted in it, and no other. -/
theorem hourly_rolledUp {tables : Summaries α} (ht : s.summaries = some tables)
    (hnone : tables.hourly = [])
    (hf : ((s.run pre).perform (.rollupPreviousHour now)).2.isFaultless = true) :
    ∃ tables', ((s.run pre).step (.rollupPreviousHour now)).summaries = some tables' ∧ ∀ a,
      let hour := previousStart .hour now
      let rows := Record.inSpan a hour (hour + millisPerHour) (s.acceptedIn pre)
      let summary := (ofHour? a hour rows).bind stored?
      (rows ≠ [] → summary.isSome = true) ∧ under a hour tables'.hourly = summary.toList := by
  have hholds := holds_before h₀ hy
  have hyears : ∀ r ∈ s.acceptedIn pre, Month.FourDigitYear r.timestamp := by
    rw [acceptedIn_append] at hy
    exact fun r hr => hy r (List.mem_append_left _ hr)
  obtain ⟨tables₁, ht₁, hnil⟩ := run_hourly_nil h₀ ht hnone pre hyears
  obtain ⟨tables₂, ht₂, hroll⟩ := hholds.step_rollupPreviousHour ht₁ hf
  refine ⟨tables₂, ht₂, fun a => ?_⟩
  obtain ⟨hok, hu⟩ := hroll a
  intro hour rows summary
  have hsame : hourOf? (s.kept pre) hour a = ofHour? a hour rows :=
    congrArg (ofHour? a hour) (inSpan_before hops hnow a (hour + millisPerHour))
  rw [hu, hsame]
  cases hsm : ofHour? a hour rows with
  | none =>
    refine ⟨fun hne => absurd (ofHour?_eq_none_iff.mp hsm) hne, ?_⟩
    rw [hnil a hour hsm]
    simp only [summary, hsm]
    rfl
  | some sm =>
    obtain ⟨sm', hsm'⟩ := Option.isSome_iff_exists.mp (hok sm (hsame.trans hsm))
    simp only [summary, hsm, Option.bind_some, hsm']
    exact ⟨fun _ => rfl, rfl⟩

end Upkeep

/-- **Retention never corrupts the hourly summaries.** In a run of writers, readers and a worker
whose windows are a day at least and whose clock never goes back, on a store that is empty at first
and whose rollups fail nowhere: each rollup of an hour finds all rows that were accepted in it
before. An hour has for an agent the summary of those rows as of the last rollup of the hour, unless
a later cleanup passed it, and none if it was never rolled up. -/
theorem hourly_upkeep (ops : List (Operation α)) (hops : ∀ op ∈ ops, op.isUpkeep = true)
    (hnow : (ops.filterMap Operation.now?).Pairwise (· ≤ ·))
    (hy : ∀ r ∈ ({} : Store α).createSummaries.acceptedIn ops, Month.FourDigitYear r.timestamp)
    (hf : ({} : Store α).createSummaries.Faultless ops) :
    let s := ({} : Store α).createSummaries
    (∀ pre now post, ops = pre ++ .rollupPreviousHour now :: post → ∀ a,
      let hour := previousStart .hour now
      (s.run pre).range a hour (hour + millisPerHour - 1) 0 =
        Record.inSpan a hour (hour + millisPerHour) (s.acceptedIn pre)) ∧
    ∃ tables, (s.run ops).summaries = some tables ∧ ∀ a hour,
      ((∀ op ∈ ops, op.hour? ≠ some hour) → under a hour tables.hourly = []) ∧
      ∀ pre now post, ops = pre ++ .rollupPreviousHour now :: post →
        previousStart .hour now = hour → (∀ op ∈ post, op.hour? ≠ some hour) →
        let rows := Record.inSpan a hour (hour + millisPerHour) (s.acceptedIn pre)
        let summary := (ofHour? a hour rows).bind stored?
        (rows ≠ [] → summary.isSome = true) ∧
        under a hour tables.hourly =
          if (post.all fun op => op.keepsHour hour) = true then summary.toList else [] := by
  intro s
  have h₀ : s.Holds [] := holds_empty.withSummaries _
  refine ⟨?_, ?_⟩
  · rintro pre now post rfl a hour
    calc (s.run pre).range a hour (hour + millisPerHour - 1) 0
        = Record.inSpan a hour (hour + millisPerHour) (s.kept pre) :=
          (holds_before h₀ hy).range_eq_inSpan a hour (hour + millisPerHour)
      _ = Record.inSpan a hour (hour + millisPerHour) (s.acceptedIn pre) :=
          inSpan_before hops hnow a (hour + millisPerHour)
  obtain ⟨tables, ht, hrun⟩ := run_hourly ops (show s.summaries = some {} from rfl)
  refine ⟨tables, ht, fun a hour => ⟨fun hne => ?_, ?_⟩⟩
  · rw [hrun a hour hne]
    exact ite_self _
  rintro pre now post rfl rfl hpost
  obtain ⟨-, hf, -⟩ := (faultless_append _ _ _).mp hf
  obtain ⟨tables₁, ht₁, hroll⟩ := hourly_rolledUp h₀ hops hnow hy rfl rfl hf
  obtain ⟨tables₂, ht₂, hrest⟩ := run_hourly post ht₁
  rw [run_append, run_cons, ht₂] at ht
  obtain rfl := Option.some.inj ht
  intro rows summary
  obtain ⟨hsome, hunder⟩ := hroll a
  refine ⟨hsome, ?_⟩
  rw [hrest a _ hpost, hunder]

/-- An hour that is rolled up, gets a late row that saturates its counters, and is rolled up again,
among cleanups the last of which ends right at it. -/
def lateRow : List (Operation Float) :=
  [.saveAll [.uniform "a" 1706745600000 1.0 5, .uniform "b" 1706745600000 1.0 5,
      .uniform "a" 1706749199999 3.0 7],
    .cleanupCycle 1706749200000 ⟨1, 1, 1⟩ false,
    .rollupPreviousHour 1706749200005,
    .save (.uniform "a" 1706746000000 2.0 18446744073709551615),
    .cleanupCycle 1706749200010 ⟨1, 2, 1⟩ true,
    .rollupPreviousHour 1706749200020,
    .cleanupCycle 1706832000000 ⟨1, 1, 1⟩ false]

theorem hourly_upkeep_lateRow :
    (∀ op ∈ lateRow, op.isUpkeep = true) ∧
    (lateRow.filterMap Operation.now?).Pairwise (· ≤ ·) ∧
    (∀ r ∈ ({} : Store Float).createSummaries.acceptedIn lateRow,
      Month.FourDigitYear r.timestamp) ∧
    ({} : Store Float).createSummaries.Faultless lateRow ∧
    ∃ tables, (({} : Store Float).createSummaries.run lateRow).summaries = some tables ∧
      under "a" 1706745600000 tables.hourly =
        [{ agentId := "a", start := 1706745600000, cpuAvg := 2.0, cpuMax := 3.0, memAvg := 2.0,
           memMax := 3.0, netRxTotal := 18446744073709551615, netTxTotal := 18446744073709551615,
           dataPoints := 3 }] := by
  have hops : ∀ op ∈ lateRow, op.isUpkeep = true := by decide +kernel
  have hnow : (lateRow.filterMap Operation.now?).Pairwise (· ≤ ·) := by decide +kernel
  have hy : ∀ r ∈ ({} : Store Float).createSummaries.acceptedIn lateRow,
      Month.FourDigitYear r.timestamp := by decide +kernel
  have hf : ({} : Store Float).createSummaries.Faultless lateRow := by decide +kernel
  refine ⟨hops, hnow, hy, hf, ?_⟩
  obtain ⟨-, tables, ht, h⟩ := hourly_upkeep lateRow hops hnow hy hf
  obtain ⟨-, hu⟩ := (h "a" 1706745600000).2 (lateRow.take 5) 1706749200020 (lateRow.drop 6) rfl
    (by decide +kernel) (by decide +kernel)
  exact ⟨tables, ht, hu.trans (by decide +kernel)⟩

end Store
end FleetTelemetry

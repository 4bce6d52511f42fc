/-
# A cleanup cycle done again

A cleanup cycle rolls up the last day and then takes what is too old. Done again
at the same time it finds nothing more to take (`Store.table?_pruneRaw_again`),
but it rolls up the day once more, from the hours that the first cycle left. Two
days of hours outlast the day that is rolled up, and the second cycle changes
nothing (`Store.cleanupCycle_settled`). One day of hours does not: some hours of
the day are gone, and its summary is replaced by one of those that are left
(`Store.cleanupCycle_twoHours`).

Key definitions: `RetentionPolicy.Settles`, `Store.SameRows`, `Store.twoHours`.
Key theorems: `Store.table?_pruneRaw_again`, `Store.cleanupCycle_settled`,
`Store.cleanupCycle_twoHours`, `Store.cleanupCycle_repeat`.
-/
import FleetTelemetry.Proofs.DailyRollup
import FleetTelemetry.Proofs.HourlyRetention

namespace FleetTelemetry

/-! ### The cutoffs and the last day -/

/-- Whether a cleanup leaves the hours of the last day, or its summary no more than they. -/
def RetentionPolicy.Settles (policy : RetentionPolicy) (now : Int) : Prop :=
  2 ≤ policy.hourlyDays ∨ policy.dailyDays = 1 ∨ millisPerDay ∣ now

instance (policy : RetentionPolicy) (now : Int) : Decidable (policy.Settles now) :=
  inferInstanceAs (Decidable (_ ∨ _ ∨ _))

theorem cutoff_one (now : Int) : cutoff now 1 = previousStart .day now + now % millisPerDay := by
  show now - 1 * millisPerDay = now / millisPerDay * millisPerDay - millisPerDay + _
  have := Int.ediv_mul_add_emod now millisPerDay
  omega

theorem dvd_previousStart_day (now : Int) : millisPerDay ∣ previousStart .day now :=
  Int.dvd_sub (Int.dvd_mul_left _ _) (Int.dvd_refl _)

/-- A window of more than one day reaches back over the last day, one of a single day does so at the
turn of a day alone. -/
theorem cutoff_le_previousStart_iff {days : UInt32} (h : 1 ≤ days) (now : Int) :
    cutoff now days ≤ previousStart .day now ↔ days ≠ 1 ∨ millisPerDay ∣ now := by
  by_cases hone : days = 1
  · rw [hone, cutoff_one, Int.dvd_iff_emod_eq_zero]
    have := Int.emod_nonneg now (Int.ne_of_gt millisPerDay_pos)
    simp only [ne_eq, not_true_eq_false, false_or]
    omega
  · have htwo : 2 ≤ days.toNat := by
      have hpos : 1 ≤ days.toNat := UInt32.le_iff_toNat_le.mp h
      have hne : days.toNat ≠ 1 := fun h => hone (UInt32.toNat_inj.mp h)
      omega
    refine iff_of_true ?_ (Or.inl hone)
    have := lt_bucketStart_add millisPerDay_pos now
    show now - days.toNat * millisPerDay ≤ bucketStart millisPerDay now - millisPerDay
    unfold millisPerDay millisPerHour millisPerMinute at *
    omega

namespace RetentionPolicy

variable {policy : RetentionPolicy} (hp : policy.hasDays = true) {now : Int}

include hp

theorem not_settles_iff :
    ¬ policy.Settles now ↔
      policy.hourlyDays = 1 ∧ policy.dailyDays ≠ 1 ∧ ¬ millisPerDay ∣ now := by
  obtain ⟨-, hhourly, -⟩ := hasDays_iff.mp hp
  have hone : ¬ 2 ≤ policy.hourlyDays ↔ policy.hourlyDays = 1 := by
    have hpos : 1 ≤ policy.hourlyDays.toNat := UInt32.le_iff_toNat_le.mp hhourly
    rw [UInt32.le_iff_toNat_le, ← UInt32.toNat_inj]
    show ¬ 2 ≤ policy.hourlyDays.toNat ↔ policy.hourlyDays.toNat = 1
    omega
  rw [Settles, not_or, not_or, hone]

/-- Where a policy settles, the hourly cutoff passes the last day only if the daily one does. -/
theorem Settles.cutoff_le (h : policy.Settles now)
    (hd : cutoff now policy.dailyDays ≤ previousStart .day now) :
    cutoff now policy.hourlyDays ≤ previousStart .day now := by
  obtain ⟨-, hhourly, hdaily⟩ := hasDays_iff.mp hp
  rw [cutoff_le_previousStart_iff hhourly]
  rw [cutoff_le_previousStart_iff hdaily] at hd
  rcases h with htwo | hone | hdvd
  · refine Or.inl fun hone => ?_
    rw [hone] at htwo
    exact absurd htwo (by decide)
  · exact Or.inr (hd.resolve_left fun hne => hne hone)
  · exact Or.inr hdvd

end RetentionPolicy

namespace Store

open Summary

/-! ### Raw rows -/

section Raw

variable {α : Type}

/-- **The raw cutoff finds nothing more** in a store with the tables that it left. -/
theorem table?_pruneRaw_again {s s' : Store α} {first : Int} {report : CleanupReport}
    (hs : ∀ m, s'.table? m = (pruneRaw first s report).1.table? m) (report' : CleanupReport)
    (m : Month) : (pruneRaw first s' report').1.table? m = s'.table? m := by
  rw [table?_pruneRaw]
  cases hc : Month.containing? first with
  | none => rfl
  | some c =>
    dsimp only
    have hleft : ∀ m, s'.table? m =
        if m ∈ s.listed then prunedTable first c m (s.table? m) else s.table? m := fun m => by
      rw [hs, table?_pruneRaw, hc]
    have hsome : ∀ k, (s'.table? k).isSome = true → (s.table? k).isSome = true := by
      intro k hk
      rw [hleft] at hk
      split at hk
      · exact isSome_of_prunedTable hk
      · exact hk
    split
    · next hm =>
      -- what is listed was listed before
      obtain ⟨k, hk, hn⟩ := (mem_listed_iff s' m).mp hm
      have hm₀ : m ∈ s.listed := (mem_listed_iff s m).mpr ⟨k, hsome k hk, hn⟩
      rw [hleft, if_pos hm₀, prunedTable_prunedTable]
    · rfl

theorem table?_cleanup (s : Store α) (now : Int) (policy : RetentionPolicy) (m : Month) :
    (s.cleanup now policy).1.table? m =
      (pruneRaw (cutoff now policy.rawDays) s {}).1.table? m := by
  unfold cleanup pruneSummaries
  dsimp only
  split <;> rfl

theorem table?_cleanupCycle [Gauge α] {s : Store α} {tables : Summaries α}
    (ht : s.summaries = some tables) (now : Int) (policy : RetentionPolicy) (vacuumAfter : Bool)
    (m : Month) :
    (s.cleanupCycle now policy vacuumAfter).1.table? m =
      (pruneRaw (cutoff now policy.rawDays) s {}).1.table? m := by
  rw [cleanupCycle_eq ht, table?_cleanup, table?_pruneRaw, table?_pruneRaw]
  rfl

end Raw

/-! ### Where the last day is settled -/

section Days

variable {α : Type} [Gauge α] {first start : Int}

/-- Hours from a cutoff on that does not lie in the day make the same day. -/
theorem dayOf?_keptSummaries (h : first ≤ start) (hourly : List (Summary α .hour))
    (agentId : String) :
    dayOf? (keptSummaries first hourly) start agentId = dayOf? hourly start agentId := by
  have hunder : ∀ k, (if within start (start + Span.day.millis - 1) k then
        under agentId k (keptSummaries first hourly) else []) =
      if within start (start + Span.day.millis - 1) k then under agentId k hourly else [] := by
    intro k
    split
    · next hk =>
      simp only [within, Bool.and_eq_true, decide_eq_true_eq] at hk
      rw [under_keptSummaries, if_pos (Int.le_trans h hk.1)]
    · rfl
  refine congrArg (ofDay? agentId start) (StableOrder.sort_congr fun k => ?_)
  rw [filter_start, filter_start, hunder]

/-- Hours from a cutoff on that passes the last hour of the day make none, if all begin on the
hour. -/
theorem dayOf?_keptSummaries_eq_none (h : start + 23 * millisPerHour < first)
    (hstart : millisPerHour ∣ start) {hourly : List (Summary α .hour)}
    (hon : ∀ t ∈ hourly, millisPerHour ∣ t.start) (agentId : String) :
    dayOf? (keptSummaries first hourly) start agentId = none := by
  have hnil : select agentId start (start + Span.day.millis - 1) (keptSummaries first hourly) =
      [] := by
    refine List.eq_nil_iff_forall_not_mem.mpr fun t ht => ?_
    obtain ⟨ht, hw⟩ := List.mem_filter.mp (StableOrder.mem_sort.mp ht)
    obtain ⟨ht, hfirst⟩ := List.mem_filter.mp ht
    have hdvd := hon t ht
    simp only [within, Bool.and_eq_true, decide_eq_true_eq] at hw hfirst
    unfold Span.millis millisPerDay at hw
    unfold millisPerHour millisPerMinute at *
    dsimp only at hw
    omega
  rw [dayOf?, hnil]
  rfl

end Days

section Settled

variable {α : Type}

/-- Two stores have the same raw rows, month by month, and answer every query for summaries
alike. -/
structure SameRows (s s' : Store α) : Prop where
  raw : ∀ m, s'.table? m = s.table? m
  hourly : ∀ agentId first last, s'.hourly agentId first last = s.hourly agentId first last
  daily : ∀ agentId first last, s'.daily agentId first last = s.daily agentId first last

theorem hourly_eq {s : Store α} {tables : Summaries α} (ht : s.summaries = some tables)
    (agentId : String) (first last : Int) :
    s.hourly agentId first last = .ok (select agentId first last tables.hourly) := by
  rw [Store.hourly, ht]

theorem daily_eq {s : Store α} {tables : Summaries α} (ht : s.summaries = some tables)
    (agentId : String) (first last : Int) :
    s.daily agentId first last = .ok (select agentId first last tables.daily) := by
  rw [Store.daily, ht]

variable [Gauge α] {s : Store α} {tables : Summaries α} (ht : s.summaries = some tables)
  {now : Int} {policy : RetentionPolicy}

include ht

/-- A second cycle changes nothing if it finds for every agent the hours of the last day that the
first one found, or none. -/
theorem sameRows_cleanupCycle
    (hday : cutoff now policy.dailyDays ≤ previousStart .day now → ∀ a,
      let left := keptSummaries (cutoff now policy.hourlyDays) tables.hourly
      dayOf? left (previousStart .day now) a = dayOf? tables.hourly (previousStart .day now) a ∨
        dayOf? left (previousStart .day now) a = none) (vacuumAfter : Bool) :
    SameRows (s.cleanupCycle now policy vacuumAfter).1
      ((s.cleanupCycle now policy vacuumAfter).1.cleanupCycle now policy vacuumAfter).1 := by
  have ht₁ := cleanupCycle_summaries ht now policy vacuumAfter
  have ht₂ := cleanupCycle_summaries ht₁ now policy vacuumAfter
  refine ⟨fun m => ?_, fun a first last => ?_, fun a first last => ?_⟩
  · rw [table?_cleanupCycle ht₁]
    exact table?_pruneRaw_again (table?_cleanupCycle ht now policy vacuumAfter) {} m
  · rw [hourly_eq ht₁, hourly_eq ht₂, select_congr (fun k => ?_) first last]
    rw [under_keptSummaries, under_keptSummaries]
    split <;> rfl
  · rw [daily_eq ht₁, daily_eq ht₂, select_congr (fun k => ?_) first last]
    rw [under_keptSummaries, under_keptSummaries, under_rollDay, under_rollDay,
      under_keptSummaries, under_rollDay]
    by_cases hk : cutoff now policy.dailyDays ≤ k
    · by_cases hD : k = previousStart .day now
      · rw [if_pos hk, if_pos hk, if_pos hD, if_pos hD]
        dsimp only
        rcases hday (hD ▸ hk) a with hsame | hnone
        · rw [hsame]
          cases (dayOf? tables.hourly (previousStart .day now) a).bind stored? <;> rfl
        · rw [hnone]
          rfl
      · rw [if_pos hk, if_pos hk, if_neg hD, if_neg hD]
    · rw [if_neg hk, if_neg hk]

/-- **A cycle that settles changes nothing** when it is done again. -/
theorem cleanupCycle_settled (hp : policy.hasDays = true) (h : policy.Settles now)
    (vacuumAfter : Bool) :
    SameRows (s.cleanupCycle now policy vacuumAfter).1
      ((s.cleanupCycle now policy vacuumAfter).1.cleanupCycle now policy vacuumAfter).1 := by
  refine sameRows_cleanupCycle ht (fun hd a => Or.inl ?_) vacuumAfter
  exact dayOf?_keptSummaries (h.cutoff_le hp hd) tables.hourly a

/-- Nor does one in the last hour of the day, if the hours begin on the hour: then the first cycle
leaves none of the last day. -/
theorem cleanupCycle_lastHour (hp : policy.hasDays = true)
    (hnow : 23 * millisPerHour < now % millisPerDay)
    (hon : ∀ t ∈ tables.hourly, millisPerHour ∣ t.start) (vacuumAfter : Bool) :
    SameRows (s.cleanupCycle now policy vacuumAfter).1
      ((s.cleanupCycle now policy vacuumAfter).1.cleanupCycle now policy vacuumAfter).1 := by
  by_cases h : policy.Settles now
  · exact cleanupCycle_settled ht hp h vacuumAfter
  · obtain ⟨hone, -⟩ := (RetentionPolicy.not_settles_iff hp).mp h
    refine sameRows_cleanupCycle ht (fun _ a => Or.inr ?_) vacuumAfter
    refine dayOf?_keptSummaries_eq_none ?_ ?_ hon a
    · rw [hone, cutoff_one]
      omega
    · exact Int.dvd_trans ⟨24, by decide⟩ (dvd_previousStart_day now)

end Settled

/-! ### Where hours of the last day are lost -/

/-- The summary of rows whose readings are zero. -/
def level {span : Span} (start points : Int) : Summary Float span where
  agentId := "a"
  start
  cpuAvg := 0.0
  cpuMax := 0.0
  memAvg := 0.0
  memMax := 0.0
  netRxTotal := 0
  netTxTotal := 0
  dataPoints := points

theorem stored_zero : Gauge.stored (0.0 : Float) = some 0.0 := by decide +kernel

theorem stored?_uniform (ts : Int) :
    (Record.uniform "a" ts (0.0 : Float) 0).stored? = some (.uniform "a" ts 0.0 0) := by
  unfold Record.stored? Record.uniform
  simp only [stored_zero]
  rfl

theorem stored?_level {span : Span} {mean peak : Float} (hmean : Gauge.stored mean = some 0.0)
    (hpeak : Gauge.stored peak = some 0.0) (start points : Int) :
    stored? ({ (level start points : Summary Float span) with
      cpuAvg := mean, cpuMax := peak, memAvg := mean, memMax := peak } : Summary Float span) =
      some (level start points) := by
  unfold stored?
  simp only [hmean, hpeak]
  rfl

theorem ofHour?_uniform (start ts : Int) :
    (ofHour? "a" start [.uniform "a" ts (0.0 : Float) 0]).bind stored? = some (level start 1) := by
  have hmean : Gauge.stored (Summary.mean [(0.0 : Float)]) = some 0.0 := by decide +kernel
  have hpeak : Gauge.stored (Gauge.peak [(0.0 : Float)]) = some 0.0 := by decide +kernel
  exact stored?_level hmean hpeak start 1

theorem ofDay?_level_one (start k : Int) :
    (ofDay? "a" start [level k 1]).bind stored? = some (level start 1) := by
  have hmean : Gauge.stored (weightedMean 1 [((0.0 : Float), 1)]) = some 0.0 := by decide +kernel
  have hpeak : Gauge.stored (Gauge.peak [(0.0 : Float)]) = some 0.0 := by decide +kernel
  exact stored?_level hmean hpeak start 1

theorem ofDay?_level_two (start k k' : Int) :
    (ofDay? "a" start [level k 1, level k' 1]).bind stored? = some (level start 2) := by
  have hmean : Gauge.stored (weightedMean 2 [((0.0 : Float), 1), (0.0, 1)]) = some 0.0 := by
    decide +kernel
  have hpeak : Gauge.stored (Gauge.peak [(0.0 : Float), 0.0]) = some 0.0 := by decide +kernel
  exact stored?_level hmean hpeak start 2

/-- A row at the start of a day and one in a later hour of it. -/
def twoRows (day hour : Int) : List (Record Float) :=
  [.uniform "a" day 0.0 0, .uniform "a" hour 0.0 0]

/-- The two rows are saved, and their hours are rolled up. -/
def twoHours (day hour : Int) : List (Operation Float) :=
  .createSummaries :: .saveAll (twoRows day hour) :: [day, hour].map .rollupHour

theorem within_day {day k : Int} (h₁ : day ≤ k) (h₂ : k < day + millisPerDay) :
    within day (day + Span.day.millis - 1) k = true := by
  rw [within_before, decide_eq_true h₁, decide_eq_true (show k < day + Span.day.millis from h₂),
    Bool.and_self]

/-- The hours of the two rows, each under its start. -/
def HasTwoHours (day hour : Int) (hourly : List (Summary Float .hour)) : Prop :=
  ∀ k, under "a" k hourly =
    if k = day then [level day 1] else if k = hour then [level hour 1] else []

section TwoHours

variable {day hour : Int} (h₁ : day + millisPerHour ≤ hour) (h₂ : hour < day + millisPerDay)

include h₁

theorem hourOf?_twoRows :
    (hourOf? (twoRows day hour) day "a").bind stored? = some (level day 1) ∧
      (hourOf? (twoRows day hour) hour "a").bind stored? = some (level hour 1) := by
  have hpos : 0 < millisPerHour := by decide
  have hfirst : Record.inSpan "a" day (day + millisPerHour) (twoRows day hour) =
      [.uniform "a" day 0.0 0] := by
    have hin : day < day + millisPerHour := by omega
    have hout : ¬ hour < day + millisPerHour := by omega
    simp [Record.inSpan, Record.inOrder, twoRows, Record.uniform, hin, hout, StableOrder.sort,
      StableOrder.insert]
  have hsecond : Record.inSpan "a" hour (hour + millisPerHour) (twoRows day hour) =
      [.uniform "a" hour 0.0 0] := by
    have hin : hour < hour + millisPerHour := by omega
    have hout : ¬ hour ≤ day := by omega
    simp [Record.inSpan, Record.inOrder, twoRows, Record.uniform, hin, hout, StableOrder.sort,
      StableOrder.insert]
  constructor
  · show (ofHour? "a" day (Record.inSpan "a" day (day + millisPerHour) _)).bind stored? = _
    rw [hfirst, ofHour?_uniform]
  · show (ofHour? "a" hour (Record.inSpan "a" hour (hour + millisPerHour) _)).bind stored? = _
    rw [hsecond, ofHour?_uniform]

include h₂

theorem run_twoHours (hday : millisPerDay ∣ day) (hy : Month.FourDigitYear day) :
    ∃ hourly, (({} : Store Float).run (twoHours day hour)).summaries = some { hourly } ∧
      HasTwoHours day hour hourly := by
  have hyears : ∀ r ∈ twoRows day hour, Month.FourDigitYear r.timestamp := by
    have hsame : hour / millisPerDay = day / millisPerDay := by
      unfold millisPerDay millisPerHour millisPerMinute at *
      omega
    intro r hr
    rcases List.mem_cons.mp hr with rfl | hr
    · exact hy
    · obtain rfl := List.mem_singleton.mp hr
      show Month.FourDigitYear hour
      rwa [Month.FourDigitYear, hsame]
  have hholds : ({} : Store Float).createSummaries.Holds [] := holds_empty.withSummaries _
  have htaken := hholds.taken_eq _ hyears
  have hstored : (twoRows day hour).filterMap Record.stored? = twoRows day hour := by
    rw [twoRows, List.filterMap_cons_some (stored?_uniform day),
      List.filterMap_cons_some (stored?_uniform hour), List.filterMap_nil]
  rw [hstored] at htaken
  have hsaved := hholds.saveAll (by rwa [htaken])
  rw [htaken, List.nil_append] at hsaved
  have ht := saveAll_summaries (twoRows day hour) ({} : Store Float).createSummaries
  obtain ⟨hourly, hrun, hu, -⟩ := hsaved.run_rollupHours [day, hour] ht
  refine ⟨hourly, ?_, fun k => ?_⟩
  · rw [twoHours, run_cons, run_cons]
    exact congrArg Store.summaries hrun
  · obtain ⟨hd, hh⟩ := hourOf?_twoRows h₁
    rw [hu]
    by_cases hk : k = day
    · subst hk
      rw [if_pos List.mem_cons_self, hd, if_pos rfl]
      rfl
    · by_cases hk' : k = hour
      · subst hk'
        rw [if_pos (by simp), hh, if_neg hk, if_pos rfl]
        rfl
      · rw [if_neg (by simp [hk, hk']), if_neg hk, if_neg hk']
        rfl

theorem select_twoHours {hourly : List (Summary Float .hour)}
    (hu : HasTwoHours day hour hourly) :
    select "a" day (day + Span.day.millis - 1) hourly = [level day 1, level hour 1] := by
  have hlt : day < hour := by
    unfold millisPerHour millisPerMinute at h₁
    omega
  refine select_eq (List.pairwise_pair.mpr (Int.le_of_lt hlt)) fun k => ?_
  rw [hu]
  by_cases hk : k = day
  · subst hk
    rw [if_pos (within_day (Int.le_refl k) (Int.lt_trans hlt h₂)), if_pos rfl]
    simp [level, Int.ne_of_gt hlt]
  · by_cases hk' : k = hour
    · subst hk'
      rw [if_pos (within_day (Int.le_of_lt hlt) h₂), if_neg hk, if_pos rfl]
      simp [level, Int.ne_of_lt hlt]
    · rw [if_neg hk, if_neg hk', ite_self]
      simp [level, Ne.symm hk, Ne.symm hk']

theorem select_keptSummaries {hourly : List (Summary Float .hour)}
    (hu : HasTwoHours day hour hourly) {first : Int} (hd : day < first) (hh : first ≤ hour) :
    select "a" day (day + Span.day.millis - 1) (keptSummaries first hourly) = [level hour 1] := by
  refine select_eq (List.pairwise_singleton _ _) fun k => ?_
  rw [under_keptSummaries, hu]
  by_cases hk : k = hour
  · subst hk
    rw [if_pos (within_day (Int.le_trans (Int.le_of_lt hd) hh) h₂), if_pos hh,
      if_neg (Int.ne_of_gt (Int.lt_of_lt_of_le hd hh)), if_pos rfl]
    simp [level]
  · by_cases hk' : k = day
    · subst hk'
      rw [if_neg (Int.not_le_of_gt hd), ite_self]
      simp [level, Ne.symm hk]
    · rw [if_neg hk', if_neg hk, ite_self, ite_self]
      simp [level, Ne.symm hk]

end TwoHours

section Unsettled

variable {now : Int} {policy : RetentionPolicy} (hp : policy.hasDays = true)
  (hs : ¬ policy.Settles now)

include hp hs

/-- **Where a policy does not settle, hours are lost.** The first cycle summarises the last day from
both of its hours, the second one from the hour that the first one left. -/
theorem cleanupCycle_twoHours (hy : Month.FourDigitYear (previousStart .day now)) {hour : Int}
    (h₁ : previousStart .day now + millisPerHour ≤ hour)
    (h₂ : hour < previousStart .day now + millisPerDay)
    (hcut : cutoff now policy.hourlyDays ≤ hour) (vacuumAfter : Bool) :
    let day := previousStart .day now
    let s := ({} : Store Float).run (twoHours day hour)
    let s₁ := (s.cleanupCycle now policy vacuumAfter).1
    let s₂ := (s₁.cleanupCycle now policy vacuumAfter).1
    s₁.daily "a" day day = .ok [level day 2] ∧ s₂.daily "a" day day = .ok [level day 1] := by
  intro day s s₁ s₂
  obtain ⟨hone, hne, hdvd⟩ := (RetentionPolicy.not_settles_iff hp).mp hs
  obtain ⟨-, hhourly, hdaily⟩ := RetentionPolicy.hasDays_iff.mp hp
  have hd : cutoff now policy.dailyDays ≤ day :=
    (cutoff_le_previousStart_iff hdaily now).mpr (Or.inl hne)
  have hh : ¬ cutoff now policy.hourlyDays ≤ day := fun h => by
    rcases (cutoff_le_previousStart_iff hhourly now).mp h with hne | hdvd'
    · exact hne hone
    · exact hdvd hdvd'
  obtain ⟨hourly, ht, hu⟩ := run_twoHours h₁ h₂ (dvd_previousStart_day now) hy
  have ht₁ := cleanupCycle_summaries ht now policy vacuumAfter
  have ht₂ := cleanupCycle_summaries ht₁ now policy vacuumAfter
  have hboth := select_twoHours h₁ h₂ hu
  have hlast := select_keptSummaries h₁ h₂ hu (Int.lt_of_not_ge hh) hcut
  constructor
  · rw [daily_eq ht₁, select_single, under_keptSummaries, if_pos hd, under_rollDay, if_pos rfl,
      dayOf?, hboth, ofDay?_level_two]
    rfl
  · rw [daily_eq ht₂, select_single, under_keptSummaries, if_pos hd, under_rollDay, if_pos rfl,
      dayOf?, hlast, ofDay?_level_one]
    rfl

/-- There is such an hour, and unless it is the last hour of the day now it begins on the hour. -/
theorem exists_lostHour :
    ∃ hour, (now % millisPerDay ≤ 23 * millisPerHour → millisPerHour ∣ hour) ∧
      previousStart .day now + millisPerHour ≤ hour ∧
      hour < previousStart .day now + millisPerDay ∧ cutoff now policy.hourlyDays ≤ hour := by
  obtain ⟨hone, -⟩ := (RetentionPolicy.not_settles_iff hp).mp hs
  have hday : millisPerHour ∣ previousStart .day now :=
    Int.dvd_trans ⟨24, by decide⟩ (dvd_previousStart_day now)
  have hnow := Int.emod_lt_of_pos now millisPerDay_pos
  rw [hone, cutoff_one]
  by_cases hlast : now % millisPerDay ≤ 23 * millisPerHour
  · refine ⟨previousStart .day now + 23 * millisPerHour, fun _ => ?_, ?_, ?_, ?_⟩
    · exact Int.dvd_add hday (Int.dvd_mul_left _ _)
    all_goals
      unfold millisPerDay millisPerHour millisPerMinute at *
      omega
  · refine ⟨previousStart .day now + millisPerDay - 1, fun h => absurd h hlast, ?_, ?_, ?_⟩
    all_goals
      unfold millisPerDay millisPerHour millisPerMinute at *
      omega

end Unsettled

/-- **A cleanup cycle done again changes nothing exactly where its policy settles.** Elsewhere there
is a run after which the second cycle replaces the summary of the last day by one of fewer hours;
only in the last hour of a day none does whose hours begin on the hour. -/
theorem cleanupCycle_repeat {now : Int} {policy : RetentionPolicy} (hp : policy.hasDays = true)
    (vacuumAfter : Bool) :
    (∀ (α : Type) [Gauge α] (s : Store α) (tables : Summaries α), s.summaries = some tables →
      policy.Settles now ∨ 23 * millisPerHour < now % millisPerDay ∧
        (∀ t ∈ tables.hourly, millisPerHour ∣ t.start) →
      let s₁ := (s.cleanupCycle now policy vacuumAfter).1
      SameRows s₁ (s₁.cleanupCycle now policy vacuumAfter).1) ∧
    (¬ policy.Settles now → Month.FourDigitYear (previousStart .day now) →
      ∃ hour, (now % millisPerDay ≤ 23 * millisPerHour → millisPerHour ∣ hour) ∧
        let day := previousStart .day now
        let s := ({} : Store Float).run (twoHours day hour)
        let s₁ := (s.cleanupCycle now policy vacuumAfter).1
        let s₂ := (s₁.cleanupCycle now policy vacuumAfter).1
        s₁.daily "a" day day = .ok [level day 2] ∧ s₂.daily "a" day day = .ok [level day 1]) := by
  constructor
  · intro α _ s tables ht h
    rcases h with h | ⟨hnow, hon⟩
    · exact cleanupCycle_settled ht hp h vacuumAfter
    · exact cleanupCycle_lastHour ht hp hnow hon vacuumAfter
  · intro hs hy
    obtain ⟨hour, hon, h₁, h₂, hcut⟩ := exists_lostHour hp hs
    exact ⟨hour, hon, cleanupCycle_twoHours hp hs hy h₁ h₂ hcut vacuumAfter⟩

/-- Hours are kept for one day at six in the morning, or for two. -/
theorem cleanupCycle_repeat_morning :
    (¬ RetentionPolicy.Settles ⟨30, 1, 30⟩ 1706853600000 ∧
      ∃ hour, millisPerHour ∣ hour ∧
        let s := ({} : Store Float).run (twoHours 1706745600000 hour)
        let s₁ := (s.cleanupCycle 1706853600000 ⟨30, 1, 30⟩ false).1
        let s₂ := (s₁.cleanupCycle 1706853600000 ⟨30, 1, 30⟩ false).1
        s₁.daily "a" 1706745600000 1706745600000 = .ok [level 1706745600000 2] ∧
        s₂.daily "a" 1706745600000 1706745600000 = .ok [level 1706745600000 1]) ∧
    RetentionPolicy.Settles ⟨30, 2, 30⟩ 1706853600000 ∧
      let s := ({} : Store Float).run (twoHours 1706745600000 1706788800000)
      let s₁ := (s.cleanupCycle 1706853600000 ⟨30, 2, 30⟩ true).1
      SameRows s₁ (s₁.cleanupCycle 1706853600000 ⟨30, 2, 30⟩ true).1 := by
  have hs : ¬ RetentionPolicy.Settles ⟨30, 1, 30⟩ 1706853600000 := by decide
  have hsettles : RetentionPolicy.Settles ⟨30, 2, 30⟩ 1706853600000 := by decide
  have htables : (({} : Store Float).run (twoHours 1706745600000 1706788800000)).summaries.isSome =
      true := by decide +kernel
  obtain ⟨tables, ht⟩ := Option.isSome_iff_exists.mp htables
  obtain ⟨hour, hon, hlost⟩ := (cleanupCycle_repeat (by decide) false).2 hs (by decide)
  exact ⟨⟨hs, hour, hon (by decide), hlost⟩, hsettles,
    (cleanupCycle_repeat (by decide) true).1 Float _ tables ht (Or.inl hsettles)⟩

end Store
end FleetTelemetry

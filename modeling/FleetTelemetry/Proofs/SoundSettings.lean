/-
# Configurations that are taken as they say

The parts of the program guard themselves: the cache, the pool, the writer and
the worker raise a zero to one, and the worker falls back to its interval if its
schedule cannot be read. A configuration is taken as it says if none of these
guards does anything (`Config.TakenAsSaid`). The conditions of a usable
configuration are just that, a port and a path (`Config.fault?_eq_none_iff`), so
that the guards are idle for every text that is accepted, and a text that fits
the sections is refused for nothing else (`Config.ofText_takenAsSaid`). It is
refused with the first condition that it does not meet
(`Config.fault?_eq_some_iff`); defaults meet all of theirs
(`Config.fault?_defaults`).

Key definitions: `Config.TakenAsSaid`.
Key theorems: `Config.fault?_eq_none_iff`, `Config.fault?_eq_some_iff`,
`Config.ofText_eq_ok_iff`, `Config.ofText_takenAsSaid`.
-/
import FleetTelemetry.Cache
import FleetTelemetry.Config
import FleetTelemetry.Store.Database

namespace FleetTelemetry

/-! ### Guards that do nothing -/

namespace Word

theorem max_one_eq_self_iff {n : Nat} : Nat.max n 1 = n ↔ n ≠ 0 := by
  have h : Nat.max n 1 = if n ≤ 1 then 1 else n := Nat.max_def
  rw [h]
  split <;> omega

theorem max_one_eq_toNat32_iff {n : UInt32} : Nat.max n.toNat 1 = n.toNat ↔ n ≠ 0 := by
  rw [max_one_eq_self_iff, ne_eq, ne_eq, ← UInt32.toNat_inj]
  rfl

theorem max_one_eq_toNat64_iff {n : UInt64} : Nat.max n.toNat 1 = n.toNat ↔ n ≠ 0 := by
  rw [max_one_eq_self_iff, ne_eq, ne_eq, ← UInt64.toNat_inj]
  rfl

theorem one_le_iff {n : UInt32} : 1 ≤ n ↔ n ≠ 0 := by
  rw [UInt32.le_iff_toNat_le, ne_eq, ← UInt32.toNat_inj]
  exact Nat.one_le_iff_ne_zero

end Word

namespace WorkerConfig

theorem cleanupDelay_of_schedule {c : WorkerConfig} (h : c.schedule?.isSome = true)
    (secs : UInt64) :
    { c with cleanupIntervalSecs := secs }.cleanupDelay = c.cleanupDelay := by
  obtain ⟨s, hs⟩ := Option.isSome_iff_exists.mp h
  have hs' : { c with cleanupIntervalSecs := secs }.schedule? = some s := hs
  funext now
  simp only [cleanupDelay, hs, hs']

end WorkerConfig

/-! ### The conditions of a usable configuration -/

namespace Config

/-- No part of the program changes what a configuration says to it. -/
structure TakenAsSaid (c : Config) : Prop where
  history : ∀ broadcastCapacity,
    (Cache.empty c.cache.historyCapacity.toNat broadcastCapacity).historyCapacity =
      c.cache.historyCapacity.toNat
  pool : poolSize c.database.maxPoolSize = c.database.maxPoolSize.toNat
  batch : c.writerConfig.batchSize = c.database.flushRate.toNat
  tick : c.writerConfig.tickSecs = c.database.flushIntervalSecs.toNat
  rollup : c.workerConfig.rollupPeriodSecs = c.aggregation.rollupIntervalSecs.toNat
  cleanup : c.workerConfig.cleanupPeriodSecs = c.aggregation.cleanupIntervalSecs.toNat
  /-- A schedule that is said can be read, and the worker has it. -/
  schedule : ∀ e, c.aggregation.cleanupSchedule = some e →
    ∃ s, Schedule.ofText? e = some s ∧ c.workerConfig.schedule? = some s
  /-- Where there is a schedule, the interval of the cleanups does not count. -/
  interval : c.aggregation.cleanupSchedule.isSome = true → ∀ secs,
    { c.workerConfig with cleanupIntervalSecs := secs }.cleanupDelay = c.workerConfig.cleanupDelay
  /-- The worker waits for as long as the writer may keep a row. -/
  grace : c.workerConfig.flushGraceSecs.toNat = c.writerConfig.tickSecs
  raw : 1 ≤ c.workerConfig.retention.rawDays
  hourly : 1 ≤ c.workerConfig.retention.hourlyDays
  daily : 1 ≤ c.workerConfig.retention.dailyDays

variable {c : Config}

/-- Zeros alone are raised, and a schedule that cannot be read is passed over. -/
theorem takenAsSaid_iff : c.TakenAsSaid ↔
    c.database.maxPoolSize ≠ 0 ∧ c.database.flushRate ≠ 0 ∧ c.database.flushIntervalSecs ≠ 0 ∧
    c.cache.historyCapacity ≠ 0 ∧
    c.retention.rawRetentionDays ≠ 0 ∧ c.retention.hourlyRetentionDays ≠ 0 ∧
    c.retention.dailyRetentionDays ≠ 0 ∧
    c.aggregation.rollupIntervalSecs ≠ 0 ∧ c.aggregation.cleanupIntervalSecs ≠ 0 ∧
    ∀ e, c.aggregation.cleanupSchedule = some e → (Schedule.ofText? e).isSome = true := by
  constructor
  · intro h
    exact ⟨Word.max_one_eq_toNat32_iff.mp h.pool, Word.max_one_eq_toNat64_iff.mp h.batch,
      Word.max_one_eq_toNat64_iff.mp h.tick, Word.max_one_eq_toNat64_iff.mp (h.history 0),
      Word.one_le_iff.mp h.raw, Word.one_le_iff.mp h.hourly, Word.one_le_iff.mp h.daily,
      Word.max_one_eq_toNat64_iff.mp h.rollup, Word.max_one_eq_toNat64_iff.mp h.cleanup,
      fun e he => by obtain ⟨s, hs, -⟩ := h.schedule e he; rw [hs]; rfl⟩
  · rintro ⟨hpool, hbatch, htick, hhistory, hraw, hhourly, hdaily, hrollup, hcleanup, hschedule⟩
    have hread : ∀ e, c.aggregation.cleanupSchedule = some e →
        c.workerConfig.schedule? = Schedule.ofText? e := fun e he => by
      show c.aggregation.cleanupSchedule.bind Schedule.ofText? = _
      rw [he]
      rfl
    exact {
      history := fun _ => Word.max_one_eq_toNat64_iff.mpr hhistory
      pool := Word.max_one_eq_toNat32_iff.mpr hpool
      batch := Word.max_one_eq_toNat64_iff.mpr hbatch
      tick := Word.max_one_eq_toNat64_iff.mpr htick
      rollup := Word.max_one_eq_toNat64_iff.mpr hrollup
      cleanup := Word.max_one_eq_toNat64_iff.mpr hcleanup
      schedule := fun e he => by
        obtain ⟨s, hs⟩ := Option.isSome_iff_exists.mp (hschedule e he)
        exact ⟨s, hs, (hread e he).trans hs⟩
      interval := fun hsome secs => by
        obtain ⟨e, he⟩ := Option.isSome_iff_exists.mp hsome
        exact WorkerConfig.cleanupDelay_of_schedule (by rw [hread e he]; exact hschedule e he) secs
      grace := (Word.max_one_eq_toNat64_iff.mpr htick).symm
      raw := Word.one_le_iff.mpr hraw
      hourly := Word.one_le_iff.mpr hhourly
      daily := Word.one_le_iff.mpr hdaily }

/-- **A configuration is without fault** if it has a port and a path and is taken as it says. -/
theorem fault?_eq_none_iff :
    c.fault? = none ↔ c.server.port ≠ 0 ∧ c.database.path ≠ "" ∧ c.TakenAsSaid := by
  have hschedule : (c.aggregation.cleanupSchedule.all fun e => (Schedule.ofText? e).isSome) = true ↔
      ∀ e, c.aggregation.cleanupSchedule = some e → (Schedule.ofText? e).isSome = true := by
    cases c.aggregation.cleanupSchedule <;> simp
  rw [takenAsSaid_iff, ← hschedule]
  simp [fault?, conditions]

theorem fault?_eq_some_iff {fault : ConfigFault} :
    c.fault? = some fault ↔ ∃ before after, c.conditions = before ++ (false, fault) :: after ∧
      ∀ condition ∈ before, condition.1 = true := by
  simp only [fault?, Option.map_eq_some_iff, List.find?_eq_some_iff_append, Bool.not_eq_true',
    Bool.not_not]
  constructor
  · rintro ⟨⟨_, _⟩, ⟨rfl, before, after, h, hbefore⟩, rfl⟩
    exact ⟨before, after, h, hbefore⟩
  · rintro ⟨before, after, h, hbefore⟩
    exact ⟨(false, fault), ⟨rfl, before, after, h, hbefore⟩, rfl⟩

/-- Every default meets its condition. -/
theorem fault?_defaults (server : ServerConfig) (path : String) :
    ({ server, database := { path } } : Config).fault? = none ↔ server.port ≠ 0 ∧ path ≠ "" := by
  rw [fault?_eq_none_iff, takenAsSaid_iff]
  simp

/-! ### Texts -/

/-- The configuration that a text says, usable or not. -/
def said? (text : String) : Option Config := (Settings.ofText? text).bind ofEntries?

theorem ofText_of_said {text : String} (h : said? text = some c) :
    ofText text = match c.fault? with
      | some fault => .error (.invalid fault)
      | none => .ok c := by
  unfold said? at h
  cases hfault : c.fault? with
  | none => simp only [ofText, h, hfault]
  | some fault => simp only [ofText, h, hfault]

/-- A text is accepted if it says a configuration without fault. -/
theorem ofText_eq_ok_iff {text : String} :
    ofText text = .ok c ↔ said? text = some c ∧ c.fault? = none := by
  cases h : said? text with
  | none =>
    unfold said? at h
    rw [ofText, h]
    exact iff_of_false nofun nofun
  | some c' =>
    rw [ofText_of_said h, Option.some.injEq]
    cases hfault : c'.fault? with
    | none =>
      rw [Except.ok.injEq]
      exact ⟨fun hc => ⟨hc, hc ▸ hfault⟩, And.left⟩
    | some fault =>
      refine iff_of_false nofun ?_
      rintro ⟨rfl, hnone⟩
      rw [hnone] at hfault
      cases hfault

/-- **What is accepted is taken as it says**: of a text that is accepted, no part of the program
changes a setting, the schedule is one that can be read, the worker waits for as long as the writer
may keep a row, and rows and summaries are kept for a day at least. A text that fits the sections is
refused just if this fails of what it says, or if it has no port or no path; the complaint is about
the first condition that it does not meet. -/
theorem ofText_takenAsSaid :
    (∀ text c, ofText text = .ok c → c.TakenAsSaid) ∧
    ∀ text c, said? text = some c →
      ((∃ e, ofText text = .error e) ↔
        ¬ (c.server.port ≠ 0 ∧ c.database.path ≠ "" ∧ c.TakenAsSaid)) ∧
      ∀ e, ofText text = .error e → ∃ fault before after, e = .invalid fault ∧
        c.conditions = before ++ (false, fault) :: after ∧
        ∀ condition ∈ before, condition.1 = true := by
  refine ⟨fun text c h => (fault?_eq_none_iff.mp (ofText_eq_ok_iff.mp h).2).2.2,
    fun text c hsaid => ?_⟩
  rw [← fault?_eq_none_iff, ofText_of_said hsaid]
  cases hfault : c.fault? with
  | none => exact ⟨iff_of_false nofun (fun h => h rfl), nofun⟩
  | some fault =>
    refine ⟨iff_of_true ⟨_, rfl⟩ nofun, fun e he => ?_⟩
    obtain ⟨before, after, hconditions, hbefore⟩ := fault?_eq_some_iff.mp hfault
    exact ⟨fault, before, after, (Except.error.inj he).symm, hconditions, hbefore⟩

/-- Settings with a cleanup at three every night, and rows that wait for seven seconds at most. -/
def nightlyText : String :=
  "[server]\nport = 8080\nhost = \"::\"\n[database]\npath = \"fleet.db\"\n" ++
    "flush_interval_secs = 7\n[aggregation]\ncleanup_schedule = \"0 0 3 * * *\"\n"

/-- What the settings of the night say. -/
def nightly : Config where
  server := { port := 8080, host := "::" }
  database := { path := "fleet.db", flushIntervalSecs := 7 }
  aggregation := { cleanupSchedule := some "0 0 3 * * *" }

/-- Settings as lists, of which the fourth of the database is a flush rate of zero. -/
def zeroRateText : String := "server = [8080, \"::\"]\ndatabase = [\"fleet.db\", 4, true, 0]"

/-- What they say. -/
def zeroRate : Config where
  server := { port := 8080, host := "::" }
  database := { path := "fleet.db", flushRate := 0 }

/-- The settings of the night are taken as they say; those with a rate of zero are refused. -/
theorem ofText_takenAsSaid_nightly :
    (ofText nightlyText = .ok nightly ∧ nightly.TakenAsSaid ∧
      nightly.workerConfig.flushGraceSecs.toNat = 7) ∧
    said? zeroRateText = some zeroRate ∧ ∃ e, ofText zeroRateText = .error e := by
  have hnightly : said? nightlyText = some nightly := by decide +kernel
  have hzeroRate : said? zeroRateText = some zeroRate := by decide +kernel
  have hok : ofText nightlyText = .ok nightly :=
    ofText_eq_ok_iff.mpr ⟨hnightly, by decide +kernel⟩
  have htaken := ofText_takenAsSaid.1 _ _ hok
  refine ⟨⟨hok, htaken, htaken.grace.trans htaken.tick⟩, hzeroRate, ?_⟩
  refine (ofText_takenAsSaid.2 _ _ hzeroRate).1.mpr fun h => ?_
  exact absurd h.2.2.batch (by decide)

end Config
end FleetTelemetry

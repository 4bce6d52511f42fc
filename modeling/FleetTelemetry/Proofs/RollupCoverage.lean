/-
# Which hours the worker rolls up

The rollup at the start of the worker is for the last hour that ended, and that
of a tick for the last hour before the tick. The ticks begin a grace past the top
of the next hour, so tick `k` is for the hour of the start and as many whole hours
as there are in the grace and `k` intervals (`previousStart_tick`). If the interval
is an hour at most, that number goes up by one at most and leaves no hour out, if
it begins with none; if it is longer, the number goes up with each tick, and would
have to count the ticks to leave none out
(`WorkerConfig.surjective_hoursPast_iff`).

Key definitions: `WorkerConfig.hoursPast`, `WorkerConfig.rolledUpHour?`.
Key theorems: `now_add_firstRollupDelay?`, `previousStart_tick`,
`WorkerConfig.surjective_hoursPast_iff`, `WorkerConfig.rollup_coverage`.
-/
import FleetTelemetry.Proofs.Buckets
import FleetTelemetry.Proofs.Run
import FleetTelemetry.Worker
import Mathlib.Order.WellFounded
import Mathlib.Tactic.Ring

namespace FleetTelemetry

/-! ### Instants of ticks -/

theorem now_add_millisToNextHour (now : Int) :
    now + millisToNextHour now = bucketStart millisPerHour now + millisPerHour ∧
      0 < millisToNextHour now := by
  have hlt := lt_bucketStart_add (show 0 < millisPerHour by decide) now
  rw [millisToNextHour]
  omega

theorem now_add_firstRollupDelay? {now : Int} {graceSecs : UInt64}
    (h : millisToNextHour now / 1000 + graceSecs.toNat < Word.size64) :
    ∃ delay, firstRollupDelay? now graceSecs = some delay ∧
      now + delay = bucketStart millisPerHour now + millisPerHour + 1000 * graceSecs.toNat ∧
      now < now + delay := by
  obtain ⟨htop, hpos⟩ := now_add_millisToNextHour now
  refine ⟨_, if_pos h, ?_, ?_⟩ <;> omega

/-- So many seconds past the top of an hour, the last complete hour is that hour's predecessor and
as many hours as there are in the seconds. -/
theorem previousStart_tick {hour : Int} (hdvd : millisPerHour ∣ hour) (secs : Nat) :
    previousStart .hour (hour + millisPerHour + 1000 * secs) =
      hour + (secs / 3600 : Nat) * millisPerHour := by
  have hstart : bucketStart millisPerHour (hour + millisPerHour + 1000 * secs) =
      hour + millisPerHour + (secs / 3600 : Nat) * millisPerHour := by
    have haligned : millisPerHour ∣ hour + millisPerHour + (secs / 3600 : Nat) * millisPerHour :=
      Int.dvd_add (Int.dvd_add hdvd (Int.dvd_refl _)) (Int.dvd_mul_left _ _)
    refine (bucketStart_eq_iff (by decide) haligned _).mpr ?_
    simp only [millisPerHour, millisPerMinute]
    omega
  rw [previousStart, Span.millis, hstart]
  omega

namespace WorkerConfig

/-! ### Hours past -/

/-- The whole hours in a grace and so many intervals, which are given in seconds. -/
def hoursPast (grace interval k : Nat) : Nat := (grace + k * interval) / 3600

theorem exists_hoursPast_eq {grace interval : Nat} (hg : grace < 3600) (hpos : 1 ≤ interval)
    (hi : interval ≤ 3600) (n : Nat) : ∃ k, hoursPast grace interval k = n := by
  have hreach : ∃ k, n ≤ hoursPast grace interval k := by
    refine ⟨3600 * n, (Nat.le_div_iff_mul_le (by decide)).mpr ?_⟩
    have : 3600 * n * 1 ≤ 3600 * n * interval := Nat.mul_le_mul_left _ hpos
    omega
  -- at the first tick that is far enough, the one before it was not
  obtain ⟨k, hk, hmin⟩ : ∃ k, n ≤ hoursPast grace interval k ∧
      ∀ j < k, ¬n ≤ hoursPast grace interval j :=
    ⟨Nat.find hreach, Nat.find_spec hreach, fun j hj => Nat.find_min hreach hj⟩
  refine ⟨k, Nat.le_antisymm ?_ hk⟩
  cases k with
  | zero =>
    rw [hoursPast]
    omega
  | succ j =>
    have hbefore := hmin j (Nat.lt_succ_self j)
    rw [hoursPast] at hbefore ⊢
    rw [Nat.succ_mul]
    omega

theorem hoursPast_strictMono (grace : Nat) {interval : Nat} (hi : 3600 < interval) :
    StrictMono (hoursPast grace interval) := by
  refine strictMono_nat_of_lt_succ fun k => ?_
  rw [hoursPast, hoursPast, Nat.succ_mul]
  omega

/-- **The ticks leave no hour out exactly if grace and interval are short.** -/
theorem surjective_hoursPast_iff {grace interval : Nat} (hpos : 1 ≤ interval) :
    (∀ n, ∃ k, hoursPast grace interval k = n) ↔ grace < 3600 ∧ interval ≤ 3600 := by
  constructor
  · intro hs
    constructor
    · obtain ⟨k, hk⟩ := hs 0
      have hlt : grace + k * interval < 3600 := by
        rw [hoursPast] at hk
        omega
      omega
    · by_contra hi
      have hmono := hoursPast_strictMono grace (Nat.lt_of_not_le hi)
      -- numbers that go up with each tick and leave none out count the ticks
      have hrange : Set.range (hoursPast grace interval) = Set.range id := by
        rw [Set.range_id]
        exact Set.range_eq_univ.mpr hs
      have hself : hoursPast grace interval 3600 = 3600 :=
        congrFun ((hmono.range_inj strictMono_id).mp hrange) 3600
      rw [hoursPast, Nat.add_mul_div_left _ _ (by decide)] at hself
      omega
  · rintro ⟨hg, hi⟩
    exact exists_hoursPast_eq hg hpos hi

/-- How many hours past the one that the start rolls up the others are. -/
def hoursOn (grace interval : Nat) : Nat → Nat
  | 0 => 0
  | k + 1 => hoursPast grace interval k + 1

theorem surjective_hoursOn_iff {grace interval : Nat} (hpos : 1 ≤ interval) :
    (∀ n, ∃ i, hoursOn grace interval i = n) ↔ grace < 3600 ∧ interval ≤ 3600 := by
  rw [← surjective_hoursPast_iff hpos]
  constructor
  · intro hs n
    obtain ⟨i, hi⟩ := hs (n + 1)
    cases i with
    | zero => cases hi
    | succ k => exact ⟨k, Nat.succ.inj hi⟩
  · intro hs n
    cases n with
    | zero => exact ⟨0, rfl⟩
    | succ n =>
      obtain ⟨k, hk⟩ := hs n
      exact ⟨k + 1, congrArg Nat.succ hk⟩

theorem hoursOn_hourly {grace : Nat} (hg : grace < 3600) (i : Nat) : hoursOn grace 3600 i = i := by
  cases i with
  | zero => rfl
  | succ k =>
    rw [hoursOn, hoursPast]
    omega

/-! ### Hours that are rolled up -/

/-- The hours that a worker started at `now` rolls up, one after the other: first the last one that
ended before the start, then the last one before each tick. -/
def rolledUpHour? (c : WorkerConfig) (now : Int) : Nat → Option Int
  | 0 => some (previousStart .hour now)
  | tick + 1 => (c.rollupTick? now tick).map (previousStart .hour)

theorem exists_hours_iff {first : Int} (hdvd : millisPerHour ∣ first) (hour : Int) :
    millisPerHour ∣ hour ∧ first ≤ hour ↔ ∃ n : Nat, hour = first + n * millisPerHour := by
  constructor
  · rintro ⟨hhour, hle⟩
    obtain ⟨k, hk⟩ := Int.dvd_sub hhour hdvd
    refine ⟨k.toNat, ?_⟩
    simp only [millisPerHour, millisPerMinute] at hk ⊢
    omega
  · rintro ⟨n, rfl⟩
    refine ⟨Int.dvd_add hdvd (Int.dvd_mul_left _ _), ?_⟩
    simp only [millisPerHour, millisPerMinute]
    omega

theorem dvd_previousStart_hour (now : Int) : millisPerHour ∣ previousStart .hour now :=
  Int.dvd_sub (dvd_bucketStart _ _) (Int.dvd_refl _)

theorem hours_inj {first : Int} {m n : Nat} :
    first + m * millisPerHour = first + n * millisPerHour ↔ m = n := by
  simp only [millisPerHour, millisPerMinute]
  omega

section Worker

variable {c : WorkerConfig} {now : Int}
  (hgrace : millisToNextHour now / 1000 + c.flushGraceSecs.toNat < Word.size64)
  (hinterval : 1 ≤ c.rollupIntervalSecs.toNat)
include hgrace hinterval

theorem rollupTick?_eq (k : Nat) : c.rollupTick? now k =
    some (bucketStart millisPerHour now + millisPerHour +
      1000 * (c.flushGraceSecs.toNat + k * c.rollupIntervalSecs.toNat : Nat)) := by
  obtain ⟨delay, hdelay, hnow, -⟩ := now_add_firstRollupDelay? hgrace
  have hperiod : c.rollupPeriodSecs = c.rollupIntervalSecs.toNat := Nat.max_eq_left hinterval
  rw [rollupTick?, hdelay]
  show some (now + delay + k * (c.rollupPeriodSecs * 1000)) = _
  rw [hperiod, hnow]
  push_cast
  exact congrArg some (by ring)

/-- The hours that are rolled up, as hours past the first of them. -/
theorem rolledUpHour?_eq (i : Nat) : c.rolledUpHour? now i =
    some (previousStart .hour now +
      (hoursOn c.flushGraceSecs.toNat c.rollupIntervalSecs.toNat i : Nat) * millisPerHour) := by
  cases i with
  | zero => exact congrArg some (by rw [hoursOn]; omega)
  | succ k =>
    have hfirst : previousStart .hour now = bucketStart millisPerHour now - millisPerHour := rfl
    rw [rolledUpHour?, rollupTick?_eq hgrace hinterval, Option.map_some,
      previousStart_tick (dvd_bucketStart _ _), hoursOn, hoursPast, hfirst]
    push_cast
    exact congrArg some (by ring)

theorem rolledUpHour?_surjective_iff :
    (∀ hour, millisPerHour ∣ hour → previousStart .hour now ≤ hour →
      ∃ i, c.rolledUpHour? now i = some hour) ↔
    c.flushGraceSecs.toNat < 3600 ∧ c.rollupIntervalSecs.toNat ≤ 3600 := by
  have heq := rolledUpHour?_eq hgrace hinterval
  have hhours := exists_hours_iff (dvd_previousStart_hour now)
  rw [← surjective_hoursOn_iff hinterval]
  constructor
  · intro hall n
    obtain ⟨hdvd, hle⟩ := (hhours _).mpr ⟨n, rfl⟩
    obtain ⟨i, hi⟩ := hall _ hdvd hle
    rw [heq] at hi
    exact ⟨i, hours_inj.mp (Option.some.inj hi)⟩
  · intro hs hour hdvd hle
    obtain ⟨n, rfl⟩ := (hhours hour).mp ⟨hdvd, hle⟩
    obtain ⟨i, rfl⟩ := hs n
    exact ⟨i, heq i⟩

theorem rolledUpHour?_inj (hg : c.flushGraceSecs.toNat < 3600)
    (hi : c.rollupIntervalSecs.toNat = 3600) {i j : Nat}
    (h : c.rolledUpHour? now i = c.rolledUpHour? now j) : i = j := by
  rw [rolledUpHour?_eq hgrace hinterval, rolledUpHour?_eq hgrace hinterval, hi, hoursOn_hourly hg,
    hoursOn_hourly hg] at h
  exact hours_inj.mp (Option.some.inj h)

end Worker

/-- **Which hours a worker rolls up.** With a grace whose sum with the wait fits in a word and an
interval of a second or more, the first tick of a worker is the grace past the top of the next hour
and after the start, and the others are intervals apart. A tick is for the hour of the start and as
many more as there are whole hours in the grace and the intervals so far, which has ended; the
start is for the hour before. So no hour from that one on is left out exactly if the grace is
shorter than an hour and the interval no longer than one, and with an interval of an hour each is
rolled up once. -/
theorem rollup_coverage {α : Type} [Gauge α] (c : WorkerConfig) (now : Int)
    (hgrace : millisToNextHour now / 1000 + c.flushGraceSecs.toNat < Word.size64)
    (hinterval : 1 ≤ c.rollupIntervalSecs.toNat) :
    let hour := bucketStart millisPerHour now
    let grace := c.flushGraceSecs.toNat
    let interval := c.rollupIntervalSecs.toNat
    (∃ delay, firstRollupDelay? now c.flushGraceSecs = some delay ∧
      now + delay = hour + millisPerHour + 1000 * grace ∧ now < now + delay ∧
      ∀ k : Nat, ∃ tick target, c.rollupTick? now k = some tick ∧
        tick = now + delay + 1000 * (k * interval) ∧
        target = hour + ((grace + k * interval) / 3600 : Nat) * millisPerHour ∧
        target + millisPerHour ≤ tick ∧
        c.rolledUpHour? now (k + 1) = some target ∧
        ∀ s : Store α, s.step (.rollupPreviousHour tick) = s.step (.rollupHour target)) ∧
    (c.rolledUpHour? now 0 = some (hour - millisPerHour) ∧
      ∀ s : Store α,
        s.step (.rollupPreviousHour now) = s.step (.rollupHour (hour - millisPerHour))) ∧
    ((∀ h, millisPerHour ∣ h → hour - millisPerHour ≤ h → ∃ i, c.rolledUpHour? now i = some h) ↔
      grace < 3600 ∧ interval ≤ 3600) ∧
    (grace < 3600 → interval = 3600 → ∀ h, millisPerHour ∣ h → hour - millisPerHour ≤ h →
      ∃! i, c.rolledUpHour? now i = some h) := by
  intro hour grace interval
  obtain ⟨delay, hdelay, hnow, hlt⟩ := now_add_firstRollupDelay? hgrace
  have hcovers := rolledUpHour?_surjective_iff hgrace hinterval
  refine ⟨⟨delay, hdelay, hnow, hlt, fun k => ?_⟩, ⟨rfl, fun s => s.step_rollupPreviousHour now⟩,
    hcovers, fun hg hi h hdvd hle => ?_⟩
  · have htarget := previousStart_tick (dvd_bucketStart millisPerHour now) (grace + k * interval)
    refine ⟨_, _, rollupTick?_eq hgrace hinterval k, ?_, rfl, ?_, ?_, fun s => ?_⟩
    · rw [hnow]
      push_cast
      ring
    · show hour + _ + millisPerHour ≤ hour + millisPerHour + 1000 * (grace + k * interval : Nat)
      simp only [millisPerHour, millisPerMinute]
      omega
    · rw [rolledUpHour?, rollupTick?_eq hgrace hinterval, Option.map_some, htarget]
    · rw [s.step_rollupPreviousHour, htarget]
  · obtain ⟨i, hi'⟩ := hcovers.mpr ⟨hg, Nat.le_of_eq hi⟩ h hdvd hle
    exact ⟨i, hi', fun j hj => rolledUpHour?_inj hgrace hinterval hg hi (hj.trans hi'.symm)⟩

/-- A worker that waits for five seconds past the hour, with so many seconds between its ticks. -/
def patient (rollupIntervalSecs : UInt64) : WorkerConfig where
  rollupIntervalSecs
  flushGraceSecs := 5
  cleanupIntervalSecs := 86400
  cleanupSchedule := none
  vacuumAfterCleanup := false
  retention := ⟨30, 90, 365⟩

/-- A start on the hour, an hour before the epoch: the first tick is a full hour and five seconds
away. With a second more than an hour between the ticks, an hour is left out some day. -/
theorem rollup_coverage_onTheHour :
    (millisToNextHour (-3600000) / 1000 + (patient 3600).flushGraceSecs.toNat < Word.size64 ∧
      1 ≤ (patient 3600).rollupIntervalSecs.toNat) ∧
    firstRollupDelay? (-3600000) 5 = some 3605000 ∧
    (patient 3600).rolledUpHour? (-3600000) 0 = some (-7200000) ∧
    (patient 3600).rolledUpHour? (-3600000) 2 = some 0 ∧
    (∃! i, (patient 3600).rolledUpHour? (-3600000) i = some 86400000) ∧
    ∃ h, millisPerHour ∣ h ∧ ∀ i, (patient 3601).rolledUpHour? (-3600000) i ≠ some h := by
  have hfits : millisToNextHour (-3600000) / 1000 + 5 < Word.size64 := by decide
  obtain ⟨-, ⟨hstart, -⟩, -, honce⟩ :=
    rollup_coverage (α := Float) (patient 3600) (-3600000) hfits (by decide)
  obtain ⟨-, -, hcovers, -⟩ :=
    rollup_coverage (α := Float) (patient 3601) (-3600000) hfits (by decide)
  refine ⟨⟨hfits, by decide⟩, by decide, hstart, by decide,
    honce (by decide) (by decide) 86400000 (by decide) (by decide), ?_⟩
  have hlong : ¬(patient 3601).rollupIntervalSecs.toNat ≤ 3600 := by decide
  have hmissed := mt hcovers.mp fun hshort => hlong hshort.2
  simp only [not_forall, not_exists, exists_prop] at hmissed
  obtain ⟨h, hdvd, -, hnever⟩ := hmissed
  exact ⟨h, hdvd, hnever⟩

end WorkerConfig
end FleetTelemetry

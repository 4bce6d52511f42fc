/-
# A day from its hours

A summary tells of the rows behind it how many they are, the greatest readings
and the totals, held at the greatest counter (`Summary.Tells`). That of an hour
tells of the rows of the hour (`Summary.tells_of_ofHour?`), and that of a day of
the rows behind its hours, one after the other (`Summary.tells_of_ofDay?`): no
row is lost or counted twice on the way. With exact arithmetic the averages of
both are those of the rows (`Summary.isMean_of_ofDay?`).

Key definitions: `Summary.Tells`, `Summary.IsMean`.
Key theorems: `Summary.tells_of_ofHour?`, `Summary.tells_of_ofDay?`,
`Summary.isMean_of_ofHour?`, `Summary.isMean_of_ofDay?`.
-/
import FleetTelemetry.Proofs.Peak
import FleetTelemetry.Proofs.SummaryTable

namespace FleetTelemetry

open Gauge

/-! ### Rows that are read back as they are -/

namespace Record

variable {α : Type} [Gauge α] {r r' : Record α}

theorem stored?_of_stored? [LE α] [Ordered α] (h : r.stored? = some r') : r'.stored? = some r' := by
  obtain ⟨h₁, h₂, h₃, h₄, -⟩ := stored?_eq_some h
  have hs₁ : stored r'.cpuPercent = _ := Ordered.isStored_of_stored h₁
  have hs₂ : stored r'.memPercent = _ := Ordered.isStored_of_stored h₂
  have hs₃ : stored r'.gpuPercent = _ := Ordered.isStored_of_stored h₃
  have hs₄ : stored r'.loadAvg1 = _ := Ordered.isStored_of_stored h₄
  unfold stored?
  rw [hs₁, hs₂, hs₃, hs₄]
  rfl

end Record

namespace Summary

variable {α : Type} {span : Span}

/-! ### Counts, totals and maxima -/

/-- What a summary tells of the rows behind it, its averages apart. -/
structure Tells [LE α] (sm : Summary α span) (rows : List (Record α)) : Prop where
  dataPoints : sm.dataPoints = rows.length
  cpuMax : IsPeak sm.cpuMax (rows.map Record.cpuPercent)
  memMax : IsPeak sm.memMax (rows.map Record.memPercent)
  netRxTotal : sm.netRxTotal.toNat =
    min (Word.exactSum (rows.map Record.netRxBps)) (Word.size64 - 1)
  netTxTotal : sm.netTxTotal.toNat =
    min (Word.exactSum (rows.map Record.netTxBps)) (Word.size64 - 1)

/-- The rows behind some hours, one after the other. -/
def rowsBehind (rowsOf : Int → List (Record α)) (hours : List (Summary α .hour)) :
    List (Record α) :=
  hours.flatMap fun h => rowsOf h.start

theorem totalPoints_eq {rowsOf : Int → List (Record α)} : ∀ {hours : List (Summary α .hour)},
    (∀ h ∈ hours, h.dataPoints = (rowsOf h.start).length) →
    totalPoints hours = (rowsBehind rowsOf hours).length
  | [], _ => rfl
  | h :: hours, hall => by
    have hh := hall h List.mem_cons_self
    have ih := totalPoints_eq fun h' hh' => hall h' (List.mem_cons_of_mem h hh')
    rw [rowsBehind] at ih
    rw [totalPoints, rowsBehind, List.flatMap_cons, List.length_append, ih, hh]
    omega

variable [Gauge α]

theorem dataPoints_of_ofHour? {agentId : String} {start : Int} {rows : List (Record α)}
    {sm sm' : Summary α .hour} (h : ofHour? agentId start rows = some sm)
    (hs : sm.stored? = some sm') : sm'.dataPoints = rows.length := by
  obtain ⟨-, -, -, -, hsm⟩ := stored?_eq_some hs
  rw [hsm]
  exact (ofHour?_eq_some h).2.1

theorem isStored_readings {rows : List (Record α)} (hrows : ∀ r ∈ rows, r.stored? = some r) :
    (∀ x ∈ rows.map Record.cpuPercent, IsStored x) ∧
      ∀ x ∈ rows.map Record.memPercent, IsStored x := by
  constructor
  · intro x hx
    obtain ⟨r, hr, rfl⟩ := List.mem_map.mp hx
    exact (Record.stored?_eq_some (hrows r hr)).1
  · intro x hx
    obtain ⟨r, hr, rfl⟩ := List.mem_map.mp hx
    exact (Record.stored?_eq_some (hrows r hr)).2.1

variable [LE α]

theorem isPeak_stored {x y : α} {xs : List α} (hx : IsPeak x xs) (hxs : ∀ z ∈ xs, IsStored z)
    (h : stored x = some y) : IsPeak y xs := by
  have hst : stored x = some x := hxs x hx.1
  rw [hst] at h
  exact Option.some.inj h ▸ hx

variable [Ordered α]

/-- **The summary of an hour tells of its rows.** -/
theorem tells_of_ofHour? {agentId : String} {start : Int} {rows : List (Record α)}
    {sm sm' : Summary α .hour} (hrows : ∀ r ∈ rows, r.stored? = some r)
    (h : ofHour? agentId start rows = some sm) (hs : sm.stored? = some sm') : sm'.Tells rows := by
  have h' := h
  unfold ofHour? at h'
  split at h'
  · cases h'
  · next hne =>
    rw [List.isEmpty_iff] at hne
    obtain rfl := Option.some.inj h'
    obtain ⟨-, hcpu, -, hmem, hsm⟩ := stored?_eq_some hs
    obtain ⟨hst₁, hst₂⟩ := isStored_readings hrows
    have hpeak₁ := isPeak_peak (by rwa [ne_eq, List.map_eq_nil_iff]) hst₁
    have hpeak₂ := isPeak_peak (by rwa [ne_eq, List.map_eq_nil_iff]) hst₂
    refine ⟨dataPoints_of_ofHour? h hs, isPeak_stored hpeak₁ hst₁ hcpu,
      isPeak_stored hpeak₂ hst₂ hmem, ?_, ?_⟩
    · rw [hsm]
      exact Word.toNat_saturatingSum _
    · rw [hsm]
      exact Word.toNat_saturatingSum _

/-- The greatest of the greatest readings of some hours is that of all rows behind them. -/
theorem isPeak_hours {rowsOf : Int → List (Record α)} {peakOf : Summary α .hour → α}
    {reading : Record α → α} {hours : List (Summary α .hour)} (hne : hours ≠ [])
    (hst : ∀ h ∈ hours, ∀ x ∈ (rowsOf h.start).map reading, IsStored x)
    (hpeak : ∀ h ∈ hours, IsPeak (peakOf h) ((rowsOf h.start).map reading)) {y : α}
    (hy : stored (peak (hours.map peakOf)) = some y) :
    IsPeak y ((rowsBehind rowsOf hours).map reading) := by
  have hmax : ∀ x ∈ hours.map peakOf, IsStored x := by
    intro x hx
    obtain ⟨h, hh, rfl⟩ := List.mem_map.mp hx
    exact hst h hh _ (hpeak h hh).1
  have hy := isPeak_stored (isPeak_peak (by rwa [ne_eq, List.map_eq_nil_iff]) hmax) hmax hy
  rw [rowsBehind, List.map_flatMap]
  exact isPeak_flatMap hst hpeak hy

omit [LE α] [Ordered α] in
theorem exists_ofDay? {rowsOf : Int → List (Record α)} {hours : List (Summary α .hour)}
    (hpoints : ∀ h ∈ hours, h.dataPoints = (rowsOf h.start).length)
    (hne : rowsBehind rowsOf hours ≠ []) (agentId : String) (start : Int) :
    ∃ sm, ofDay? agentId start hours = some sm := by
  rw [← Option.isSome_iff_exists, ofDay?_isSome_iff, totalPoints_eq hpoints, Int.natCast_pos]
  exact List.length_pos_of_ne_nil hne

/-- **The summary of a day tells of the rows behind its hours.** -/
theorem tells_of_ofDay? {rowsOf : Int → List (Record α)} {agentId : String} {start : Int}
    {hours : List (Summary α .hour)} {sm sm' : Summary α .day}
    (hrows : ∀ h ∈ hours, ∀ r ∈ rowsOf h.start, r.stored? = some r)
    (htells : ∀ h ∈ hours, h.Tells (rowsOf h.start))
    (h : ofDay? agentId start hours = some sm) (hs : sm.stored? = some sm') :
    sm'.Tells (rowsBehind rowsOf hours) := by
  unfold ofDay? at h
  dsimp only at h
  split at h
  · cases h
  · next hne =>
    rw [Bool.or_eq_true, not_or, List.isEmpty_iff] at hne
    obtain rfl := Option.some.inj h
    obtain ⟨-, hcpu, -, hmem, hsm⟩ := stored?_eq_some hs
    have hst₁ := fun h hh => (isStored_readings (hrows h hh)).1
    have hst₂ := fun h hh => (isStored_readings (hrows h hh)).2
    refine ⟨?_, isPeak_hours hne.1 hst₁ (fun h hh => (htells h hh).cpuMax) hcpu,
      isPeak_hours hne.1 hst₂ (fun h hh => (htells h hh).memMax) hmem, ?_, ?_⟩
    · rw [hsm]
      exact totalPoints_eq fun h hh => (htells h hh).dataPoints
    · rw [hsm]
      calc (Word.saturatingSum (hours.map Summary.netRxTotal)).toNat
          = min (Word.exactSum (hours.map Summary.netRxTotal)) (Word.size64 - 1) :=
            Word.toNat_saturatingSum _
        _ = min (Word.exactSum (hours.flatMap fun h => (rowsOf h.start).map Record.netRxBps))
              (Word.size64 - 1) := Word.min_exactSum_flatMap fun h hh => (htells h hh).netRxTotal
        _ = _ := by rw [rowsBehind, List.map_flatMap]
    · rw [hsm]
      calc (Word.saturatingSum (hours.map Summary.netTxTotal)).toNat
          = min (Word.exactSum (hours.map Summary.netTxTotal)) (Word.size64 - 1) :=
            Word.toNat_saturatingSum _
        _ = min (Word.exactSum (hours.flatMap fun h => (rowsOf h.start).map Record.netTxBps))
              (Word.size64 - 1) := Word.min_exactSum_flatMap fun h hh => (htells h hh).netTxTotal
        _ = _ := by rw [rowsBehind, List.map_flatMap]

/-! ### Means -/

/-- The averages of a summary are the plain means of the rows behind it. -/
structure IsMean (sm : Summary ℚ span) (rows : List (Record ℚ)) : Prop where
  cpuAvg : sm.cpuAvg = (rows.map Record.cpuPercent).sum / rows.length
  memAvg : sm.memAvg = (rows.map Record.memPercent).sum / rows.length

theorem mean_rat (xs : List ℚ) : mean xs = xs.sum / xs.length := by
  show sum xs / ofInt (xs.length : Int) = _
  rw [sum_rat, ofInt_rat]

theorem isMean_of_ofHour? {agentId : String} {start : Int} {rows : List (Record ℚ)}
    {sm sm' : Summary ℚ .hour} (h : ofHour? agentId start rows = some sm)
    (hs : sm.stored? = some sm') : sm'.IsMean rows := by
  unfold ofHour? at h
  split at h
  · cases h
  · obtain rfl := Option.some.inj h
    obtain ⟨hcpu, -, hmem, -⟩ := stored?_eq_some hs
    refine ⟨?_, ?_⟩
    · calc sm'.cpuAvg = mean (rows.map Record.cpuPercent) := (Option.some.inj hcpu).symm
        _ = (rows.map Record.cpuPercent).sum / rows.length := by rw [mean_rat, List.length_map]
    · calc sm'.memAvg = mean (rows.map Record.memPercent) := (Option.some.inj hmem).symm
        _ = (rows.map Record.memPercent).sum / rows.length := by rw [mean_rat, List.length_map]

/-- The mean of some hours, weighted by their rows, is that of all rows behind them. -/
theorem weightedMean_eq {rowsOf : Int → List (Record ℚ)} {meanOf : Summary ℚ .hour → ℚ}
    {reading : Record ℚ → ℚ} {hours : List (Summary ℚ .hour)}
    (htells : ∀ h ∈ hours, h.Tells (rowsOf h.start))
    (hmean : ∀ h ∈ hours,
      meanOf h = ((rowsOf h.start).map reading).sum / (rowsOf h.start).length) :
    weightedMean (totalPoints hours) (hours.map fun h => (meanOf h, h.dataPoints)) =
      ((rowsBehind rowsOf hours).map reading).sum / (rowsBehind rowsOf hours).length := by
  -- a mean times the number of its rows is their sum
  have hparts : ∀ h ∈ hours, Gauge.mul (meanOf h) (Gauge.ofInt h.dataPoints) =
      ((rowsOf h.start).map reading).sum := by
    intro h hh
    have hpos := List.length_pos_of_mem (htells h hh).cpuMax.1
    rw [List.length_map] at hpos
    rw [(htells h hh).dataPoints, ofInt_rat, hmean h hh]
    exact div_mul_cancel₀ _ (Nat.cast_ne_zero.mpr (Nat.ne_of_gt hpos))
  have hsum : ((hours.map fun h => (meanOf h, h.dataPoints)).map fun x =>
      Gauge.mul x.1 (Gauge.ofInt x.2)).sum = ((rowsBehind rowsOf hours).map reading).sum := by
    rw [List.map_map, rowsBehind, List.map_flatMap, List.flatMap, List.sum_flatten, List.map_map]
    exact congrArg List.sum (List.map_congr_left hparts)
  show sum (_ : List ℚ) / (ofInt (totalPoints hours) : ℚ) = _
  rw [sum_rat, hsum, totalPoints_eq fun h hh => (htells h hh).dataPoints, ofInt_rat]

/-- With exact arithmetic the averages of a day are those of the rows behind its hours. -/
theorem isMean_of_ofDay? {rowsOf : Int → List (Record ℚ)} {agentId : String} {start : Int}
    {hours : List (Summary ℚ .hour)} {sm sm' : Summary ℚ .day}
    (htells : ∀ h ∈ hours, h.Tells (rowsOf h.start))
    (hmean : ∀ h ∈ hours, h.IsMean (rowsOf h.start))
    (h : ofDay? agentId start hours = some sm) (hs : sm.stored? = some sm') :
    sm'.IsMean (rowsBehind rowsOf hours) := by
  unfold ofDay? at h
  dsimp only at h
  split at h
  · cases h
  · obtain rfl := Option.some.inj h
    obtain ⟨hcpu, -, hmem, -⟩ := stored?_eq_some hs
    exact ⟨(Option.some.inj hcpu).symm.trans
        (weightedMean_eq htells fun h hh => (hmean h hh).cpuAvg),
      (Option.some.inj hmem).symm.trans
        (weightedMean_eq htells fun h hh => (hmean h hh).memAvg)⟩

end Summary
end FleetTelemetry

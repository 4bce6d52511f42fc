/-
# From raw rows to the day

Rows are saved, every hour of a day is rolled up, in any order, and then the day
is. The hours of the day cut its rows into parts that are put together again in
their order (`Record.inSpan_day`), and the rollup of the day reads a summary of
each part that has rows (`Summary.select_hours`). So the summary of the day is
that of its raw rows (`Store.daily_of_raw`).

Key definitions: `Operation.isSave`, `Store.DayRun`.
Key theorems: `Record.inSpan_day`, `Summary.select_hours`,
`Store.Holds.run_rollupHours`, `Store.daily_of_raw`.
-/
import FleetTelemetry.Proofs.DayFromHours
import FleetTelemetry.Proofs.Rollup

namespace FleetTelemetry

/-! ### The hours of a day -/

/-- The start of one of the hours of a day. -/
def hourOfDay (day : Int) (i : Nat) : Int := day + i * millisPerHour

theorem hourOfDay_lt (day : Int) {i j : Nat} (h : i < j) :
    hourOfDay day i + millisPerHour ≤ hourOfDay day j := by
  unfold hourOfDay millisPerHour millisPerMinute
  omega

theorem hourOfDay_bounds (day : Int) {i : Nat} (h : i < 24) :
    day ≤ hourOfDay day i ∧ hourOfDay day i + millisPerHour ≤ day + millisPerDay := by
  unfold hourOfDay millisPerDay millisPerHour millisPerMinute
  omega

theorem exists_hourOfDay {day t : Int} (h₁ : day ≤ t) (h₂ : t < day + millisPerDay) :
    ∃ i ∈ List.range 24, hourOfDay day i ≤ t ∧ t < hourOfDay day i + millisPerHour := by
  refine ⟨((t - day) / millisPerHour).toNat, List.mem_range.mpr ?_, ?_⟩
  · unfold millisPerDay millisPerHour millisPerMinute at *
    omega
  · unfold hourOfDay
    unfold millisPerDay millisPerHour millisPerMinute at *
    omega

theorem Record.inSpan_day {α : Type} (agentId : String) (day : Int) (rows : List (Record α)) :
    Record.inSpan agentId day (day + millisPerDay) rows =
      (List.range 24).flatMap fun i =>
        Record.inSpan agentId (hourOfDay day i) (hourOfDay day i + millisPerHour) rows := by
  set wanted : Record α → Bool := fun r => r.agentId == agentId &&
    (decide (day ≤ r.timestamp) && decide (r.timestamp < day + millisPerDay)) with hwanted
  set inHour : Nat → Record α → Bool := fun i r =>
    decide (hourOfDay day i ≤ r.timestamp) && decide (r.timestamp < hourOfDay day i + millisPerHour)
    with hinHour
  have hpair : (List.range 24).Pairwise fun i j => ∀ a b : Record α,
      inHour i a = true → inHour j b = true → a.timestamp < b.timestamp := by
    refine List.pairwise_lt_range.imp fun hij a b ha hb => ?_
    simp only [hinHour, Bool.and_eq_true, decide_eq_true_eq] at ha hb
    have := hourOfDay_lt day hij
    omega
  have hall : ∀ r ∈ rows.filter wanted, ∃ i ∈ List.range 24, inHour i r = true := by
    intro r hr
    have hw := (List.mem_filter.mp hr).2
    simp only [hwanted, Bool.and_eq_true, decide_eq_true_eq] at hw
    obtain ⟨i, hi, h₁, h₂⟩ := exists_hourOfDay hw.2.1 hw.2.2
    refine ⟨i, hi, ?_⟩
    simp only [hinHour, Bool.and_eq_true, decide_eq_true_eq]
    exact ⟨h₁, h₂⟩
  have hparts : ∀ i ∈ List.range 24,
      Record.inSpan agentId (hourOfDay day i) (hourOfDay day i + millisPerHour) rows =
        StableOrder.sort Record.timestamp ((rows.filter wanted).filter (inHour i)) := by
    intro i hi
    rw [Record.inSpan, Record.inOrder, List.filter_filter]
    refine congrArg _ (List.filter_congr fun r _ => ?_)
    have hb := hourOfDay_bounds day (List.mem_range.mp hi)
    rw [Bool.eq_iff_iff]
    simp only [hwanted, hinHour, Bool.and_eq_true, decide_eq_true_eq]
    constructor
    · rintro ⟨ha, h₁, h₂⟩
      exact ⟨⟨h₁, h₂⟩, ha, by omega, by omega⟩
    · rintro ⟨⟨h₁, h₂⟩, ha, -⟩
      exact ⟨ha, h₁, h₂⟩
  rw [List.flatMap_congr hparts, StableOrder.flatMap_sort_of_forall hpair hall]
  rfl

namespace Summary

variable {α : Type}

theorem select_hours {hourly : List (Summary α .hour)} {day : Int} (hday : millisPerHour ∣ day)
    (agentId : String) (hal : ∀ h ∈ hourly, h.agentId = agentId → millisPerHour ∣ h.start) :
    select agentId day (day + Span.day.millis - 1) hourly =
      (List.range 24).flatMap fun i => under agentId (hourOfDay day i) hourly := by
  set wanted := hourly.filter fun h =>
    h.agentId == agentId && within day (day + Span.day.millis - 1) h.start with hwanted
  set atHour : Nat → Summary α .hour → Bool := fun i h => h.start == hourOfDay day i with hatHour
  have hpair : (List.range 24).Pairwise fun i j => ∀ a b : Summary α .hour,
      atHour i a = true → atHour j b = true → a.start < b.start := by
    refine List.pairwise_lt_range.imp fun hij a b ha hb => ?_
    rw [beq_iff_eq.mp ha, beq_iff_eq.mp hb]
    have := hourOfDay_lt day hij
    unfold millisPerHour millisPerMinute at this
    omega
  have hall : ∀ h ∈ wanted, ∃ i ∈ List.range 24, atHour i h = true := by
    intro h hh
    obtain ⟨hh, hw⟩ := List.mem_filter.mp hh
    simp only [within, Bool.and_eq_true, beq_iff_eq, decide_eq_true_eq] at hw
    have hd := hal h hh hw.1
    obtain ⟨i, hi, h₁, h₂⟩ := exists_hourOfDay hw.2.1 (Int.lt_of_le_sub_one hw.2.2)
    refine ⟨i, hi, beq_iff_eq.mpr ?_⟩
    -- both are on the hour
    unfold hourOfDay at *
    unfold millisPerHour millisPerMinute at *
    omega
  have hparts : ∀ i ∈ List.range 24, under agentId (hourOfDay day i) hourly =
      StableOrder.sort Summary.start (wanted.filter (atHour i)) := by
    intro i hi
    have hb := hourOfDay_bounds day (List.mem_range.mp hi)
    have hlast : hourOfDay day i ≤ day + millisPerDay - 1 := by
      unfold millisPerDay millisPerHour millisPerMinute at *
      omega
    have hone : under agentId (hourOfDay day i) hourly = wanted.filter (atHour i) := by
      rw [under, hwanted, List.filter_filter]
      refine List.filter_congr fun h _ => ?_
      rw [Bool.eq_iff_iff]
      simp only [hatHour, within, Bool.and_eq_true, beq_iff_eq, decide_eq_true_eq]
      constructor
      · rintro ⟨ha, hs⟩
        rw [hs]
        exact ⟨rfl, ha, hb.1, hlast⟩
      · rintro ⟨hs, ha, -⟩
        exact ⟨ha, hs⟩
    rw [hone, StableOrder.sort_eq_self]
    refine List.pairwise_of_forall_mem_list fun a ha b hb => ?_
    rw [beq_iff_eq.mp (List.mem_filter.mp ha).2, beq_iff_eq.mp (List.mem_filter.mp hb).2]
  rw [List.flatMap_congr hparts, StableOrder.flatMap_sort_of_forall hpair hall]
  rfl

end Summary

/-! ### The run -/

/-- Whether an operation saves rows. -/
def Operation.isSave {α : Type} : Operation α → Bool
  | .save _ | .saveAll _ => true
  | _ => false

namespace Store

open Summary

variable {α : Type} [Gauge α]

theorem run_saves_summaries : ∀ (saves : List (Operation α)) (s : Store α),
    (∀ op ∈ saves, op.isSave = true) → (s.run saves).summaries = s.summaries
  | [], _, _ => rfl
  | op :: saves, s, h => by
    have ih := run_saves_summaries saves (s.step op) fun op' hop' =>
      h op' (List.mem_cons_of_mem op hop')
    have hop := h op List.mem_cons_self
    rw [run_cons, ih]
    cases op with
    | save r => exact save_summaries s r
    | saveAll rs => exact saveAll_summaries rs s
    | _ => cases hop

theorem kept_saves (s : Store α) {saves : List (Operation α)}
    (h : ∀ op ∈ saves, op.isSave = true) : s.kept saves = s.acceptedIn saves := by
  have hk := kept_filter (fun _ => true) s saves fun op hop r _ => by
    have := h op hop
    cases op with
    | save | saveAll => rfl
    | _ => cases this
  rwa [List.filter_true, List.filter_true] at hk

/-- After the rollup of some hours each of them has the summaries of its rows, where they can be
stored. They all can be if no failure is reported. -/
theorem Holds.run_rollupHours {rows : List (Record α)} : ∀ (hours : List Int) {s : Store α},
    s.Holds rows → ∀ {tables : Summaries α}, s.summaries = some tables →
    ∃ hourly,
      s.run (hours.map .rollupHour) = { s with summaries := some { tables with hourly } } ∧
      (∀ a k, under a k hourly =
        if k ∈ hours then ((hourOf? rows k a).bind stored?).elim (under a k tables.hourly) ([·])
        else under a k tables.hourly) ∧
      (s.Faultless (hours.map .rollupHour) →
        ∀ k ∈ hours, ∀ a sm, hourOf? rows k a = some sm → sm.stored?.isSome = true)
  | [], s, _, tables, ht => by
    refine ⟨tables.hourly, ?_, fun a k => (if_neg List.not_mem_nil).symm, fun _ k hk => by cases hk⟩
    rw [← show s.summaries = some { tables with hourly := tables.hourly } from ht]
    rfl
  | start :: hours, s, h, tables, ht => by
    obtain ⟨report, hourly₁, hroll, hu₁, hok₁⟩ := h.rollupHour_spec ht start
    have hstep : s.step (.rollupHour start) =
        { s with summaries := some { tables with hourly := hourly₁ } } := by
      rw [step_rollupHour, hroll]
    obtain ⟨hourly₂, hrun, hu₂, hok₂⟩ := Holds.run_rollupHours hours
      (h.withSummaries (some { tables with hourly := hourly₁ })) rfl
    refine ⟨hourly₂, ?_, fun a k => ?_, fun hf k hk a sm hsm => ?_⟩
    · rw [List.map_cons, run_cons, hstep]
      exact hrun
    · rw [hu₂, hu₁]
      by_cases hk : k = start
      · subst hk
        cases (hourOf? rows k a).bind stored? <;> simp
      · simp [hk]
    · obtain ⟨hf₁, hf₂⟩ := hf
      rcases List.mem_cons.mp hk with rfl | hk
      · exact hok₁ (failures_of_rollupHour hroll hf₁) a sm hsm
      · rw [hstep] at hf₂
        exact hok₂ hf₂ k hk a sm hsm

/-! ### From the rows to the day -/

/-- A table has the summaries of the rows of some hours, where they can be stored, and no others. -/
structure HasHours (hourly : List (Summary α .hour)) (hours : List Int) (rows : List (Record α)) :
    Prop where
  under : ∀ a k, under a k hourly =
    if k ∈ hours then ((hourOf? rows k a).bind stored?).toList else []
  stored : ∀ k ∈ hours, ∀ a sm, hourOf? rows k a = some sm → sm.stored?.isSome = true

section HasHours

variable {hourly : List (Summary α .hour)} {hours : List Int} {rows : List (Record α)}
  (h : HasHours hourly hours rows)
include h

theorem HasHours.exists_ofHour? {t : Summary α .hour} (ht : t ∈ hourly) :
    t.start ∈ hours ∧ ∃ t₀, hourOf? rows t.start t.agentId = some t₀ ∧ t₀.stored? = some t := by
  have hmem : t ∈ Summary.under t.agentId t.start hourly := by
    refine List.mem_filter.mpr ⟨ht, ?_⟩
    rw [beq_self_eq_true, beq_self_eq_true, Bool.and_self]
  rw [h.under] at hmem
  split at hmem
  · next hk => exact ⟨hk, Option.bind_eq_some_iff.mp (Option.mem_toList.mp hmem)⟩
  · cases hmem

/-- The rows behind the summary of an hour are those of the hour, also if there is none. -/
theorem HasHours.rowsBehind_under {k : Int} (hk : k ∈ hours) (agentId : String) :
    rowsBehind (fun hour => Record.inSpan agentId hour (hour + millisPerHour) rows)
      (Summary.under agentId k hourly) = Record.inSpan agentId k (k + millisPerHour) rows := by
  rw [h.under, if_pos hk]
  cases hsm : hourOf? rows k agentId with
  | none => exact (ofHour?_eq_none_iff.mp hsm).symm
  | some sm =>
    obtain ⟨sm', hsm'⟩ := Option.isSome_iff_exists.mp (h.stored k hk agentId sm hsm)
    have hstart : sm'.start = k := (stored?_key hsm').2.trans (ofHour?_key hsm).2
    rw [Option.bind_some, hsm', Option.toList_some, rowsBehind, List.flatMap_cons,
      List.flatMap_nil, List.append_nil, hstart]

theorem HasHours.exists_ofHour?_of_select {agentId : String} {first last : Int}
    {t : Summary α .hour} (ht : t ∈ select agentId first last hourly) :
    ∃ t₀, ofHour? agentId t.start
        (Record.inSpan agentId t.start (t.start + millisPerHour) rows) = some t₀ ∧
      t₀.stored? = some t := by
  obtain ⟨ht, hw⟩ := List.mem_filter.mp (StableOrder.mem_sort.mp ht)
  rw [Bool.and_eq_true, beq_iff_eq] at hw
  have hex := (h.exists_ofHour? ht).2
  rwa [hw.1] at hex

theorem HasHours.rowsBehind_day {day : Int} (hday : millisPerDay ∣ day)
    (hhours : ∀ hour ∈ hours, millisPerHour ∣ hour)
    (hwhole : ∀ i < 24, hourOfDay day i ∈ hours) (agentId : String) :
    rowsBehind (fun hour => Record.inSpan agentId hour (hour + millisPerHour) rows)
      (select agentId day (day + Span.day.millis - 1) hourly) =
      Record.inSpan agentId day (day + millisPerDay) rows := by
  have hdiv : millisPerHour ∣ day := Int.dvd_trans ⟨24, by decide⟩ hday
  rw [select_hours hdiv agentId fun t ht _ => hhours _ (h.exists_ofHour? ht).1, rowsBehind,
    List.flatMap_assoc, Record.inSpan_day]
  exact List.flatMap_congr fun i hi => h.rowsBehind_under (hwhole i (List.mem_range.mp hi)) agentId

end HasHours

theorem Holds.hasHours {s : Store α} {rows : List (Record α)} (h : s.Holds rows)
    {tables : Summaries α} (ht : s.summaries = some tables) (hnone : tables.hourly = [])
    {hours : List Int} (hf : s.Faultless (hours.map .rollupHour)) :
    ∃ hourly, s.run (hours.map .rollupHour) =
      { s with summaries := some { tables with hourly } } ∧ HasHours hourly hours rows := by
  obtain ⟨hourly, hrun, hu, hok⟩ := h.run_rollupHours hours ht
  refine ⟨hourly, hrun, fun a k => ?_, hok hf⟩
  rw [hu, hnone]
  split
  · cases (hourOf? rows k a).bind stored? <;> rfl
  · rfl

/-- Some saves, then the rollups of some hours, then that of a day. -/
def dayOps (saves : List (Operation α)) (day : Int) (hours : List Int) : List (Operation α) :=
  saves ++ (hours.map .rollupHour ++ [.rollupDay day])

/-- A run that saves rows into an empty store, rolls up the hours of a day, all of them and in any
order, perhaps among other hours, and then the day, all without a failure. -/
structure DayRun (saves : List (Operation α)) (day : Int) (hours : List Int) : Prop where
  onlySaves : ∀ op ∈ saves, op.isSave = true
  years : ∀ r ∈ ({} : Store α).createSummaries.acceptedIn saves, Month.FourDigitYear r.timestamp
  onDay : millisPerDay ∣ day
  onHours : ∀ hour ∈ hours, millisPerHour ∣ hour
  whole : ∀ i < 24, hourOfDay day i ∈ hours
  faultless : ({} : Store α).createSummaries.Faultless (dayOps saves day hours)

/-- The summary of the day is that of stored summaries of the hours, behind which are the rows of
the day. -/
theorem DayRun.daily {saves : List (Operation α)} {day : Int} {hours : List Int}
    (h : DayRun saves day hours) {agentId : String} {rows : List (Record α)}
    (hrows : rows = ({} : Store α).createSummaries.acceptedIn saves)
    (hne : Record.inSpan agentId day (day + millisPerDay) rows ≠ []) :
    let rowsOf := fun hour => Record.inSpan agentId hour (hour + millisPerHour) rows
    ∃ tables hourly sm sm',
      (({} : Store α).createSummaries.run (dayOps saves day hours)).summaries = some tables ∧
      under agentId day tables.daily = [sm'] ∧
      (∀ t ∈ hourly, ∃ t₀, ofHour? agentId t.start (rowsOf t.start) = some t₀ ∧
        t₀.stored? = some t) ∧
      rowsBehind rowsOf hourly = Record.inSpan agentId day (day + millisPerDay) rows ∧
      ofDay? agentId day hourly = some sm ∧ sm.stored? = some sm' := by
  intro rowsOf
  have h₀ : ({} : Store α).createSummaries.Holds [] := holds_empty.withSummaries _
  obtain ⟨-, hf⟩ := (faultless_append _ _ _).mp h.faultless
  obtain ⟨hf₂, hf₃, -⟩ := (faultless_append _ _ _).mp hf
  -- after the saves
  have hholds := h₀.run saves h.years
  rw [kept_saves _ h.onlySaves, ← hrows] at hholds
  have ht : (({} : Store α).createSummaries.run saves).summaries = some {} :=
    run_saves_summaries saves _ h.onlySaves
  rw [dayOps, run_append, run_append]
  generalize ({} : Store α).createSummaries.run saves = s at *
  -- after the hours
  obtain ⟨hourly, hrun, hhas⟩ := hholds.hasHours ht rfl hf₂
  have hbehind := hhas.rowsBehind_day h.onDay h.onHours h.whole agentId
  have hofHour : ∀ t ∈ select agentId day (day + Span.day.millis - 1) hourly,
      ∃ t₀, ofHour? agentId t.start (rowsOf t.start) = some t₀ ∧ t₀.stored? = some t :=
    fun _ => hhas.exists_ofHour?_of_select
  rw [hrun] at hf₃ ⊢
  -- after the day
  obtain ⟨report, daily, hroll, hdaily, hokDay⟩ := rollupDay_spec
    (show Store.summaries { s with summaries := some { hourly, daily := [] } } = _ from rfl) day
  obtain ⟨sm, hsm⟩ := exists_ofDay? (fun t ht => by
    obtain ⟨t₀, h₁, h₂⟩ := hofHour t ht
    exact dataPoints_of_ofHour? h₁ h₂) (hbehind ▸ hne) agentId day
  obtain ⟨sm', hsm'⟩ := Option.isSome_iff_exists.mp
    (hokDay (failures_of_rollupDay hroll hf₃) agentId sm hsm)
  have hday : dayOf? hourly day agentId = some sm := hsm
  refine ⟨{ hourly, daily }, _, sm, sm', ?_, ?_, hofHour, hbehind, hsm, hsm'⟩
  · rw [run_cons, step_rollupDay, hroll]
    rfl
  · rw [hdaily, if_pos rfl, hday, Option.bind_some, hsm']
    rfl

theorem stored?_of_mem_inSpan [LE α] [Gauge.Ordered α] {s : Store α} {ops : List (Operation α)}
    {agentId : String} {start stop : Int} {r : Record α}
    (h : r ∈ Record.inSpan agentId start stop (s.acceptedIn ops)) : r.stored? = some r := by
  obtain ⟨r₀, hr⟩ := mem_acceptedIn (mem_inSpan.mp h).1
  exact Record.stored?_of_stored? hr

/-- Stored summaries of the hours tell of their rows, if those were accepted. -/
theorem tells_of_accepted [LE α] [Gauge.Ordered α] {s : Store α} {ops : List (Operation α)}
    {agentId : String} {t t₀ : Summary α .hour}
    (h : ofHour? agentId t.start
      (Record.inSpan agentId t.start (t.start + millisPerHour) (s.acceptedIn ops)) = some t₀)
    (hs : t₀.stored? = some t) :
    t.Tells (Record.inSpan agentId t.start (t.start + millisPerHour) (s.acceptedIn ops)) :=
  tells_of_ofHour? (fun _ hr => stored?_of_mem_inSpan hr) h hs

/-- **No point is lost or counted twice between the rows and the day.** After the run of a day, an
agent with a row in it has one daily summary, which tells the number of its rows, their greatest
readings and their totals, held at the greatest counter; with exact arithmetic its averages are the
means of the rows. -/
theorem daily_of_raw :
    (∀ (saves : List (Operation Float)) (day : Int) (hours : List Int), DayRun saves day hours →
      ∀ agentId,
      let rows := Record.inSpan agentId day (day + millisPerDay)
        (({} : Store Float).createSummaries.acceptedIn saves)
      rows ≠ [] → ∃ tables sm,
        (({} : Store Float).createSummaries.run (dayOps saves day hours)).summaries =
          some tables ∧
        under agentId day tables.daily = [sm] ∧ sm.Tells rows) ∧
    ∀ (saves : List (Operation ℚ)) (day : Int) (hours : List Int), DayRun saves day hours →
      ∀ agentId,
      let rows := Record.inSpan agentId day (day + millisPerDay)
        (({} : Store ℚ).createSummaries.acceptedIn saves)
      rows ≠ [] → ∃ tables sm,
        (({} : Store ℚ).createSummaries.run (dayOps saves day hours)).summaries = some tables ∧
        under agentId day tables.daily = [sm] ∧ sm.Tells rows ∧ sm.IsMean rows := by
  constructor
  · intro saves day hours h agentId rows hne
    obtain ⟨tables, hourly, sm₀, sm, hrun, hunder, hofHour, hbehind, hday, hsm⟩ := h.daily rfl hne
    refine ⟨tables, sm, hrun, hunder, ?_⟩
    rw [show rows = _ from hbehind.symm]
    refine tells_of_ofDay? (fun _ _ _ hr => stored?_of_mem_inSpan hr) (fun t ht => ?_) hday hsm
    obtain ⟨t₀, h₁, h₂⟩ := hofHour t ht
    exact tells_of_accepted h₁ h₂
  · intro saves day hours h agentId rows hne
    obtain ⟨tables, hourly, sm₀, sm, hrun, hunder, hofHour, hbehind, hday, hsm⟩ := h.daily rfl hne
    refine ⟨tables, sm, hrun, hunder, ?_⟩
    rw [show rows = _ from hbehind.symm]
    have htells : ∀ t ∈ hourly, t.Tells (Record.inSpan agentId t.start (t.start + millisPerHour)
        (({} : Store ℚ).createSummaries.acceptedIn saves)) := by
      intro t ht
      obtain ⟨t₀, h₁, h₂⟩ := hofHour t ht
      exact tells_of_accepted h₁ h₂
    refine ⟨tells_of_ofDay? (fun _ _ _ hr => stored?_of_mem_inSpan hr) htells hday hsm,
      isMean_of_ofDay? htells (fun t ht => ?_) hday hsm⟩
    obtain ⟨t₀, h₁, h₂⟩ := hofHour t ht
    exact isMean_of_ofHour? h₁ h₂

/-- Rows at both ends of the first hour of a day and at the end of the day, whose counters are held,
and one of another agent. -/
def threeRows {α : Type} (low high : α) : List (Operation α) :=
  [.saveAll [.uniform "a" 1706749199999 high 18446744073709551615,
      .uniform "b" 1706745600000 high 1, .uniform "a" 1706745600000 low 5],
    .save (.uniform "a" 1706831999999 low 7)]

/-- The hours of a day from the last to the first. -/
def backwards (day : Int) : List Int := (List.range 24).reverse.map (hourOfDay day)

theorem daily_of_raw_threeRows :
    (DayRun (threeRows (1.5 : Float) 4.5) 1706745600000 (backwards 1706745600000) ∧
      ∃ tables sm,
        (({} : Store Float).createSummaries.run (dayOps (threeRows 1.5 4.5) 1706745600000
          (backwards 1706745600000))).summaries = some tables ∧
        under "a" 1706745600000 tables.daily = [sm] ∧ sm.dataPoints = 3 ∧
        sm.netRxTotal.toNat = 2 ^ 64 - 1) ∧
    DayRun (threeRows (1 : ℚ) 4) 1706745600000 (backwards 1706745600000) ∧
      ∃ tables sm,
        (({} : Store ℚ).createSummaries.run (dayOps (threeRows 1 4) 1706745600000
          (backwards 1706745600000))).summaries = some tables ∧
        under "a" 1706745600000 tables.daily = [sm] ∧ sm.dataPoints = 3 ∧ sm.cpuAvg = 2 := by
  have hfloat : DayRun (threeRows (1.5 : Float) 4.5) 1706745600000 (backwards 1706745600000) := by
    constructor <;> decide +kernel
  have hrat : DayRun (threeRows (1 : ℚ) 4) 1706745600000 (backwards 1706745600000) := by
    constructor <;> decide +kernel
  refine ⟨⟨hfloat, ?_⟩, hrat, ?_⟩
  · obtain ⟨tables, sm, hrun, hunder, htells⟩ :=
      daily_of_raw.1 _ _ _ hfloat "a" (by decide +kernel)
    exact ⟨tables, sm, hrun, hunder, htells.dataPoints.trans (by decide +kernel),
      htells.netRxTotal.trans (by decide +kernel)⟩
  · obtain ⟨tables, sm, hrun, hunder, htells, hmean⟩ :=
      daily_of_raw.2 _ _ _ hrat "a" (by decide +kernel)
    exact ⟨tables, sm, hrun, hunder, htells.dataPoints.trans (by decide +kernel),
      hmean.cpuAvg.trans (by decide +kernel)⟩

end Store
end FleetTelemetry

/-
# A broken month does not spread

Somebody else may replace the table of a month by one without the columns of a
row, at any point of a run and in any months (`Incident`). The rows of that month
are lost, and no others (`Store.HoldsIntact.endure`). Each operation then has its
own way with a broken month: a range query passes over it
(`Store.HoldsIntact.range`), a save into it is refused
(`Store.HoldsIntact.saved`), a cleanup drops it in its turn or counts a failure
(`Store.HoldsIntact.cutAround`), and the rollup of an hour that touches it writes
nothing (`Store.HoldsIntact.rollupHour_error`), while any other hour is rolled up
as if no month were broken (`Store.HoldsIntact.rollupHour_untouched`).

Key definitions: `Incident`, `Store.damage`, `Store.endure`, `Store.survivors`,
`Store.CutAround`.
Key theorems: `Store.HoldsIntact.endure`, `Store.damage_contained`.
-/
import FleetTelemetry.Proofs.Emitted
import FleetTelemetry.Proofs.MendedMonths
import FleetTelemetry.Proofs.ProperTables

namespace FleetTelemetry

/-- What can happen to a store: something is done with it, or somebody else breaks a month. -/
inductive Incident (α : Type) where
  | performed (op : Operation α)
  | damaged (m : Month)

/-- Whether an incident leaves a row where it is. -/
def Incident.spares {α : Type} : Incident α → Record α → Bool
  | .performed op, r => op.spares r
  | .damaged m, r => !Store.belongs m r

namespace Store

variable {α : Type}

/-- Somebody else drops the table of a month and puts a broken one in its place. -/
def damage (s : Store α) (m : Month) : Store α :=
  match (s.dropMonth m).breakMonth m with
  | .ok s => s
  | .error _ => s.dropMonth m

theorem table?_dropMonth (s : Store α) (m m' : Month) :
    (s.dropMonth m).table? m' = if m' = m then none else s.table? m' :=
  s.months.get?_erase m m'

theorem damage_eq (s : Store α) {m : Month} (hm : 0 ≤ m.year) :
    s.damage m = (s.dropMonth m).setTable m .broken := by
  have hnone : (s.dropMonth m).hasMonth m = false := by
    rw [hasMonth, table?_dropMonth, if_pos rfl]
    rfl
  have hyear : ¬ m.year < 0 := by omega
  simp [damage, breakMonth, hnone, hyear]

theorem table?_damage (s : Store α) {m : Month} (hm : 0 ≤ m.year) (k : Month) :
    (s.damage m).table? k = if k = m then some .broken else s.table? k := by
  rw [damage_eq s hm, table?_setTable, table?_dropMonth]
  split <;> rfl

theorem mended_damage (s : Store α) {m : Month} (hm : 0 ≤ m.year) :
    (s.damage m).mended = (s.mended.dropMonth m).setTable m (.rows []) := by
  rw [damage_eq s hm, setTable_mended, dropMonth_mended]
  rfl

variable {s : Store α} {rows : List (Record α)}

theorem Holds.emptied (h : s.Holds rows) {m : Month} (hv : m.Valid) (hm : 0 ≤ m.year) :
    ((s.dropMonth m).setTable m (.rows [])).Holds (rows.filter fun r => !belongs m r) := by
  have ht : ∀ k, ((s.dropMonth m).setTable m (.rows [])).table? k =
      if k = m then some (.rows []) else s.table? k := by
    intro k
    rw [table?_setTable, table?_dropMonth]
    split <;> rfl
  refine ⟨fun k => ?_, fun k => ?_, fun k => ?_, fun r hr => h.years r (List.mem_filter.mp hr).1,
    fun k hk => ?_⟩
  · rw [ht]
    split
    · exact fun hb => by cases hb
    · exact h.intact k
  · rw [ht]
    split
    · next heq => exact fun _ => heq ▸ ⟨hv, hm⟩
    · exact h.named k
  · rw [Store.rowsIn, ht, List.filter_filter]
    by_cases heq : k = m
    · -- no row that is left belongs to the month
      subst heq
      rw [if_pos rfl]
      exact (List.filter_eq_nil_iff.mpr fun r _ => by simp).symm
    · rw [if_neg heq]
      refine (h.rowsIn k).trans (List.filter_congr fun r _ => ?_)
      cases hk : belongs k r with
      | false => rfl
      | true =>
        have hother : belongs m r = false :=
          Bool.eq_false_iff.mpr fun hm => heq (belongs_unique hk hm)
        simp [hother]
  · rw [ht]
    split
    · rfl
    · exact h.ensured k hk

/-- **Who breaks a month takes its rows**, and no others. -/
theorem HoldsIntact.damage (h : s.HoldsIntact rows) {m : Month} (hv : m.Valid) (hm : 0 ≤ m.year)
    (hle : m.year ≤ 9999) :
    (s.damage m).HoldsIntact (rows.filter fun r => !belongs m r) where
  mended := mended_damage s hm ▸ h.mended.emptied hv hm
  years k hk := by
    rw [isBroken_iff, table?_damage s hm] at hk
    split at hk
    · next heq => exact heq ▸ hle
    · exact h.years k (isBroken_iff.mpr hk)

/-! ### Runs with damage -/

section Runs

variable [Gauge α]

/-- A store after an incident. -/
def undergo (s : Store α) : Incident α → Store α
  | .performed op => s.step op
  | .damaged m => s.damage m

/-- A store after a run of incidents. -/
def endure (s : Store α) (incidents : List (Incident α)) : Store α := incidents.foldl undergo s

/-- The rows that the saves of an incident accept. -/
def acceptedAmid (s : Store α) : Incident α → List (Record α)
  | .performed op => s.accepted op
  | .damaged _ => []

/-- What a run of incidents leaves of some rows and of those that its saves accept. -/
def survivors (s : Store α) (rows : List (Record α)) : List (Incident α) → List (Record α)
  | [] => rows
  | incident :: incidents =>
    (s.undergo incident).survivors (rows.filter incident.spares ++ s.acceptedAmid incident)
      incidents

theorem HoldsIntact.undergo (h : s.HoldsIntact rows) (incident : Incident α)
    (hm : ∀ m, incident = .damaged m → m.Valid ∧ 0 ≤ m.year ∧ m.year ≤ 9999)
    (hy : ∀ r ∈ s.acceptedAmid incident, Month.FourDigitYear r.timestamp) :
    (s.undergo incident).HoldsIntact
      (rows.filter incident.spares ++ s.acceptedAmid incident) := by
  cases incident with
  | performed op => exact h.step op hy
  | damaged m =>
    obtain ⟨hv, hpos, hle⟩ := hm m rfl
    show (s.damage m).HoldsIntact (_ ++ [])
    rw [List.append_nil]
    exact h.damage hv hpos hle

/-- **After a run with damage the intact tables hold what was accepted and not lost.** -/
theorem HoldsIntact.endure (incidents : List (Incident α)) :
    ∀ {s : Store α} {rows : List (Record α)}, s.HoldsIntact rows →
    (∀ m, .damaged m ∈ incidents → m.Valid ∧ 0 ≤ m.year ∧ m.year ≤ 9999) →
    (∀ r ∈ emitted Store.undergo acceptedAmid s incidents, Month.FourDigitYear r.timestamp) →
    (s.endure incidents).HoldsIntact (s.survivors rows incidents) := by
  induction incidents with
  | nil => exact fun h _ _ => h
  | cons incident incidents ih =>
    intro s rows h hm hy
    rw [emitted_cons] at hy
    have hnext := h.undergo incident (fun m heq => hm m (heq ▸ List.mem_cons_self))
      fun r hr => hy r (List.mem_append_left _ hr)
    exact ih hnext (fun m hmem => hm m (List.mem_cons_of_mem _ hmem))
      fun r hr => hy r (List.mem_append_right _ hr)

end Runs

/-! ### Range queries -/

theorem range_mended (s : Store α) (agentId : String) (first last : Int) (limit : Nat) :
    s.mended.range agentId first last limit = s.range agentId first last limit := by
  unfold range
  rw [listed_mended]
  refine List.flatMap_congr fun m _ => congrArg (limited limit) ?_
  unfold monthRange
  rw [table?_mended]
  rcases s.table? m with _ | rs | _ <;> rfl

/-- **A range query passes over the broken months.** -/
theorem HoldsIntact.range (h : s.HoldsIntact rows) (agentId : String) (first last : Int) :
    s.range agentId first last 0 =
      Record.inOrder
        (rows.filter fun r => r.agentId == agentId && within first last r.timestamp) := by
  rw [← range_mended]
  exact h.mended.range agentId first last

/-! ### Saving -/

section Saving

variable [Gauge α]

theorem Holds.saved (h : s.Holds rows) {r : Record α} {m : Month}
    (hm : Month.containing? r.timestamp = some m) : Saved m r s (s.save r).1 (s.save r).2 :=
  (h.proper.entered hm).saved

/-- A store with broken months saves as usual a row that belongs to none of them. -/
theorem HoldsIntact.saved (h : s.HoldsIntact rows) {r : Record α} {m : Month}
    (hm : Month.containing? r.timestamp = some m) (hb : s.isBroken m = false) :
    Saved m r s (s.save r).1 (s.save r).2 := by
  have hmended := h.mended.saved hm
  rw [save_mended fun k hk => Option.some.inj (hm.symm.trans hk) ▸ hb] at hmended
  refine ⟨hmended.outcome, fun k => ?_, hmended.summaries⟩
  have hk := hmended.rows k
  rwa [rowsIn_mended, rowsIn_mended] at hk

end Saving

/-! ### Cleaning up -/

/-- What a cleanup does to the raw rows whose cutoff lies in a month, with broken months among
them. -/
structure CutAround (first : Int) (c : Month) (s after : Store α) (report : CleanupReport) :
    Prop where
  failures : report.failures = if s.isBroken c then 1 else 0
  tables : ∀ m, m.year ≤ 9999 → (after.hasMonth m = true ↔ s.hasMonth m = true ∧ ¬ m < c)
  broken : ∀ m, after.isBroken m = true ↔ s.isBroken m = true ∧ ¬ m < c
  rows : ∀ m, after.rowsIn m = (s.rowsIn m).filter fun r => decide (first ≤ r.timestamp)
  monthsDropped : report.monthsDropped = s.listed.countP fun m => decide (m < c)
  rawRowsDeleted :
    report.rawRowsDeleted = (s.rowsIn c).countP fun r => decide (r.timestamp < first)
  later : ∀ m, c < m → after.table? m = s.table? m
  far : ∀ m, 9999 < m.year → after.table? m = s.table? m

theorem prunedTable_eq_broken {first : Int} {c m : Month} {table : Option (MonthTable α)} :
    prunedTable first c m table = some .broken ↔ table = some .broken ∧ ¬ m < c := by
  refine ⟨fun h => ⟨eq_broken_of_prunedTable h, ?_⟩, fun ⟨ht, hlt⟩ => ?_⟩
  · have hsome : (prunedTable first c m table).isSome = true := by rw [h]; rfl
    exact (isSome_prunedTable.mp hsome).2
  · subst ht
    exact if_neg hlt

theorem HoldsIntact.isBroken_iff_listed (h : s.HoldsIntact rows) {m : Month} :
    s.isBroken m = true ↔ m ∈ s.listed ∧ s.isIntact m = false := by
  constructor
  · intro hb
    refine ⟨h.mem_listed_of_isBroken hb, ?_⟩
    rw [isIntact, isBroken_iff.mp hb]
  · rintro ⟨hm, hi⟩
    have hsome := (h.mem_listed_iff.mp hm).1
    unfold isIntact at hi
    unfold hasMonth at hsome
    rw [isBroken_iff]
    rcases htable : s.table? m with _ | rs | _
    · rw [htable] at hsome; cases hsome
    · rw [htable] at hi; cases hi
    · rfl

section Cut

variable (h : s.HoldsIntact rows) {now : Int} {policy : RetentionPolicy} {c : Month}
  (hc : Month.containing? (cutoff now policy.rawDays) = some c)

include h hc

theorem HoldsIntact.hasMonth_cleanup {m : Month} (hle : m.year ≤ 9999) :
    (s.cleanup now policy).1.hasMonth m = true ↔ s.hasMonth m = true ∧ ¬ m < c := by
  by_cases hm : m ∈ s.listed
  · rw [hasMonth, table?_cleanup_eq hc, if_pos hm]
    exact isSome_prunedTable
  · have hnone : s.hasMonth m = false :=
      Bool.eq_false_iff.mpr fun hsome => hm (h.mem_listed_iff.mpr ⟨hsome, hle⟩)
    unfold hasMonth at hnone ⊢
    rw [table?_cleanup_of_not_mem_listed hm, hnone]
    simp

theorem HoldsIntact.isBroken_cleanup (m : Month) :
    (s.cleanup now policy).1.isBroken m = true ↔ s.isBroken m = true ∧ ¬ m < c := by
  rw [isBroken_iff, isBroken_iff, table?_cleanup_eq hc]
  by_cases hm : m ∈ s.listed
  · rw [if_pos hm]
    exact prunedTable_eq_broken
  · have hintact : s.table? m ≠ some .broken := fun hb =>
      hm (h.mem_listed_of_isBroken (isBroken_iff.mpr hb))
    rw [if_neg hm]
    simp [hintact]

theorem HoldsIntact.rowsIn_cleanup (m : Month) :
    (s.cleanup now policy).1.rowsIn m =
      (s.rowsIn m).filter fun r => decide (cutoff now policy.rawDays ≤ r.timestamp) := by
  rw [← rowsIn_mended, ← rowsIn_mended s, cleanup_mended]
  exact h.mended.rowsIn_cleanup hc m

/-- **A cleanup cuts around the broken months**: it drops them in their turn, and counts one failure
if its cutoff lies in one. -/
theorem HoldsIntact.cutAround {tables : Summaries α} (ht : s.summaries = some tables) :
    CutAround (cutoff now policy.rawDays) c s (s.cleanup now policy).1
      (s.cleanup now policy).2 where
  failures := by
    rw [cleanup_eq ht, report_pruneRaw hc]
    simp only [← h.isBroken_iff_listed, Nat.zero_add]
  tables _ hle := h.hasMonth_cleanup hc hle
  broken := h.isBroken_cleanup hc
  rows := h.rowsIn_cleanup hc
  monthsDropped := by
    rw [cleanup_eq ht, report_pruneRaw hc]
    exact Nat.zero_add _
  rawRowsDeleted := by
    rw [cleanup_eq ht, report_pruneRaw hc]
    by_cases hm : c ∈ s.listed
    · simp [hm, rowsBefore]
    · have hnil : s.rowsIn c = [] := by
        rw [← rowsIn_mended]
        exact h.mended.rowsIn_of_not_mem_listed ((listed_mended s).symm ▸ hm)
      simp [hm, hnil]
  later _ := table?_cleanup_of_lt hc
  far m hyear := table?_cleanup_of_not_mem_listed fun hm => by
    have hle := (h.mem_listed_iff.mp hm).2
    omega

end Cut

/-! ### The rollup of an hour -/

/-- Whether the hour from an instant on touches a month. -/
def Touches (start : Int) (m : Month) : Prop :=
  m.start < start + Span.hour.millis ∧ start < m.stop

instance (start : Int) (m : Month) : Decidable (Touches start m) :=
  inferInstanceAs (Decidable (_ ∧ _))

theorem mem_inWindow_hour {ms : List Month} {start : Int} {m : Month} :
    m ∈ Month.inWindow ms start (start + Span.hour.millis - 1) ↔ m ∈ ms ∧ Touches start m := by
  have hmillis : (0 : Int) < Span.hour.millis := by decide
  unfold Month.inWindow Touches
  rw [if_neg (by omega), List.mem_filter]
  simp only [Month.overlaps, Bool.and_eq_true, decide_eq_true_eq]
  refine and_congr_right fun _ => and_congr_left fun _ => ?_
  omega

theorem foldlM_broken {m : Month} (hm : s.table? m = some .broken) (start stop : Int) :
    ∀ (ms : List Month) (rows : List (Record α)), m ∈ ms →
    (ms.foldlM (fun rows m =>
      match s.table? m with
      | some (.rows rs) => .ok (rows ++ rs.filter fun r => within start (stop - 1) r.timestamp)
      | _ => .error .database) rows : Except StoreError (List (Record α))) = .error .database
  | k :: ms, rows, hmem => by
    rw [List.foldlM_cons]
    rcases List.mem_cons.mp hmem with rfl | hmem
    · rw [hm]
      rfl
    · rcases s.table? k with _ | rs | _
      · rfl
      · exact foldlM_broken hm start stop ms _ hmem
      · rfl

variable [Gauge α]

/-- **An hour that touches a broken month is not rolled up.** -/
theorem HoldsIntact.rollupHour_error (h : s.HoldsIntact rows) {start : Int} {m : Month}
    (hm : s.isBroken m = true) (ht : Touches start m) :
    s.rollupHour start = .error .database := by
  have hmem : m ∈ Month.inWindow s.listed start (start + Span.hour.millis - 1) :=
    mem_inWindow_hour.mpr ⟨h.mem_listed_of_isBroken hm, ht⟩
  have herror : s.rowsBetween start (start + Span.hour.millis) = .error .database :=
    foldlM_broken (isBroken_iff.mp hm) _ _ _ _ hmem
  unfold Store.rollupHour
  rw [herror]

omit [Gauge α] in
theorem HoldsIntact.rowsBetween_mended (h : s.HoldsIntact rows) {start : Int}
    (hintact : ∀ m, s.isBroken m = true → ¬ Touches start m) :
    s.rowsBetween start (start + Span.hour.millis) =
      s.mended.rowsBetween start (start + Span.hour.millis) := by
  have htable : ∀ m ∈ Month.inWindow s.listed start (start + Span.hour.millis - 1),
      s.table? m = some (.rows (s.rowsIn m)) ∧ s.mended.table? m = some (.rows (s.rowsIn m)) := by
    intro m hm
    obtain ⟨hlisted, htouches⟩ := mem_inWindow_hour.mp hm
    have hb : s.isBroken m = false := Bool.eq_false_iff.mpr fun hb => hintact m hb htouches
    have hmended := h.mended.table? (h.mended.mem_listed_iff.mp (s.listed_mended.symm ▸ hlisted)).1
    rw [rowsIn_mended] at hmended
    exact ⟨table?_mended_of_intact hb ▸ hmended, hmended⟩
  have hread := foldlM_rows start (start + Span.hour.millis) _ [] fun m hm => (htable m hm).1
  have hread' := foldlM_rows start (start + Span.hour.millis) _ [] fun m hm => (htable m hm).2
  unfold Store.rowsBetween
  rw [listed_mended]
  exact hread.trans hread'.symm

/-- **An hour that touches no broken month is rolled up as if none were broken**, with the same
summaries and the same report. -/
theorem HoldsIntact.rollupHour_untouched (h : s.HoldsIntact rows) {tables : Summaries α}
    (ht : s.summaries = some tables) {start : Int}
    (hintact : ∀ m, s.isBroken m = true → ¬ Touches start m) :
    let hourly := tables.rollHour rows start
    let report := Summary.tally (hourOf? rows start)
      (Record.agentsIn start (start + Span.hour.millis) rows)
    s.rollupHour start = .ok ({ s with summaries := some { tables with hourly } }, report) ∧
      s.mended.rollupHour start =
        .ok ({ s.mended with summaries := some { tables with hourly } }, report) := by
  obtain ⟨raw, hraw, hrows⟩ := h.mended.rowsBetween start (start + Span.hour.millis)
  have ht' : s.mended.summaries = some tables := ht
  exact ⟨rollupHour_rollHour ht ((h.rowsBetween_mended hintact).trans hraw) hrows,
    rollupHour_rollHour ht' hraw hrows⟩

/-! ### Any run with damage -/

/-- **A broken month does not spread.** After any run of a store that is empty at first, accepts
rows of four-digit years only and has its tables of summaries, where somebody else broke any months
of such years at any points of it, the tables that are not broken have the rows that were accepted
and neither cleaned up later nor lost with their month. A range query reads all of them. What is
saved into a broken month is refused and changes nothing, and any other row is saved as usual. A
cleanup drops the broken months in their turn, prunes the summaries, and counts one failure if its
cutoff lies in a broken month. The rollup of an hour that touches a broken month fails and writes
nothing; any other one writes and reports what it would if no month were broken, which is the
summaries of the hour and the tally of its agents. -/
theorem damage_contained (incidents : List (Incident α))
    (hm : ∀ m, .damaged m ∈ incidents → m.Valid ∧ 0 ≤ m.year ∧ m.year ≤ 9999)
    (hy : ∀ r ∈ emitted undergo acceptedAmid ({} : Store α) incidents,
      Month.FourDigitYear r.timestamp)
    {tables : Summaries α} (ht : (({} : Store α).endure incidents).summaries = some tables) :
    let s := ({} : Store α).endure incidents
    let rows := ({} : Store α).survivors [] incidents
    (∀ m, s.rowsIn m = rows.filter (belongs m)) ∧
    (∀ agentId first last, s.range agentId first last 0 =
      Record.inOrder
        (rows.filter fun r => r.agentId == agentId && within first last r.timestamp)) ∧
    (∀ r m, Month.containing? r.timestamp = some m →
      (s.isBroken m = true → s.save r = (s, .error .database)) ∧
      (s.isBroken m = false → Saved m r s (s.save r).1 (s.save r).2)) ∧
    (∀ now policy c, Month.containing? (cutoff now policy.rawDays) = some c →
      CutAround (cutoff now policy.rawDays) c s (s.cleanup now policy).1
        (s.cleanup now policy).2) ∧
    (∀ now policy, SummariesCut (cutoff now policy.hourlyDays) (cutoff now policy.dailyDays) tables
      (s.cleanup now policy).1 (s.cleanup now policy).2) ∧
    (∀ start, (∃ m, s.isBroken m = true ∧ Touches start m) →
      s.rollupHour start = .error .database ∧ s.step (.rollupHour start) = s) ∧
    ∀ start, (∀ m, s.isBroken m = true → ¬ Touches start m) →
      ∃ report hourly,
        s.rollupHour start =
          .ok ({ s with summaries := some { tables with hourly } }, report) ∧
        s.mended.rollupHour start =
          .ok ({ s.mended with summaries := some { tables with hourly } }, report) ∧
        report = Summary.tally (hourOf? rows start)
          (Record.agentsIn start (start + Span.hour.millis) rows) ∧
        ∀ a k, Summary.under a k hourly =
          if k = start then
            ((hourOf? rows start a).bind Summary.stored?).elim (Summary.under a k tables.hourly)
              ([·])
          else Summary.under a k tables.hourly := by
  intro s rows
  have h : s.HoldsIntact rows := holdsIntact_empty.endure incidents hm hy
  refine ⟨h.rowsIn, h.range, fun r m hmonth => ⟨save_of_isBroken hmonth, h.saved hmonth⟩,
    fun now policy c hc => h.cutAround hc ht, summariesCut_cleanup ht, ?_, fun start hintact => ?_⟩
  · rintro start ⟨m, hb, htouches⟩
    have herror := h.rollupHour_error hb htouches
    exact ⟨herror, by rw [step_rollupHour, herror]⟩
  · obtain ⟨hroll, hmended⟩ := h.rollupHour_untouched ht hintact
    exact ⟨_, _, hroll, hmended, rfl, Summary.under_rollHour tables rows start⟩

/-- Rows of three months, the middle one of which somebody breaks; then a row for each. -/
def brokenFebruary : List (Incident Float) :=
  [.performed .createSummaries,
    .performed (.saveAll ([1706745599999, 1706745600000, 1709251200000].map fun ts =>
      .uniform "a" ts 1.5 7)),
    .damaged ⟨2024, 2⟩,
    .performed (.saveAll ([1706745599999, 1706832000000, 1709251200001].map fun ts =>
      .uniform "a" ts 2.5 8))]

theorem damage_contained_brokenFebruary :
    let s := ({} : Store Float).endure brokenFebruary
    ((∀ m, .damaged m ∈ brokenFebruary → m.Valid ∧ 0 ≤ m.year ∧ m.year ≤ 9999) ∧
      (∀ r ∈ emitted undergo acceptedAmid ({} : Store Float) brokenFebruary,
        Month.FourDigitYear r.timestamp) ∧
      s.summaries.isSome = true) ∧
    s.isBroken ⟨2024, 2⟩ = true ∧
    (s.range "a" 1704067200000 1711929600000 0).map Record.timestamp =
      [1706745599999, 1706745599999, 1709251200000, 1709251200001] ∧
    s.save (.uniform "a" 1706832000000 3.5 9) = (s, .error .database) ∧
    (s.cleanup 1706918400000 ⟨1, 1, 1⟩).2.failures = 1 ∧
    (s.cleanup 1706918400000 ⟨1, 1, 1⟩).1.hasMonth ⟨2024, 1⟩ = false ∧
    s.rollupHour 1706745599999 = .error .database ∧
    (∃ after, s.rollupHour 1706742000000 = .ok (after, ⟨1, 1, 0⟩)) := by
  intro s
  have hm : ∀ m, .damaged m ∈ brokenFebruary → m.Valid ∧ 0 ≤ m.year ∧ m.year ≤ 9999 := by
    intro m hmem
    have : m = ⟨2024, 2⟩ := by simpa [brokenFebruary] using hmem
    subst this
    decide
  have hy : ∀ r ∈ emitted undergo acceptedAmid ({} : Store Float) brokenFebruary,
      Month.FourDigitYear r.timestamp := by
    decide +kernel
  obtain ⟨hsome, hbroken, hintact, hrows, htally⟩ :
      s.summaries.isSome = true ∧ s.isBroken ⟨2024, 2⟩ = true ∧
      (∀ m ∈ s.months.keys, s.isBroken m = true → ¬ Touches 1706742000000 m) ∧
      (Record.inOrder ((({} : Store Float).survivors [] brokenFebruary).filter fun r =>
        r.agentId == "a" && within 1704067200000 1711929600000 r.timestamp)).map
          Record.timestamp = [1706745599999, 1706745599999, 1709251200000, 1709251200001] ∧
      Summary.tally (hourOf? (({} : Store Float).survivors [] brokenFebruary) 1706742000000)
        (Record.agentsIn 1706742000000 (1706742000000 + Span.hour.millis)
          (({} : Store Float).survivors [] brokenFebruary)) = ⟨1, 1, 0⟩ := by
    decide +kernel
  obtain ⟨tables, ht⟩ := Option.isSome_iff_exists.mp hsome
  obtain ⟨-, hrange, hsave, hcleanup, -, herror, hrollup⟩ :=
    damage_contained brokenFebruary hm hy ht
  have hcut := hcleanup 1706918400000 ⟨1, 1, 1⟩ ⟨2024, 2⟩ (by decide +kernel)
  obtain ⟨hrefused, -⟩ := hsave (.uniform "a" 1706832000000 3.5 9) ⟨2024, 2⟩ (by decide +kernel)
  refine ⟨⟨hm, hy, hsome⟩, hbroken, ?_, hrefused hbroken, ?_, ?_, ?_, ?_⟩
  · rw [hrange]
    exact hrows
  · rw [hcut.failures, if_pos hbroken]
  · have hdropped := hcut.tables ⟨2024, 1⟩ (by decide)
    exact Bool.eq_false_iff.mpr fun hthere => (hdropped.mp hthere).2 (by decide)
  · exact (herror _ ⟨_, hbroken, by decide +kernel⟩).1
  · obtain ⟨report, hourly, hroll, -, hreport, -⟩ := hrollup 1706742000000 fun m hb =>
      hintact m ((s.months.mem_keys_iff m).mpr (hasMonth_of_isBroken hb)) hb
    exact ⟨_, (hreport.trans htally) ▸ hroll⟩

end Store
end FleetTelemetry

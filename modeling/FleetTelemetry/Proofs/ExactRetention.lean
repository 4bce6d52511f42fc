/-
# Retention is exact

A cleanup goes through the months that are listed and counts what it does
(`Store.report_foldl_pruneMonth`). It decides by the order of the months which
tables it drops, and by the instants of the rows which ones it deletes in the
month of the cutoff; the two agree, for the order of the months is that of their
bounds. So it leaves the rows from the cutoff on, and what it counts is what it
took (`Store.RawCut`). After it there is nothing more to take
(`Store.Holds.cleanup_again`). The tables of later years than 9999 have names that
are not recognised: a cleanup neither drops nor counts them
(`Store.cleanup_passes_farTable`).

Key definitions: `Store.isIntact`, `Store.tableMonths`, `Store.expired`,
`Store.RawCut`, `Store.RawUncut`, `Store.SummariesCut`, `Operation.instants`.
Key theorems: `Store.report_pruneRaw`, `Store.pruneRaw_settled`,
`Store.Holds.card_expired`, `Store.Holds.cleanup_again`, `Store.addsTables_run`,
`Store.cleanup_exact`.
-/
import FleetTelemetry.Proofs.CleanupCycle
import Mathlib.Data.Finset.Card

namespace FleetTelemetry

theorem length_sub_length_filter {β : Type} (p q : β → Bool) (h : ∀ b, q b = !p b) (l : List β) :
    l.length - (l.filter p).length = l.countP q := by
  have hlength := l.length_eq_countP_add_countP p
  have hq : l.countP q = l.countP fun b => decide ¬p b = true :=
    List.countP_congr fun b _ => by simp [h]
  rw [← List.countP_eq_length_filter]
  omega

/-- The instants whose months an operation sees to. -/
def Operation.instants {α : Type} : Operation α → List Int
  | .save r => [r.timestamp]
  | .saveAll rs => rs.map Record.timestamp
  | .setUp now => [now]
  | _ => []

namespace Store

variable {α : Type}

/-! ### What the raw cutoff counts -/

/-- Whether a month has a table of rows. -/
def isIntact (s : Store α) (m : Month) : Bool :=
  match s.table? m with
  | some (.rows _) => true
  | _ => false

/-- The rows of a month before an instant. -/
def rowsBefore (s : Store α) (m : Month) (first : Int) : Nat :=
  (s.rowsIn m).countP fun r => decide (r.timestamp < first)

theorem length_sub_length_kept (first : Int) (rows : List (Record α)) :
    rows.length - (rows.filter fun r => decide (first ≤ r.timestamp)).length =
      rows.countP fun r => decide (r.timestamp < first) :=
  length_sub_length_filter _ _ (fun r => by simp only [← decide_not, Int.not_le]) rows

theorem report_pruneMonth (first : Int) (c : Month) (s : Store α) (report : CleanupReport)
    (m : Month) :
    (pruneMonth first c s report m).2 = { report with
      monthsDropped := report.monthsDropped + if m < c then 1 else 0
      rawRowsDeleted := report.rawRowsDeleted + if m = c then s.rowsBefore c first else 0
      failures := report.failures + if m = c ∧ s.isIntact c = false then 1 else 0 } := by
  unfold pruneMonth
  by_cases hlt : m < c
  · have hne : m ≠ c := fun h => Month.lt_irrefl c (h ▸ hlt)
    simp [hlt, hne]
  · by_cases heq : m = c
    · subst heq
      unfold isIntact rowsBefore rowsIn
      rw [if_neg hlt, if_pos rfl]
      cases ht : s.table? m with
      | none => simp [hlt]
      | some t =>
        cases t with
        | rows rs => simp [hlt, length_sub_length_kept]
        | broken => simp [hlt]
    · simp [hlt, heq]

/-- **What is counted over some months**: those before the cutoff, and the rows before it in its own
month; a failure if that one has no table of rows. -/
theorem report_foldl_pruneMonth (first : Int) (c : Month) : ∀ (ms : List Month) (s : Store α)
    (report : CleanupReport), ms.Nodup →
    (ms.foldl (fun (s, report) m => pruneMonth first c s report m) (s, report)).2 = { report with
      monthsDropped := report.monthsDropped + ms.countP fun m => decide (m < c)
      rawRowsDeleted := report.rawRowsDeleted + if c ∈ ms then s.rowsBefore c first else 0
      failures := report.failures + if c ∈ ms ∧ s.isIntact c = false then 1 else 0 }
  | [], s, report, _ => by simp
  | k :: ms, s, report, hnodup => by
    obtain ⟨hk, hms⟩ := List.nodup_cons.mp hnodup
    have ih := report_foldl_pruneMonth first c ms (pruneMonth first c s report k).1
      (pruneMonth first c s report k).2 hms
    refine ih.trans ?_
    rw [report_pruneMonth]
    by_cases heq : k = c
    · -- the month of the cutoff does not come again
      subst heq
      simp [hk, Month.lt_irrefl]
    · have ht : (pruneMonth first c s report k).1.table? c = s.table? c := by
        rw [table?_pruneMonth, if_neg (Ne.symm heq)]
      have hrows : (pruneMonth first c s report k).1.rowsBefore c first = s.rowsBefore c first := by
        unfold rowsBefore rowsIn
        rw [ht]
      have hintact : (pruneMonth first c s report k).1.isIntact c = s.isIntact c := by
        unfold isIntact
        rw [ht]
      rw [hrows, hintact]
      by_cases hlt : k < c
      · simp [hlt, heq, Ne.symm heq]
        omega
      · simp [hlt, heq, Ne.symm heq]

theorem report_pruneRaw {first : Int} {c : Month} (hc : Month.containing? first = some c)
    (s : Store α) (report : CleanupReport) :
    (pruneRaw first s report).2 = { report with
      monthsDropped := report.monthsDropped + s.listed.countP fun m => decide (m < c)
      rawRowsDeleted := report.rawRowsDeleted + if c ∈ s.listed then s.rowsBefore c first else 0
      failures := report.failures + if c ∈ s.listed ∧ s.isIntact c = false then 1 else 0 } := by
  unfold pruneRaw
  rw [hc]
  exact report_foldl_pruneMonth first c s.listed s report s.listed_pairwise.nodup

/-! ### Nothing more to take -/

/-- A month that is not before that of the cutoff, nor has a row before the cutoff if it is the
same, stays as it is. -/
theorem pruneMonth_settled {first : Int} {c m : Month} {s : Store α} (hnlt : ¬ m < c)
    (hintact : m = c → s.isIntact m = true)
    (hrows : m = c → ∀ r ∈ s.rowsIn m, first ≤ r.timestamp) (report : CleanupReport) :
    pruneMonth first c s report m = (s, report) := by
  unfold pruneMonth
  rw [if_neg hnlt]
  by_cases heq : m = c
  · have hsome := hintact heq
    have hall := hrows heq
    unfold isIntact at hsome
    unfold rowsIn at hall
    rw [if_pos heq]
    cases ht : s.table? m with
    | none => simp [ht] at hsome
    | some t =>
      cases t with
      | broken => simp [ht] at hsome
      | rows rs =>
        rw [ht] at hall
        have hkept : rs.filter (fun r => decide (first ≤ r.timestamp)) = rs :=
          List.filter_eq_self.mpr fun r hr => decide_eq_true (hall r hr)
        have hset : s.setTable m (.rows rs) = s := by
          unfold setTable
          rw [OrderedMap.insert_of_get? ht]
        simp only [hkept, hset, Nat.sub_self, Nat.add_zero]
  · rw [if_neg heq]

theorem pruneRaw_settled {first : Int} {c : Month} (hc : Month.containing? first = some c)
    {s : Store α} (hlisted : ∀ m ∈ s.listed, ¬ m < c)
    (hintact : c ∈ s.listed → s.isIntact c = true)
    (hrows : ∀ r ∈ s.rowsIn c, first ≤ r.timestamp) (report : CleanupReport) :
    pruneRaw first s report = (s, report) := by
  have hfold : ∀ ms : List Month, (∀ m ∈ ms, m ∈ s.listed) →
      ms.foldl (fun (s, report) m => pruneMonth first c s report m) (s, report) = (s, report) := by
    intro ms
    induction ms with
    | nil => exact fun _ => rfl
    | cons m ms ih =>
      intro hms
      have hm := hms m List.mem_cons_self
      have hsettled := pruneMonth_settled (hlisted m hm) (fun heq => heq ▸ hintact (heq ▸ hm))
        (fun heq => heq ▸ hrows) report
      rw [List.foldl_cons]
      show ms.foldl _ (pruneMonth first c s report m) = _
      rw [hsettled]
      exact ih fun k hk => hms k (List.mem_cons_of_mem m hk)
  unfold pruneRaw
  rw [hc]
  exact hfold s.listed fun m hm => hm

/-! ### What a cleanup leaves and reports -/

/-- The months that have a table. -/
def tableMonths (s : Store α) : Finset Month := s.months.keys.toFinset

/-- Those of them up to the year 9999 that end by the start of a month. -/
def expired (s : Store α) (c : Month) : Finset Month :=
  s.tableMonths.filter fun m => m.year ≤ 9999 ∧ m.stop ≤ c.start

/-- What a cleanup does to the raw rows whose cutoff lies in a month. -/
structure RawCut (first : Int) (c : Month) (s after : Store α) (report : CleanupReport) :
    Prop where
  failures : report.failures = 0
  rows : ∀ m, after.rowsIn m = (s.rowsIn m).filter fun r => decide (first ≤ r.timestamp)
  monthsDropped : report.monthsDropped = (s.expired c).card
  tables : after.tableMonths = s.tableMonths \ s.expired c
  rawRowsDeleted :
    report.rawRowsDeleted = (s.rowsIn c).countP fun r => decide (r.timestamp < first)
  later : ∀ m, c < m → after.table? m = s.table? m
  far : ∀ m, 9999 < m.year → after.table? m = s.table? m

/-- What it does if no month can be reckoned for the cutoff. -/
structure RawUncut (s after : Store α) (report : CleanupReport) : Prop where
  failures : report.failures = 1
  months : after.months = s.months
  monthsDropped : report.monthsDropped = 0
  rawRowsDeleted : report.rawRowsDeleted = 0

/-- What it does to the summaries. -/
structure SummariesCut (firstHour firstDay : Int) (tables : Summaries α) (after : Store α)
    (report : CleanupReport) : Prop where
  summaries : after.summaries = some
    { hourly := tables.hourly.filter fun h => decide (firstHour ≤ h.start)
      daily := tables.daily.filter fun d => decide (firstDay ≤ d.start) }
  hourlyRowsDeleted :
    report.hourlyRowsDeleted = tables.hourly.countP fun h => decide (h.start < firstHour)
  dailyRowsDeleted :
    report.dailyRowsDeleted = tables.daily.countP fun d => decide (d.start < firstDay)

variable {s : Store α} {rows : List (Record α)} {tables : Summaries α}

theorem mem_tableMonths {m : Month} : m ∈ s.tableMonths ↔ s.hasMonth m = true := by
  rw [tableMonths, List.mem_toFinset, OrderedMap.mem_keys_iff]
  rfl

theorem mem_expired {c m : Month} :
    m ∈ s.expired c ↔ s.hasMonth m = true ∧ m.year ≤ 9999 ∧ m.stop ≤ c.start := by
  rw [expired, Finset.mem_filter, mem_tableMonths]

theorem summariesCut_cleanup (ht : s.summaries = some tables) (now : Int)
    (policy : RetentionPolicy) :
    SummariesCut (cutoff now policy.hourlyDays) (cutoff now policy.dailyDays) tables
      (s.cleanup now policy).1 (s.cleanup now policy).2 := by
  have hcount : ∀ {span : Span} (first : Int) (table : List (Summary α span)),
      table.length - (keptSummaries first table).length =
        table.countP fun t => decide (t.start < first) := fun first table =>
    length_sub_length_filter _ _ (fun t => by simp only [← decide_not, Int.not_le]) table
  rw [cleanup_eq ht]
  exact ⟨rfl, hcount _ _, hcount _ _⟩

theorem rawUncut_cleanup (ht : s.summaries = some tables) {now : Int} {policy : RetentionPolicy}
    (hc : Month.containing? (cutoff now policy.rawDays) = none) :
    RawUncut s (s.cleanup now policy).1 (s.cleanup now policy).2 := by
  have hraw : pruneRaw (cutoff now policy.rawDays) s {} = (s, { failures := 1 }) := by
    unfold pruneRaw
    rw [hc]
  rw [cleanup_eq ht, hraw]
  exact ⟨rfl, rfl, rfl, rfl⟩

/-- A month of a year that a name is recognised for can be reckoned with. -/
theorem Holds.reckoned_of_mem_listed (h : s.Holds rows) {m : Month} (hm : m ∈ s.listed) :
    m.Reckoned := by
  obtain ⟨hsome, hle⟩ := h.mem_listed_iff.mp hm
  obtain ⟨hvalid, hpos⟩ := h.named m hsome
  exact ⟨hvalid, by omega, by omega⟩

theorem Holds.mem_expired_iff (h : s.Holds rows) {c : Month} (hc : c.Reckoned) {m : Month} :
    m ∈ s.expired c ↔ m ∈ s.listed ∧ m < c := by
  have hlisted : m ∈ s.listed ↔ s.hasMonth m = true ∧ m.year ≤ 9999 := h.mem_listed_iff
  rw [mem_expired, ← and_assoc, ← hlisted]
  refine and_congr_right fun hm => ?_
  rw [Month.lt_iff_stop_le_start (h.reckoned_of_mem_listed hm) hc]

theorem Holds.card_expired (h : s.Holds rows) {c : Month} (hc : c.Reckoned) :
    (s.expired c).card = s.listed.countP fun m => decide (m < c) := by
  have hnodup := s.listed_pairwise.nodup.filter fun m => decide (m < c)
  rw [List.countP_eq_length_filter, ← List.toFinset_card_of_nodup hnodup]
  congr 1
  ext m
  rw [h.mem_expired_iff hc, List.mem_toFinset, List.mem_filter, decide_eq_true_iff]

theorem Holds.isIntact_of_mem_listed (h : s.Holds rows) {m : Month} (hm : m ∈ s.listed) :
    s.isIntact m = true := by
  unfold isIntact
  rw [h.table? (h.mem_listed_iff.mp hm).1]

theorem isSome_prunedTable {first : Int} {c m : Month} {table : Option (MonthTable α)} :
    (prunedTable first c m table).isSome = true ↔ table.isSome = true ∧ ¬ m < c := by
  by_cases hlt : m < c
  · rcases table with _ | rs | _ <;> simp [prunedTable, hlt]
  · by_cases heq : m = c <;> rcases table with _ | rs | _ <;> simp [prunedTable, hlt, heq]

section Tables

variable {s : Store α} {now : Int} {policy : RetentionPolicy} {m : Month}

theorem table?_cleanup_of_not_mem_listed (hm : m ∉ s.listed) :
    (s.cleanup now policy).1.table? m = s.table? m := by
  rw [table?_cleanup, table?_pruneRaw]
  split
  · rfl
  · exact if_neg hm

variable {c : Month} (hc : Month.containing? (cutoff now policy.rawDays) = some c)
include hc

theorem table?_cleanup_eq (s : Store α) (m : Month) :
    (s.cleanup now policy).1.table? m =
      if m ∈ s.listed then prunedTable (cutoff now policy.rawDays) c m (s.table? m)
      else s.table? m := by
  rw [table?_cleanup, table?_pruneRaw, hc]

theorem table?_cleanup_of_lt (hm : c < m) :
    (s.cleanup now policy).1.table? m = s.table? m := by
  have hnlt : ¬ m < c := fun hlt => Month.lt_irrefl _ (Month.lt_trans hm hlt)
  have hne : m ≠ c := fun heq => Month.lt_irrefl _ (heq ▸ hm)
  rw [table?_cleanup_eq hc]
  split
  · rcases s.table? m with _ | rs | _ <;> simp [prunedTable, hnlt, hne]
  · rfl

end Tables

section Cut

variable (h : s.Holds rows) {now : Int} {policy : RetentionPolicy} {c : Month}
  (hc : Month.containing? (cutoff now policy.rawDays) = some c)
include h hc

theorem Holds.rowsIn_cleanup (m : Month) :
    (s.cleanup now policy).1.rowsIn m =
      (s.rowsIn m).filter fun r => decide (cutoff now policy.rawDays ≤ r.timestamp) := by
  obtain ⟨hreckoned, hday⟩ := Month.containing?_eq_some_iff.mp hc
  have hrange : Month.instantInRange (cutoff now policy.rawDays) = true :=
    (Month.instantInRange_iff _).mpr (hday ▸ hreckoned)
  have hspares : (Operation.cleanup now policy).spares =
      fun r : Record α => decide (cutoff now policy.rawDays ≤ r.timestamp) := by
    funext r
    rw [Operation.spares, hrange, Bool.not_true, Bool.false_or]
  rw [(h.cleanup now policy).rowsIn, h.rowsIn, List.filter_comm, hspares]

/-- A listed month is dropped if it comes before that of the cutoff, and not otherwise. -/
theorem Holds.hasMonth_cleanup {m : Month} (hm : m ∈ s.listed) :
    (s.cleanup now policy).1.hasMonth m = true ↔ ¬ m < c := by
  have hsome := (h.mem_listed_iff.mp hm).1
  rw [hasMonth, table?_cleanup_eq hc, if_pos hm, isSome_prunedTable]
  exact and_iff_right hsome

/-- What a cleanup leaves of the tables are those that have not expired. -/
theorem Holds.tableMonths_cleanup :
    (s.cleanup now policy).1.tableMonths = s.tableMonths \ s.expired c := by
  have hreckoned := (Month.containing?_eq_some_iff.mp hc).1
  ext m
  rw [Finset.mem_sdiff, h.mem_expired_iff hreckoned, mem_tableMonths, mem_tableMonths]
  by_cases hm : m ∈ s.listed
  · have hsome : s.hasMonth m = true := (h.mem_listed_iff.mp hm).1
    rw [h.hasMonth_cleanup hc hm, and_iff_right hsome, and_iff_right hm]
  · rw [hasMonth, table?_cleanup_of_not_mem_listed hm]
    exact (and_iff_left fun hexpired => hm hexpired.1).symm

/-- **A cleanup takes exactly the rows before its cutoff**, and counts them. -/
theorem Holds.rawCut_cleanup (ht : s.summaries = some tables) :
    RawCut (cutoff now policy.rawDays) c s (s.cleanup now policy).1
      (s.cleanup now policy).2 where
  failures := by
    have hintact : ¬ (c ∈ s.listed ∧ s.isIntact c = false) := fun ⟨hm, hbroken⟩ => by
      rw [h.isIntact_of_mem_listed hm] at hbroken
      cases hbroken
    rw [cleanup_eq ht, report_pruneRaw hc]
    simp [hintact]
  rows := h.rowsIn_cleanup hc
  monthsDropped := by
    rw [cleanup_eq ht, report_pruneRaw hc, h.card_expired (Month.containing?_eq_some_iff.mp hc).1]
    exact Nat.zero_add _
  tables := h.tableMonths_cleanup hc
  rawRowsDeleted := by
    rw [cleanup_eq ht, report_pruneRaw hc]
    by_cases hm : c ∈ s.listed
    · simp [hm, rowsBefore]
    · simp [hm, h.rowsIn_of_not_mem_listed hm]
  later _ := table?_cleanup_of_lt hc
  far m hyear := table?_cleanup_of_not_mem_listed fun hm => by
    have hle := (h.mem_listed_iff.mp hm).2
    omega

end Cut

theorem hasMonth_of_cleanup {s : Store α} {now : Int} {policy : RetentionPolicy} {m : Month}
    (h : (s.cleanup now policy).1.hasMonth m = true) : s.hasMonth m = true := by
  unfold hasMonth at *
  rw [table?_cleanup, table?_pruneRaw] at h
  split at h
  · exact h
  · split at h
    · exact isSome_of_prunedTable h
    · exact h

theorem keptSummaries_keptSummaries {span : Span} (first : Int) (table : List (Summary α span)) :
    keptSummaries first (keptSummaries first table) = keptSummaries first table := by
  simp [keptSummaries, List.filter_filter]

theorem Holds.pruneRaw_again (h : s.Holds rows) (ht : s.summaries = some tables) (now : Int)
    (policy : RetentionPolicy) :
    Store.pruneRaw (cutoff now policy.rawDays) (s.cleanup now policy).1 {} =
      ((s.cleanup now policy).1, { failures := (s.cleanup now policy).2.failures }) := by
  cases hc : Month.containing? (cutoff now policy.rawDays) with
  | none =>
    rw [(rawUncut_cleanup ht hc).failures]
    unfold Store.pruneRaw
    rw [hc]
  | some c =>
    have hcut := h.rawCut_cleanup hc ht
    have hafter := h.cleanup now policy
    rw [hcut.failures]
    refine pruneRaw_settled hc (fun m hm => ?_) hafter.isIntact_of_mem_listed (fun r hr => ?_) {}
    · -- what is listed was listed before, and has not been dropped
      obtain ⟨hsome, hyear⟩ := hafter.mem_listed_iff.mp hm
      have hm₀ := h.mem_listed_iff.mpr ⟨hasMonth_of_cleanup hsome, hyear⟩
      exact (h.hasMonth_cleanup hc hm₀).mp hsome
    · rw [hcut.rows] at hr
      exact of_decide_eq_true (List.mem_filter.mp hr).2

/-- **A second cleanup removes nothing.** -/
theorem Holds.cleanup_again (h : s.Holds rows) (ht : s.summaries = some tables) (now : Int)
    (policy : RetentionPolicy) :
    (s.cleanup now policy).1.cleanup now policy =
      ((s.cleanup now policy).1, { failures := (s.cleanup now policy).2.failures }) := by
  have ht₁ := cleanup_summaries ht now policy
  rw [cleanup_eq ht₁, h.pruneRaw_again ht]
  simp only [keptSummaries_keptSummaries, Nat.sub_self, ← ht₁]

/-! ### Which tables there are -/

/-- Whether all tables of a store were there, or are of the months of some instants. -/
def AddsTables (instants : List Int) (s s' : Store α) : Prop :=
  ∀ m, s'.hasMonth m = true →
    s.hasMonth m = true ∨ ∃ ts ∈ instants, Month.containing? ts = some m

theorem addsTables_of_months {s s' : Store α} (h : s'.months = s.months) (instants : List Int) :
    AddsTables instants s s' := by
  intro m hm
  unfold hasMonth Store.table? at *
  rw [h] at hm
  exact .inl hm

theorem AddsTables.trans {s s₁ s₂ : Store α} {instants instants' : List Int}
    (h : AddsTables instants s s₁) (h' : AddsTables instants' s₁ s₂) :
    AddsTables (instants ++ instants') s s₂ := by
  intro m hm
  rcases h' m hm with hm | ⟨ts, hts, hc⟩
  · rcases h m hm with hm | ⟨ts, hts, hc⟩
    · exact .inl hm
    · exact .inr ⟨ts, List.mem_append_left _ hts, hc⟩
  · exact .inr ⟨ts, List.mem_append_right _ hts, hc⟩

theorem addsTables_setTable {s : Store α} {ts : Int} {m : Month}
    (h : Month.containing? ts = some m) (t : MonthTable α) :
    AddsTables [ts] s (s.setTable m t) := by
  intro k hk
  unfold hasMonth at *
  rw [table?_setTable] at hk
  split at hk
  · next heq => exact .inr ⟨ts, List.mem_singleton_self ts, heq ▸ h⟩
  · exact .inl hk

theorem addsTables_ensure {s s' : Store α} {ts : Int} {m : Month}
    (h : Month.containing? ts = some m) (he : s.ensure m = .ok s') : AddsTables [ts] s s' := by
  unfold ensure at he
  split at he
  · obtain rfl := Except.ok.inj he
    exact addsTables_of_months rfl _
  · split at he
    · cases he
    · split at he
      · cases he
      · obtain rfl := Except.ok.inj he
        exact addsTables_of_months rfl _
      · obtain rfl := Except.ok.inj he
        exact addsTables_setTable h _

section Runs

variable [Gauge α]

theorem addsTables_save (s : Store α) (r : Record α) :
    AddsTables [r.timestamp] s (s.save r).1 := by
  unfold save
  split
  · exact addsTables_of_months rfl _
  · next m hm =>
    split
    · exact addsTables_of_months rfl _
    · next s₁ he =>
      have hensure := addsTables_ensure hm he
      split
      · exact hensure
      · next s₂ ha =>
        intro k hk
        refine hensure k ?_
        -- a row is appended to a table that is there
        unfold append at ha
        split at ha
        · next rs r' ht hr =>
          obtain rfl := Except.ok.inj ha
          unfold hasMonth at *
          rw [table?_setTable] at hk
          split at hk
          · next heq => rw [heq, ht]; rfl
          · exact hk
        · cases ha

theorem addsTables_saveAll : ∀ (rs : List (Record α)) (s : Store α),
    AddsTables (rs.map Record.timestamp) s (s.saveAll rs).1
  | [], _ => addsTables_of_months rfl _
  | r :: rs, s => by
    rw [saveAll_fst, List.foldl_cons, ← saveAll_fst]
    exact (addsTables_save s r).trans (addsTables_saveAll rs _)

theorem addsTables_rollupHour (s : Store α) (start : Int) (instants : List Int) :
    AddsTables instants s (s.step (.rollupHour start)) := by
  obtain ⟨tables, hroll⟩ := step_rollupHour_eq s start
  rw [hroll]
  exact addsTables_of_months rfl _

theorem addsTables_rollupDay (s : Store α) (start : Int) (instants : List Int) :
    AddsTables instants s (s.step (.rollupDay start)) := by
  obtain ⟨tables, hroll⟩ := step_rollupDay_eq s start
  rw [hroll]
  exact addsTables_of_months rfl _

/-- An operation creates tables of the months that it sees to alone. -/
theorem addsTables_step (s : Store α) (op : Operation α) :
    AddsTables op.instants s (s.step op) := by
  cases op with
  | save r => exact addsTables_save s r
  | saveAll rs => exact addsTables_saveAll rs s
  | range | aggregated | hourly | daily | listed | hasMonth | vacuum | reconnect |
      createSummaries => exact addsTables_of_months rfl _
  | rollupHour start => exact addsTables_rollupHour s start _
  | rollupDay start => exact addsTables_rollupDay s start _
  | rollupPreviousHour now =>
    rw [step_rollupPreviousHour]
    exact addsTables_rollupHour s _ _
  | cleanup now policy => exact fun m hm => .inl (hasMonth_of_cleanup hm)
  | cleanupCycle now policy vacuumAfter =>
    rw [step_cleanupCycle]
    exact fun m hm => addsTables_rollupDay s _ _ m (hasMonth_of_cleanup hm)
  | setUp now =>
    rw [step_setUp]
    split
    · next s₁ hs =>
      unfold setUp at hs
      split at hs
      · cases hs
      · next m hm => exact addsTables_ensure (s := s.createSummaries) hm hs
    · exact addsTables_of_months rfl _

/-- **Every table is of a month that the run named.** -/
theorem addsTables_run : ∀ (ops : List (Operation α)) (s : Store α),
    AddsTables (ops.flatMap Operation.instants) s (s.run ops)
  | [], _ => addsTables_of_months rfl _
  | op :: ops, s => by
    rw [run_cons, List.flatMap_cons]
    exact (addsTables_step s op).trans (addsTables_run ops (s.step op))

/-! ### Any run -/

/-- **Retention is exact.** After any run of a store that is empty at first, accepts rows of
four-digit years only and has its tables of summaries, for any policy and time: a cleanup takes the
rows before its raw cutoff, and none if no month can be reckoned for that; it drops the tables up to
the year 9999 that end by the start of the cutoff's month, and no others; it takes the summaries
before their cutoffs in any case; it counts what it takes, and done again it takes nothing. The
tables of later years have no rows, and the run created them for instants in their months. -/
theorem cleanup_exact (ops : List (Operation α))
    (hy : ∀ r ∈ ({} : Store α).acceptedIn ops, Month.FourDigitYear r.timestamp)
    {tables : Summaries α} (ht : (({} : Store α).run ops).summaries = some tables) (now : Int)
    (policy : RetentionPolicy) :
    let s := ({} : Store α).run ops
    let after := (s.cleanup now policy).1
    let report := (s.cleanup now policy).2
    let first := cutoff now policy.rawDays
    (∀ c, Month.containing? first = some c → RawCut first c s after report) ∧
    (Month.containing? first = none → RawUncut s after report) ∧
    SummariesCut (cutoff now policy.hourlyDays) (cutoff now policy.dailyDays) tables after report ∧
    after.cleanup now policy = (after, { failures := report.failures }) ∧
    (∀ m, m ∈ s.listed ↔ s.hasMonth m = true ∧ m.year ≤ 9999) ∧
    ∀ m, s.hasMonth m = true → 9999 < m.year →
      s.rowsIn m = [] ∧ ∃ op ∈ ops, ∃ ts ∈ op.instants, Month.containing? ts = some m := by
  intro s after report first
  have h : s.Holds (({} : Store α).kept ops) := holds_empty.run ops hy
  refine ⟨fun c hc => h.rawCut_cleanup hc ht, rawUncut_cleanup ht,
    summariesCut_cleanup ht now policy, h.cleanup_again ht now policy,
    fun m => h.mem_listed_iff, fun m hm hyear => ?_⟩
  have hunlisted : m ∉ s.listed := fun hlisted => by
    have hle := (h.mem_listed_iff.mp hlisted).2
    omega
  rcases addsTables_run ops {} m hm with hnone | ⟨ts, hts, hc⟩
  · cases hnone
  · obtain ⟨op, hop, hts⟩ := List.mem_flatMap.mp hts
    exact ⟨h.rowsIn_of_not_mem_listed hunlisted, op, hop, ts, hts, hc⟩

/-- Rows on both sides of two turns of months and of a raw cutoff, and summaries on both sides of
theirs. -/
def aroundCutoffs : List (Operation Float) :=
  [.createSummaries,
    .saveAll ([1704067199999, 1706745599999, 1706745600000, 1706831999999, 1706832000000,
      1709251200000].map fun ts => .uniform "a" ts 1.5 7),
    .rollupHour 1706742000000, .rollupHour 1706745600000, .rollupHour 1706832000000,
    .rollupDay 1706745600000, .rollupDay 1706832000000]

theorem cleanup_exact_aroundCutoffs :
    let s := ({} : Store Float).run aroundCutoffs
    let after := (s.cleanup 1706918400000 ⟨1, 2, 1⟩).1
    let report := (s.cleanup 1706918400000 ⟨1, 2, 1⟩).2
    ((∀ r ∈ ({} : Store Float).acceptedIn aroundCutoffs, Month.FourDigitYear r.timestamp) ∧
      s.summaries.isSome = true) ∧
    (report.monthsDropped = 2 ∧ report.rawRowsDeleted = 2 ∧ report.hourlyRowsDeleted = 1 ∧
      report.dailyRowsDeleted = 1 ∧ report.failures = 0) ∧
    (after.rowsIn ⟨2024, 2⟩).length = 1 ∧
    (after.cleanup 1706918400000 ⟨1, 2, 1⟩).2 = {} := by
  intro s after report
  have hy : ∀ r ∈ ({} : Store Float).acceptedIn aroundCutoffs, Month.FourDigitYear r.timestamp := by
    decide +kernel
  obtain ⟨hsome, hdropped, hdeleted, hhours, hdays, hleft⟩ : s.summaries.isSome = true ∧
      (s.expired ⟨2024, 2⟩).card = 2 ∧
      ((s.rowsIn ⟨2024, 2⟩).countP fun r => decide (r.timestamp < cutoff 1706918400000 1)) = 2 ∧
      ((s.summaries.getD {}).hourly.countP fun h => decide (h.start < cutoff 1706918400000 2)) = 1 ∧
      ((s.summaries.getD {}).daily.countP fun d => decide (d.start < cutoff 1706918400000 1)) = 1 ∧
      ((s.rowsIn ⟨2024, 2⟩).filter fun r =>
        decide (cutoff 1706918400000 1 ≤ r.timestamp)).length = 1 := by
    decide +kernel
  have ht : s.summaries = some (s.summaries.getD {}) := by
    obtain ⟨tables, ht⟩ := Option.isSome_iff_exists.mp hsome
    rw [ht]
    rfl
  obtain ⟨hraw, -, hsummaries, hagain, -⟩ :=
    cleanup_exact aroundCutoffs hy ht 1706918400000 ⟨1, 2, 1⟩
  have hcut := hraw ⟨2024, 2⟩ (by decide +kernel)
  refine ⟨⟨hy, hsome⟩, ⟨hcut.monthsDropped.trans hdropped, hcut.rawRowsDeleted.trans hdeleted,
    hsummaries.hourlyRowsDeleted.trans hhours, hsummaries.dailyRowsDeleted.trans hdays,
    hcut.failures⟩, ?_, ?_⟩
  · rw [hcut.rows]
    exact hleft
  · rw [hagain, hcut.failures]

/-- A row of the year 10000 with a reading that is no number: its table is created, and the row is
refused. -/
def refusedFarRow : List (Operation Float) :=
  [.createSummaries, .save (.uniform "a" 253402300800000 (0.0 / 0.0) 7)]

/-- **A table beyond the year 9999 outlasts every cutoff**: it ends before the month of the cutoff,
but its name is not recognised, so that it is neither counted nor dropped. -/
theorem cleanup_passes_farTable :
    let s := ({} : Store Float).run refusedFarRow
    let after := (s.cleanup 569000000000000 ⟨30, 30, 30⟩).1
    let report := (s.cleanup 569000000000000 ⟨30, 30, 30⟩).2
    let c : Month := ⟨20000, 10⟩
    ((∀ r ∈ ({} : Store Float).acceptedIn refusedFarRow, Month.FourDigitYear r.timestamp) ∧
      s.summaries.isSome = true ∧ ∀ m ∈ s.tableMonths, s.rowsIn m = []) ∧
    Month.containing? (cutoff 569000000000000 30) = some c ∧
    (s.tableMonths.filter fun m => m.stop ≤ c.start) = {⟨10000, 1⟩} ∧
    report.monthsDropped ≠ (s.tableMonths.filter fun m => m.stop ≤ c.start).card ∧
    report = {} ∧ after.hasMonth ⟨10000, 1⟩ = true := by
  decide +kernel

end Runs

end Store
end FleetTelemetry

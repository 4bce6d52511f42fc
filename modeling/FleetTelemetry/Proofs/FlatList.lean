/-
# A store reads like one flat list

Behind the tables of the months, their names, the windows and the cleanups that
drop whole months there is one flat list: the rows that the saves of a run
accepted and that no later cleanup took (`Store.Holds.run`). A range query reads
it with a filter and a stable sort (`Store.range_run`), over any run and for any
window. With a limit it reads each month of the rows that it wants in this way
(`Store.Holds.range_limited`).

Key definitions: `Store.wanted`, `Store.monthsOf`.
Key theorems: `Store.Holds.step`, `Store.Holds.run`, `Store.Holds.range`,
`Store.Holds.range_limited`, `Store.range_run`.
-/
import FleetTelemetry.Proofs.Months
import Mathlib.Data.List.Induction
import Mathlib.Data.List.Sort

namespace FleetTelemetry
namespace Store

variable {α : Type} [Gauge α]

/-! ### Operations that write summaries only -/

theorem putHourly_eq {s s' : Store α} {summary : Summary α .hour}
    (h : s.putHourly summary = .ok s') : ∃ tables, s' = { s with summaries := tables } := by
  unfold putHourly at h
  split at h
  · exact ⟨_, (Except.ok.inj h).symm⟩
  · cases h

theorem putDaily_eq {s s' : Store α} {summary : Summary α .day}
    (h : s.putDaily summary = .ok s') : ∃ tables, s' = { s with summaries := tables } := by
  unfold putDaily at h
  split at h
  · exact ⟨_, (Except.ok.inj h).symm⟩
  · cases h

omit [Gauge α] in
/-- Writing summaries in turn keeps what writing each of them keeps. -/
theorem rollupEach_induction {P : Store α → Prop}
    {summarise : Store α → String → Option (Except StoreError (Store α))}
    (hs : ∀ s a s', P s → summarise s a = some (.ok s') → P s') :
    ∀ (agents : List String) (s : Store α) (report : RollupReport), P s →
      P (rollupEach summarise agents s report).1
  | [], _, _, h => h
  | a :: agents, s, report, h => by
    unfold rollupEach
    split
    · exact rollupEach_induction hs agents s _ h
    · next s' hok => exact rollupEach_induction hs agents s' _ (hs s a s' h hok)
    · exact rollupEach_induction hs agents s _ h

omit [Gauge α] in
theorem rollupEach_eq {summarise : Store α → String → Option (Except StoreError (Store α))}
    (hs : ∀ s a s', summarise s a = some (.ok s') → ∃ tables, s' = { s with summaries := tables })
    (agents : List String) (s : Store α) (report : RollupReport) :
    ∃ tables, (rollupEach summarise agents s report).1 = { s with summaries := tables } := by
  refine rollupEach_induction (P := fun s' => ∃ tables, s' = { s with summaries := tables })
    (fun s₁ a s₂ h₁ h₂ => ?_) agents s report ⟨s.summaries, rfl⟩
  obtain ⟨_, rfl⟩ := h₁
  obtain ⟨tables, rfl⟩ := hs _ a s₂ h₂
  exact ⟨tables, rfl⟩

theorem rollupHour_eq {s s' : Store α} {start : Int} {report : RollupReport}
    (h : s.rollupHour start = .ok (s', report)) :
    ∃ tables, s' = { s with summaries := tables } := by
  unfold rollupHour at h
  split at h
  · cases h
  · rw [← show _ = s' from congrArg Prod.fst (Except.ok.inj h)]
    refine rollupEach_eq (fun s₁ a s₂ h₂ => ?_) _ s _
    obtain ⟨summary, -, hput⟩ := Option.map_eq_some_iff.mp h₂
    exact putHourly_eq hput

theorem rollupDay_eq {s s' : Store α} {start : Int} {report : RollupReport}
    (h : s.rollupDay start = .ok (s', report)) :
    ∃ tables, s' = { s with summaries := tables } := by
  unfold rollupDay at h
  split at h
  · cases h
  · rw [← show _ = s' from congrArg Prod.fst (Except.ok.inj h)]
    refine rollupEach_eq (fun s₁ a s₂ h₂ => ?_) _ s _
    obtain ⟨summary, -, hput⟩ := Option.map_eq_some_iff.mp h₂
    exact putDaily_eq hput

/-- The rollup of an hour writes summaries only. -/
theorem step_rollupHour_eq (s : Store α) (start : Int) :
    ∃ tables, s.step (.rollupHour start) = { s with summaries := tables } := by
  rw [step_rollupHour]
  split
  · next hr => exact rollupHour_eq hr
  · exact ⟨s.summaries, rfl⟩

theorem step_rollupDay_eq (s : Store α) (start : Int) :
    ∃ tables, s.step (.rollupDay start) = { s with summaries := tables } := by
  rw [step_rollupDay]
  split
  · next hr => exact rollupDay_eq hr
  · exact ⟨s.summaries, rfl⟩

omit [Gauge α] in
theorem pruneSummaries_eq (firstHour firstDay : Int) (s : Store α) (report : CleanupReport) :
    ∃ tables,
      (pruneSummaries firstHour firstDay s report).1 = { s with summaries := tables } := by
  unfold pruneSummaries
  split
  · exact ⟨s.summaries, rfl⟩
  · exact ⟨_, rfl⟩

/-! ### One operation -/

omit [Gauge α] in
theorem Holds.filter_true {s : Store α} {rows : List (Record α)} (h : s.Holds rows) :
    s.Holds (rows.filter (fun _ => true) ++ []) := by
  rw [List.filter_true, List.append_nil]
  exact h

theorem Holds.rollupHour {s : Store α} {rows : List (Record α)} (h : s.Holds rows) (start : Int) :
    (s.step (.rollupHour start)).Holds rows := by
  obtain ⟨tables, hroll⟩ := step_rollupHour_eq s start
  rw [hroll]
  exact h.withSummaries tables

theorem Holds.rollupDay {s : Store α} {rows : List (Record α)} (h : s.Holds rows) (start : Int) :
    (s.step (.rollupDay start)).Holds rows := by
  obtain ⟨tables, hroll⟩ := step_rollupDay_eq s start
  rw [hroll]
  exact h.withSummaries tables

omit [Gauge α] in
theorem Holds.cleanup {s : Store α} {rows : List (Record α)} (h : s.Holds rows) (now : Int)
    (policy : RetentionPolicy) :
    (s.cleanup now policy).1.Holds (rows.filter (Operation.cleanup now policy).spares) := by
  have hp := h.pruneRaw (cutoff now policy.rawDays) {}
  obtain ⟨tables, ht⟩ := pruneSummaries_eq (cutoff now policy.hourlyDays)
    (cutoff now policy.dailyDays) (Store.pruneRaw (cutoff now policy.rawDays) s {}).1
    (Store.pruneRaw (cutoff now policy.rawDays) s {}).2
  have hc := hp.withSummaries tables
  rw [← ht] at hc
  exact hc

omit [Gauge α] in
theorem Holds.setUp {s s' : Store α} {rows : List (Record α)} (h : s.Holds rows) {now : Int}
    (hs : s.setUp now = .ok s') : s'.Holds rows := by
  have hc : s.createSummaries.Holds rows := h.withSummaries _
  unfold Store.setUp at hs
  split at hs
  · cases hs
  · next m hm =>
    rcases hc.ensure (Month.containing?_eq_some_iff.mp hm).1.1 with ⟨e, he, -⟩ | ⟨s₁, he, h₁, -⟩
    · rw [he] at hs
      cases hs
    · rw [he] at hs
      obtain rfl := Except.ok.inj hs
      exact h₁

/-- An operation takes what it does not spare and adds what it accepts. -/
theorem Holds.step {s : Store α} {rows : List (Record α)} (h : s.Holds rows) (op : Operation α)
    (hy : ∀ r ∈ s.accepted op, Month.FourDigitYear r.timestamp) :
    (s.step op).Holds (rows.filter op.spares ++ s.accepted op) := by
  cases op with
  | save r =>
    show (s.save r).1.Holds (rows.filter (fun _ => true) ++ s.taken [r])
    rw [List.filter_true, ← saveAll_singleton]
    exact h.saveAll hy
  | saveAll rs =>
    show (s.saveAll rs).1.Holds (rows.filter (fun _ => true) ++ s.taken rs)
    rw [List.filter_true]
    exact h.saveAll hy
  | range | aggregated | hourly | daily | listed | hasMonth | vacuum => exact h.filter_true
  | rollupHour start => exact (h.rollupHour start).filter_true
  | rollupDay start => exact (h.rollupDay start).filter_true
  | rollupPreviousHour now =>
    rw [step_rollupPreviousHour]
    exact (h.rollupHour _).filter_true
  | cleanup now policy =>
    show (s.cleanup now policy).1.Holds (_ ++ [])
    rw [List.append_nil]
    exact h.cleanup now policy
  | cleanupCycle now policy vacuumAfter =>
    rw [step_cleanupCycle]
    show Holds _ (_ ++ [])
    rw [List.append_nil]
    exact (h.rollupDay _).cleanup now policy
  | reconnect => exact Holds.filter_true (h.congr rfl fun _ hm => by cases hm)
  | createSummaries => exact (h.withSummaries _).filter_true
  | setUp now =>
    refine Holds.filter_true ?_
    rw [step_setUp]
    split
    · next hs => exact h.setUp hs
    · exact h.withSummaries _

/-! ### Runs -/

/-- After a run a store holds what was accepted and not taken later. -/
theorem Holds.run {s : Store α} (h : s.Holds []) (ops : List (Operation α))
    (hy : ∀ r ∈ s.acceptedIn ops, Month.FourDigitYear r.timestamp) :
    (s.run ops).Holds (s.kept ops) := by
  induction ops using List.reverseRecOn with
  | nil => exact h
  | append_singleton ops op ih =>
    rw [acceptedIn_concat] at hy
    have hr := (ih fun r hr => hy r (List.mem_append_left _ hr)).step op fun r hr =>
      hy r (List.mem_append_right _ hr)
    rw [kept_concat, run_append]
    exact hr

omit [Gauge α] in
theorem inWindow_ascending (s : Store α) (first last : Int) :
    (Month.inWindow s.listed first last).Pairwise (· < ·) := by
  unfold Month.inWindow
  split
  · exact .nil
  · exact s.listed_pairwise.filter _

omit [Gauge α] in
/-- The months of a window lie one before the other. -/
theorem inWindow_pairwise (s : Store α) (first last : Int) :
    (Month.inWindow s.listed first last).Pairwise fun m n => ∀ a b : Record α,
      belongs m a = true → belongs n b = true → a.timestamp < b.timestamp :=
  (s.inWindow_ascending first last).imp fun hlt _ _ => belongs_lt hlt

/-- Ascending months give the same if they differ only in months that give nothing. -/
theorem flatMap_months {β : Type} {f : Month → List β} {ms ms' : List Month}
    (h : ms.Pairwise (· < ·)) (h' : ms'.Pairwise (· < ·))
    (hmem : ∀ m, f m ≠ [] → (m ∈ ms ↔ m ∈ ms')) : ms.flatMap f = ms'.flatMap f := by
  have hfilter : ∀ ns : List Month,
      ns.flatMap f = (ns.filter fun m => !(f m).isEmpty).flatMap f := by
    intro ns
    induction ns with
    | nil => rfl
    | cons n ns ih => cases hn : f n <;> simp [hn, ih]
  have hsame : (ms.filter fun m => !(f m).isEmpty) = ms'.filter fun m => !(f m).isEmpty := by
    refine (h.filter _).eq_of_mem_iff (h'.filter _) fun m => ?_
    simp only [List.mem_filter, Bool.not_eq_true', List.isEmpty_eq_false_iff]
    exact and_congr_left fun hne => hmem m hne
  rw [hfilter ms, hsame, ← hfilter]

omit [Gauge α] in
theorem limited_nil (limit : Nat) : limited limit ([] : List (Record α)) = [] := by
  unfold limited
  split
  · rfl
  · exact List.take_nil

omit [Gauge α] in
theorem Holds.table?_of_mem_inWindow {s : Store α} {rows : List (Record α)} (h : s.Holds rows)
    {first last : Int} {m : Month} (hm : m ∈ Month.inWindow s.listed first last) :
    s.table? m = some (.rows (rows.filter (belongs m))) := by
  have hl : m ∈ s.listed := by
    unfold Month.inWindow at hm
    split at hm
    · cases hm
    · exact (List.mem_filter.mp hm).1
  rw [h.table? (h.mem_listed_iff.mp hl).1, h.rowsIn]

omit [Gauge α] in
theorem Holds.exists_mem_inWindow {s : Store α} {rows : List (Record α)} (h : s.Holds rows)
    {first last : Int} {r : Record α} (hr : r ∈ rows) (hw : within first last r.timestamp = true) :
    ∃ m ∈ Month.inWindow s.listed first last, belongs m r = true := by
  obtain ⟨m, hm, hb⟩ := h.mem_listed hr
  simp only [within, Bool.and_eq_true, decide_eq_true_eq] at hw
  refine ⟨m, ?_, hb⟩
  rw [Month.inWindow, if_neg (by omega)]
  exact List.mem_filter.mpr
    ⟨hm, Month.overlaps_of_containing? (of_decide_eq_true hb) hw.1 hw.2⟩

/-- The rows of an agent in a window. -/
def wanted (agentId : String) (first last : Int) (rows : List (Record α)) : List (Record α) :=
  rows.filter fun r => r.agentId == agentId && within first last r.timestamp

/-- The months of some rows, ascending. -/
def monthsOf (rows : List (Record α)) : List Month :=
  Ascending.ofList (rows.filterMap fun r => Month.containing? r.timestamp)

omit [Gauge α] in
theorem mem_monthsOf {m : Month} {rows : List (Record α)} :
    m ∈ monthsOf rows ↔ ∃ r ∈ rows, belongs m r = true := by
  simp only [monthsOf, Ascending.mem_ofList, List.mem_filterMap, belongs, decide_eq_true_eq]

omit [Gauge α] in
theorem monthsOf_ascending (rows : List (Record α)) : (monthsOf rows).Pairwise (· < ·) :=
  Ascending.pairwise_ofList (fun _ _ _ => Month.lt_trans) Month.lt_trichotomy _

omit [Gauge α] in
/-- Every month of a window gives its own part of the wanted rows. -/
theorem Holds.range_eq_flatMap {s : Store α} {rows : List (Record α)} (h : s.Holds rows)
    (agentId : String) (first last : Int) (limit : Nat) :
    s.range agentId first last limit =
      (Month.inWindow s.listed first last).flatMap fun m =>
        limited limit (Record.inOrder ((wanted agentId first last rows).filter (belongs m))) := by
  refine List.flatMap_congr fun m hm => congrArg (limited limit) ?_
  rw [monthRange, h.table?_of_mem_inWindow hm]
  refine congrArg Record.inOrder ?_
  rw [wanted, List.filter_filter, List.filter_filter]
  simp only [Bool.and_comm]

omit [Gauge α] in
theorem Holds.exists_mem_inWindow_of_wanted {s : Store α} {rows : List (Record α)}
    (h : s.Holds rows) {agentId : String} {first last : Int} {r : Record α}
    (hr : r ∈ wanted agentId first last rows) :
    ∃ m ∈ Month.inWindow s.listed first last, belongs m r = true := by
  obtain ⟨hr, hw⟩ := List.mem_filter.mp hr
  exact h.exists_mem_inWindow hr (Bool.and_eq_true_iff.mp hw).2

omit [Gauge α] in
/-- A range query filters and sorts the list. -/
theorem Holds.range {s : Store α} {rows : List (Record α)} (h : s.Holds rows) (agentId : String)
    (first last : Int) :
    s.range agentId first last 0 =
      Record.inOrder
        (rows.filter fun r => r.agentId == agentId && within first last r.timestamp) := by
  rw [h.range_eq_flatMap]
  simp only [limited, if_true]
  exact StableOrder.flatMap_sort_of_forall (s.inWindow_pairwise first last) fun _ =>
    h.exists_mem_inWindow_of_wanted

omit [Gauge α] in
/-- With a limit it does so with each month of the wanted rows, whatever other months there are. -/
theorem Holds.range_limited {s : Store α} {rows : List (Record α)} (h : s.Holds rows)
    (agentId : String) (first last : Int) (limit : Nat) :
    s.range agentId first last limit =
      (monthsOf (wanted agentId first last rows)).flatMap fun m =>
        limited limit (Record.inOrder ((wanted agentId first last rows).filter (belongs m))) := by
  rw [h.range_eq_flatMap]
  refine flatMap_months (s.inWindow_ascending first last) (monthsOf_ascending _) fun m hne => ?_
  -- a month that gives something has one of the wanted rows
  obtain ⟨r, hr, hb⟩ : ∃ r ∈ wanted agentId first last rows, belongs m r = true := by
    by_contra hnone
    have hnil : (wanted agentId first last rows).filter (belongs m) = [] :=
      List.filter_eq_nil_iff.mpr fun r hr hb => hnone ⟨r, hr, hb⟩
    rw [hnil] at hne
    exact hne (limited_nil limit)
  obtain ⟨m', hm', hb'⟩ := h.exists_mem_inWindow_of_wanted hr
  exact iff_of_true (belongs_unique hb hb' ▸ hm') (mem_monthsOf.mpr ⟨r, hr, hb⟩)

/-- **A range query reads one flat list.** After any run of a store that is empty at first and
accepts rows of four-digit years only, a query for an agent and a window gives the rows of both that
were accepted and that no later cleanup took: each once, ascending, those of one instant in the
order in which they were saved, as they are read back. Every further row of such a year is accepted
that can be stored. -/
theorem range_run (ops : List (Operation α))
    (hy : ∀ r ∈ ({} : Store α).acceptedIn ops, Month.FourDigitYear r.timestamp) :
    (∀ (agentId : String) (first last : Int),
      (({} : Store α).run ops).range agentId first last 0 =
        Record.inOrder ((({} : Store α).kept ops).filter fun r =>
          r.agentId == agentId && within first last r.timestamp)) ∧
    ∀ r : Record α, Month.FourDigitYear r.timestamp →
      ({} : Store α).acceptedIn (ops ++ [.save r]) =
        ({} : Store α).acceptedIn ops ++ r.stored?.toList := by
  have h := holds_empty.run ops hy
  refine ⟨fun agentId first last => h.range agentId first last, fun r hr => ?_⟩
  rw [acceptedIn_concat]
  refine congrArg (_ ++ ·) ((h.taken_eq [r] fun r' hr' => ?_).trans ?_)
  · rw [List.mem_singleton.mp hr']
    exact hr
  · cases h : r.stored? with
    | none => rw [List.filterMap_cons_none h]; rfl
    | some r' => rw [List.filterMap_cons_some h]; rfl

/-- Rows around the turn of a month: late ones, two of one instant, one without a reading, and a
cleanup that drops the month before. -/
def turnOfMonth : List (Operation Float) :=
  [.save (.uniform "a" 1706745600000 1.5 7),
    .saveAll [.uniform "a" 1706745599999 2.0 5, .uniform "b" 1706745599999 2.0 1],
    .cleanup 1706832000000 ⟨1, 1, 1⟩,
    .reconnect,
    .save (.uniform "a" 1706745599999 (0.0 / 0.0) 3),
    .saveAll [.uniform "a" 1706745600000 (-0.0) 18446744073709551615,
      .uniform "a" 1706745599999 3.0 9]]

theorem range_run_turnOfMonth :
    (∀ r ∈ ({} : Store Float).acceptedIn turnOfMonth, Month.FourDigitYear r.timestamp) ∧
    (({} : Store Float).run turnOfMonth).range "a" 1706745599999 1706745600000 0 =
      [.uniform "a" 1706745599999 3.0 9, .uniform "a" 1706745600000 1.5 7,
        .uniform "a" 1706745600000 0.0 18446744073709551615] := by
  have hy : ∀ r ∈ ({} : Store Float).acceptedIn turnOfMonth,
      Month.FourDigitYear r.timestamp := by decide +kernel
  refine ⟨hy, ?_⟩
  rw [(range_run turnOfMonth hy).1]
  decide +kernel

end Store
end FleetTelemetry

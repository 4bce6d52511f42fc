/-
# Tables that only the store writes

Where nobody else writes the database, each of its raw tables is one of rows, bears
the name of a month of the calendar in a year that is not negative, and is there if
its month is remembered. Every operation keeps that, whatever the years of the rows
(`Store.Proper.step`). A store of such tables is known from the rows in each of
them, and a save has one way with it (`Store.Proper.entered`): the table of the
row's month is there afterwards, with the row at its end if the row was admitted.

Key definitions: `Store.Proper`, `Store.admitted`, `Store.Saved`, `Store.Entered`.
Key theorems: `Store.Proper.ensure_cases`, `Store.Proper.entered`,
`Store.Proper.step`, `Store.Proper.run`, `Store.Proper.mem_listed_iff`,
`Store.Proper.rowsBetween_eq`.
-/
import FleetTelemetry.Proofs.CleanupCycle
import FleetTelemetry.Proofs.EnsuredMonths
import FleetTelemetry.Proofs.Rollup

namespace FleetTelemetry
namespace Store

variable {α : Type}

/-- The raw tables are those of months and have rows, and each month that is remembered has one. -/
structure Proper (s : Store α) : Prop where
  mindful : s.Mindful
  tables : ∀ m t, s.table? m = some t → m.Valid ∧ 0 ≤ m.year ∧ ∃ rs, t = .rows rs

theorem proper_empty : ({} : Store α).Proper where
  mindful _ hm := by cases hm
  tables _ _ ht := by cases ht

/-- A store that holds a flat list of rows has such tables. -/
theorem Holds.proper {s : Store α} {rows : List (Record α)} (h : s.Holds rows) : s.Proper where
  mindful m hm := ⟨(h.named m (h.ensured m hm)).2, _, h.table? (h.ensured m hm)⟩
  tables m t ht := by
    have hsome : (s.table? m).isSome = true := by
      rw [ht]
      rfl
    obtain ⟨hv, hy⟩ := h.named m hsome
    exact ⟨hv, hy, _, Option.some.inj (ht.symm.trans (h.table? hsome))⟩

section Views

variable {s : Store α} (h : s.Proper)
include h

/-- A table is known from its rows. -/
theorem Proper.table?_eq {m : Month} (hm : (s.table? m).isSome = true) :
    s.table? m = some (.rows (s.rowsIn m)) := by
  obtain ⟨t, ht⟩ := Option.isSome_iff_exists.mp hm
  obtain ⟨-, -, rs, rfl⟩ := h.tables m t ht
  rw [ht, rowsIn_of_table? ht]

theorem Proper.named (m : Month) (hm : (s.table? m).isSome = true) : m.Valid ∧ 0 ≤ m.year := by
  obtain ⟨hv, hy, -⟩ := h.tables m _ (h.table?_eq hm)
  exact ⟨hv, hy⟩

theorem Proper.mem_listed_iff {m : Month} :
    m ∈ s.listed ↔ (s.table? m).isSome = true ∧ m.year ≤ 9999 :=
  mem_listed_iff_of_named h.named

omit h in
theorem isSome_table?_of_rowsIn {m : Month} (hm : s.rowsIn m ≠ []) :
    (s.table? m).isSome = true := by
  unfold rowsIn at hm
  cases ht : s.table? m with
  | none => exact absurd (by rw [ht]) hm
  | some t => rfl

omit h in
theorem mem_inWindow {ms : List Month} {first last : Int} {m : Month} :
    m ∈ Month.inWindow ms first last ↔
      m ∈ ms ∧ ¬last < first ∧ m.overlaps first last = true := by
  unfold Month.inWindow
  split
  · next hlt => simp [hlt]
  · next hnlt => simp [hnlt]

omit h in
theorem monthRange_eq (agentId : String) (first last : Int) (m : Month) :
    s.monthRange agentId first last m =
      Record.inOrder (wanted agentId first last (s.rowsIn m)) := by
  unfold monthRange rowsIn
  rcases s.table? m with _ | rs | _ <;> rfl

/-- What a rollup reads is there. -/
theorem Proper.rowsBetween_eq (start stop : Int) :
    s.rowsBetween start stop = .ok ((Month.inWindow s.listed start (stop - 1)).flatMap fun m =>
      (s.rowsIn m).filter fun r => within start (stop - 1) r.timestamp) :=
  foldlM_rows start stop _ [] fun _ hm =>
    h.table?_eq (h.mem_listed_iff.mp (mem_inWindow.mp hm).1).1

end Views

/-! ### What is put into the tables -/

/-- Two stores with the same tables are both proper if neither remembers a month in vain. -/
theorem Proper.congr {s s' : Store α} (h : s.Proper) (hmind : s'.Mindful)
    (ht : ∀ m, s'.table? m = s.table? m) : s'.Proper :=
  ⟨hmind, fun m t hm => h.tables m t ((ht m).symm.trans hm)⟩

theorem Proper.of_put {s s' : Store α} (h : s.Proper) (hmind : s'.Mindful) {m : Month}
    (hv : m.Valid) (hy : 0 ≤ m.year) {rs : List (Record α)}
    (ht : ∀ k, s'.table? k = if k = m then some (.rows rs) else s.table? k) : s'.Proper := by
  refine ⟨hmind, fun k t hk => ?_⟩
  rw [ht] at hk
  split at hk
  · next heq => exact heq ▸ ⟨hv, hy, rs, (Option.some.inj hk).symm⟩
  · exact h.tables k t hk

/-- The table of a month of the calendar is seen to, unless its year is negative. -/
theorem Proper.ensure_cases {s : Store α} (h : s.Proper) {m : Month} (hv : m.Valid) :
    (m.year < 0 ∧ s.ensure m = .error .database) ∨
    (0 ≤ m.year ∧ ∃ s', s.ensure m = .ok s' ∧ s'.Proper ∧
      ∀ k, s'.table? k = if k = m then some (.rows (s.rowsIn m)) else s.table? k) := by
  have hkeep : ∀ {s' : Store α} {rs : List (Record α)}, s.table? m = some (.rows rs) →
      (∀ k, s'.table? k = s.table? k) →
      ∀ k, s'.table? k = if k = m then some (.rows (s.rowsIn m)) else s.table? k := by
    intro s' rs ht hsame k
    rw [hsame]
    split
    · next heq => rw [heq, ht, rowsIn_of_table? ht]
    · rfl
  by_cases hm : m ∈ s.ensured
  · obtain ⟨hy, rs, ht⟩ := h.mindful m hm
    exact .inr ⟨hy, s, if_pos hm, h, hkeep ht fun _ => rfl⟩
  · by_cases hneg : m.year < 0
    · exact .inl ⟨hneg, by rw [ensure, if_neg hm, if_pos hneg]⟩
    · have hy : 0 ≤ m.year := by omega
      refine .inr ⟨hy, ?_⟩
      cases ht : s.table? m with
      | none =>
        have hok : s.ensure m =
            .ok { s.setTable m (.rows []) with ensured := m :: s.ensured } := by
          rw [ensure, if_neg hm, if_neg hneg, ht]
        have hempty : s.rowsIn m = [] := by rw [rowsIn, ht]
        have hput : ∀ k, (s.setTable m (.rows [])).table? k =
            if k = m then some (.rows (s.rowsIn m)) else s.table? k := by
          rw [hempty]
          exact fun k => table?_setTable s m k _
        exact ⟨_, hok, h.of_put (h.mindful.ensure hok) hv hy hput, hput⟩
      | some t =>
        obtain ⟨-, -, rs, rfl⟩ := h.tables m t ht
        have hok : s.ensure m = .ok { s with ensured := m :: s.ensured } := by
          rw [ensure, if_neg hm, if_neg hneg, ht]
        exact ⟨_, hok, h.congr (h.mindful.ensure hok) fun _ => rfl, hkeep ht fun _ => rfl⟩

variable [Gauge α]

/-- The row that is written if one of a month is saved. A negative year has no table. -/
def admitted (m : Month) (r : Record α) : Option (Record α) :=
  if m.year < 0 then none else r.stored?

/-- What it is to save a row of a month as usual. -/
structure Saved (m : Month) (r : Record α) (s after : Store α) (outcome : Except StoreError Unit) :
    Prop where
  outcome : outcome = if (admitted m r).isSome then .ok () else .error .database
  rows : ∀ k, after.rowsIn k =
    if k = m then s.rowsIn k ++ (admitted m r).toList else s.rowsIn k
  summaries : after.summaries = s.summaries

/-- What that is in tables that nobody else writes. -/
structure Entered (m : Month) (r : Record α) (s after : Store α)
    (outcome : Except StoreError Unit) : Prop where
  outcome : outcome = if (admitted m r).isSome then .ok () else .error .database
  tables : ∀ k, after.table? k =
    if k = m ∧ 0 ≤ m.year then some (.rows (s.rowsIn m ++ (admitted m r).toList))
    else s.table? k
  summaries : after.summaries = s.summaries

/-- **A save has one way with the tables**: that of the month is there, with the row at its end if
the row was admitted. -/
theorem Proper.entered {s : Store α} (h : s.Proper) {r : Record α} {m : Month}
    (hm : Month.containing? r.timestamp = some m) : Entered m r s (s.save r).1 (s.save r).2 := by
  obtain ⟨hneg, he⟩ | ⟨hy, s₁, he, -, ht₁⟩ :=
    h.ensure_cases (Month.containing?_eq_some_iff.mp hm).1.1
  · have hnone : admitted m r = none := if_pos hneg
    have hsave : s.save r = (s, .error .database) := by simp only [Store.save, hm, he]
    rw [hsave]
    refine ⟨by rw [hnone]; rfl, fun k => ?_, rfl⟩
    rw [if_neg fun hk => by omega]
  · have hadmitted : admitted m r = r.stored? := if_neg (by omega)
    have hm₁ : s₁.table? m = some (.rows (s.rowsIn m)) := by rw [ht₁, if_pos rfl]
    have hsummaries := ensure_summaries he
    cases hr : r.stored? with
    | none =>
      have happend : s₁.append m r = .error .database := by rw [append, hm₁, hr]
      have hsave : s.save r = (s₁, .error .database) := by
        simp only [Store.save, hm, he, happend]
      rw [hsave]
      refine ⟨by rw [hadmitted, hr]; rfl, fun k => ?_, hsummaries⟩
      show s₁.table? k = _
      rw [ht₁, hadmitted, hr, Option.toList_none, List.append_nil]
      by_cases hk : k = m
      · rw [if_pos hk, if_pos ⟨hk, hy⟩]
      · rw [if_neg hk, if_neg fun h => hk h.1]
    | some r' =>
      have happend : s₁.append m r = .ok (s₁.setTable m (.rows (s.rowsIn m ++ [r']))) := by
        rw [append, hm₁, hr]
      have hsave : s.save r = (s₁.setTable m (.rows (s.rowsIn m ++ [r'])), .ok ()) := by
        simp only [Store.save, hm, he, happend]
      rw [hsave]
      refine ⟨by rw [hadmitted, hr]; rfl, fun k => ?_, hsummaries⟩
      show (s₁.setTable m _).table? k = _
      rw [table?_setTable, ht₁, hadmitted, hr]
      by_cases hk : k = m
      · rw [if_pos hk, if_pos ⟨hk, hy⟩]
        rfl
      · rw [if_neg hk, if_neg hk, if_neg fun h => hk h.1]

theorem Entered.saved {s after : Store α} {m : Month} {r : Record α}
    {outcome : Except StoreError Unit} (h : Entered m r s after outcome) :
    Saved m r s after outcome := by
  refine ⟨h.outcome, fun k => ?_, h.summaries⟩
  rw [rowsIn, h.tables]
  by_cases hk : k = m
  · by_cases hy : 0 ≤ m.year
    · rw [if_pos ⟨hk, hy⟩, if_pos hk, hk]
    · have hnone : admitted m r = none := if_pos (by omega)
      rw [if_neg fun h => hy h.2, if_pos hk, hnone, Option.toList_none, List.append_nil]
      rfl
  · rw [if_neg fun h => hk h.1, if_neg hk]
    rfl

/-! ### Operations -/

section Operations

variable {s : Store α} (h : s.Proper)
include h

theorem Proper.save (r : Record α) : (s.save r).1.Proper := by
  cases hm : Month.containing? r.timestamp with
  | none =>
    have hsame : (s.save r).1 = s := by rw [Store.save, hm]
    rwa [hsame]
  | some m =>
    have hentered := h.entered hm
    by_cases hy : 0 ≤ m.year
    · have hput : ∀ k, (s.save r).1.table? k =
          if k = m then some (.rows (s.rowsIn m ++ (admitted m r).toList)) else s.table? k :=
        fun k => (hentered.tables k).trans (if_congr (and_iff_left hy) rfl rfl)
      exact h.of_put (h.mindful.save r) (Month.containing?_eq_some_iff.mp hm).1.1 hy hput
    · refine h.congr (h.mindful.save r) fun k => ?_
      rw [hentered.tables, if_neg fun hk => hy hk.2]

theorem Proper.saveAll (rs : List (Record α)) : (s.saveAll rs).1.Proper := by
  rw [saveAll_fst]
  exact List.foldlRecOn rs _ h fun _ hs r _ => hs.save r

omit [Gauge α] in
theorem Proper.withSummaries (tables : Option (Summaries α)) :
    Proper { s with summaries := tables } :=
  h.congr (h.mindful.withSummaries tables) fun _ => rfl

theorem Proper.rollupHour (start : Int) : (s.step (.rollupHour start)).Proper := by
  obtain ⟨tables, hroll⟩ := step_rollupHour_eq s start
  rw [hroll]
  exact h.withSummaries tables

theorem Proper.rollupDay (start : Int) : (s.step (.rollupDay start)).Proper := by
  obtain ⟨tables, hroll⟩ := step_rollupDay_eq s start
  rw [hroll]
  exact h.withSummaries tables

omit [Gauge α] in
theorem Proper.cleanup (now : Int) (policy : RetentionPolicy) :
    (s.cleanup now policy).1.Proper := by
  refine ⟨h.mindful.cleanup now policy, fun m t hm => ?_⟩
  rw [table?_cleanup, table?_pruneRaw] at hm
  cases hc : Month.containing? (cutoff now policy.rawDays) with
  | none =>
    rw [hc] at hm
    exact h.tables m t hm
  | some c =>
    rw [hc] at hm
    dsimp only at hm
    split at hm
    · have hsome : (prunedTable (cutoff now policy.rawDays) c m (s.table? m)).isSome = true := by
        rw [hm]
        rfl
      obtain ⟨t₀, ht₀⟩ := Option.isSome_iff_exists.mp (isSome_of_prunedTable hsome)
      obtain ⟨hv, hy, rs, rfl⟩ := h.tables m t₀ ht₀
      refine ⟨hv, hy, ?_⟩
      rw [ht₀, prunedTable] at hm
      split at hm
      · cases hm
      · split at hm
        · exact ⟨_, (Option.some.inj hm).symm⟩
        · exact ⟨_, (Option.some.inj hm).symm⟩
    · exact h.tables m t hm

theorem Proper.setUp (now : Int) : (s.step (.setUp now)).Proper := by
  have hcreate : s.createSummaries.Proper := h.withSummaries _
  rw [step_setUp, Store.setUp]
  cases hm : Month.containing? now with
  | none => exact hcreate
  | some m =>
    obtain ⟨-, he⟩ | ⟨-, s', he, hs', -⟩ :=
      hcreate.ensure_cases (Month.containing?_eq_some_iff.mp hm).1.1
    · dsimp only
      rw [he]
      exact hcreate
    · dsimp only
      rw [he]
      exact hs'

/-- **Every operation keeps the tables proper.** -/
theorem Proper.step (op : Operation α) : (s.step op).Proper := by
  cases op with
  | save r => exact h.save r
  | saveAll rs => exact h.saveAll rs
  | range | aggregated | hourly | daily | listed | hasMonth | vacuum => exact h
  | rollupHour start => exact h.rollupHour start
  | rollupDay start => exact h.rollupDay start
  | rollupPreviousHour now =>
    rw [step_rollupPreviousHour]
    exact h.rollupHour _
  | cleanup now policy => exact h.cleanup now policy
  | cleanupCycle now policy vacuumAfter =>
    rw [step_cleanupCycle]
    exact (h.rollupDay _).cleanup now policy
  | reconnect => exact h.congr (mindful_reconnect s) fun _ => rfl
  | createSummaries => exact h.withSummaries _
  | setUp now => exact h.setUp now

end Operations

theorem Proper.run {s : Store α} (h : s.Proper) (ops : List (Operation α)) :
    (s.run ops).Proper :=
  List.foldlRecOn ops _ h fun _ hs op _ => hs.step op

end Store
end FleetTelemetry

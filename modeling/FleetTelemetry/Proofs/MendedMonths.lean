/-
# What the intact months of a store hold

Somebody else may have broken some of the tables. Mended, with an empty table in
the place of each broken one, the store is one that nobody else writes
(`Store.mended`), and nothing that it can do tells the difference outside the
broken months: a row for another month is saved as if they were mended
(`Store.save_mended`), a cleanup leaves what it would leave (`Store.cleanup_mended`).
So the intact tables hold a flat list of rows (`Store.HoldsIntact`), whatever is
done with the store (`Store.HoldsIntact.step`).

Key definitions: `Store.isBroken`, `Store.mended`, `Store.HoldsIntact`.
Key theorems: `Store.save_of_isBroken`, `Store.save_mended`, `Store.cleanup_mended`,
`Store.HoldsIntact.step`.
-/
import FleetTelemetry.Proofs.ExactRetention
import FleetTelemetry.Proofs.Rollup

namespace FleetTelemetry

namespace OrderedMap

variable {κ α β : Type} [DecidableEq κ]

/-- Every value replaced by another one. -/
def mapValues (f : α → β) (m : OrderedMap κ α) : OrderedMap κ β :=
  ⟨m.entries.map fun e => (e.1, f e.2)⟩

omit [DecidableEq κ] in
theorem keys_mapValues (f : α → β) (m : OrderedMap κ α) : (m.mapValues f).keys = m.keys := by
  simp only [keys, mapValues, List.map_map, Function.comp_def]

theorem get?_mapValues (f : α → β) (m : OrderedMap κ α) (k : κ) :
    (m.mapValues f).get? k = (m.get? k).map f :=
  lookup_map_snd f m.entries k

theorem mapValues_insert (f : α → β) (m : OrderedMap κ α) (k : κ) (a : α) :
    (m.insert k a).mapValues f = (m.mapValues f).insert k (f a) := by
  obtain ⟨es⟩ := m
  simp only [insert, upsert, mapValues]
  congr 1
  induction es with
  | nil => rfl
  | cons e es ih =>
    by_cases h : e.1 = k
    · simp [upsertEntry, h]
    · simp [upsertEntry, h, ih]

theorem mapValues_erase (f : α → β) (m : OrderedMap κ α) (k : κ) :
    (m.erase k).mapValues f = (m.mapValues f).erase k := by
  simp only [erase, mapValues, List.filter_map, Function.comp_def]

end OrderedMap

/-- A table of rows as it is, or an empty one for one that is broken. -/
def MonthTable.mended {α : Type} : MonthTable α → MonthTable α
  | .rows rs => .rows rs
  | .broken => .rows []

namespace Store

variable {α : Type}

/-- Whether a month has a table without the columns of a row. -/
def isBroken (s : Store α) (m : Month) : Bool :=
  match s.table? m with
  | some .broken => true
  | _ => false

/-- A store with an empty table in the place of each broken one. -/
def mended (s : Store α) : Store α := { s with months := s.months.mapValues MonthTable.mended }

/-! ### What is left alone -/

@[simp] theorem table?_mended (s : Store α) (m : Month) :
    s.mended.table? m = (s.table? m).map MonthTable.mended :=
  OrderedMap.get?_mapValues ..

@[simp] theorem listed_mended (s : Store α) : s.mended.listed = s.listed := by
  unfold listed mended
  rw [OrderedMap.keys_mapValues]

theorem hasMonth_mended (s : Store α) (m : Month) : s.mended.hasMonth m = s.hasMonth m := by
  simp [hasMonth]

theorem isBroken_iff {s : Store α} {m : Month} :
    s.isBroken m = true ↔ s.table? m = some .broken := by
  unfold isBroken
  rcases s.table? m with _ | rs | _ <;> simp

theorem hasMonth_of_isBroken {s : Store α} {m : Month} (h : s.isBroken m = true) :
    s.hasMonth m = true := by
  rw [hasMonth, isBroken_iff.mp h]
  rfl

theorem table?_mended_of_intact {s : Store α} {m : Month} (h : s.isBroken m = false) :
    s.mended.table? m = s.table? m := by
  rw [table?_mended]
  unfold isBroken at h
  cases ht : s.table? m with
  | none => rfl
  | some t =>
    cases t with
    | rows rs => rfl
    | broken => rw [ht] at h; cases h

theorem table?_mended_of_isBroken {s : Store α} {m : Month} (h : s.isBroken m = true) :
    s.mended.table? m = some (.rows []) := by
  rw [table?_mended, isBroken_iff.mp h]
  rfl

@[simp] theorem rowsIn_mended (s : Store α) (m : Month) : s.mended.rowsIn m = s.rowsIn m := by
  unfold rowsIn
  rw [table?_mended]
  rcases s.table? m with _ | rs | _ <;> rfl

theorem setTable_mended (s : Store α) (m : Month) (t : MonthTable α) :
    (s.setTable m t).mended = s.mended.setTable m t.mended :=
  congrArg (fun months => Store.mk months s.summaries s.ensured) (OrderedMap.mapValues_insert ..)

theorem dropMonth_mended (s : Store α) (m : Month) :
    (s.dropMonth m).mended = s.mended.dropMonth m :=
  congrArg (fun months => Store.mk months s.summaries s.ensured) (OrderedMap.mapValues_erase ..)

/-! ### Saving -/

theorem ensure_mended {s : Store α} {m : Month} (h : s.isBroken m = false) :
    s.mended.ensure m = (s.ensure m).map mended := by
  unfold ensure
  rw [table?_mended_of_intact h]
  have he : s.mended.ensured = s.ensured := rfl
  rw [he]
  by_cases hm : m ∈ s.ensured
  · rw [if_pos hm, if_pos hm]
    rfl
  · rw [if_neg hm, if_neg hm]
    by_cases hy : m.year < 0
    · rw [if_pos hy, if_pos hy]
      rfl
    · rw [if_neg hy, if_neg hy]
      rcases s.table? m with _ | rs | _
      · refine congrArg Except.ok ?_
        show ({ s.mended.setTable m (.rows []) with ensured := m :: s.ensured } : Store α) =
          { (s.setTable m (.rows [])).mended with ensured := m :: s.ensured }
        rw [setTable_mended]
        rfl
      · rfl
      · rfl

/-- To see to a month breaks none, and mends none. -/
theorem isBroken_ensure {s s' : Store α} {m : Month} (he : s.ensure m = .ok s') (k : Month) :
    s'.isBroken k = s.isBroken k := by
  unfold ensure at he
  split at he
  · rw [Except.ok.inj he]
  · split at he
    · cases he
    · split at he
      · cases he
      · exact Except.ok.inj he ▸ rfl
      · next ht =>
        obtain rfl := Except.ok.inj he
        rw [Bool.eq_iff_iff, isBroken_iff, isBroken_iff]
        show (s.setTable m (.rows [])).table? k = some .broken ↔ _
        rw [table?_setTable]
        split
        · next heq => simp [heq, ht]
        · rfl

variable [Gauge α]

/-- What is saved into a broken month is refused, and nothing is written. -/
theorem save_of_isBroken {s : Store α} {r : Record α} {m : Month}
    (hm : Month.containing? r.timestamp = some m) (h : s.isBroken m = true) :
    s.save r = (s, .error .database) := by
  have ht := isBroken_iff.mp h
  unfold save ensure append
  rw [hm]
  dsimp only
  rw [ht]
  by_cases he : m ∈ s.ensured
  · -- a month that is remembered is not looked at until the row is to be written
    simp only [if_pos he, ht]
  · rw [if_neg he]
    by_cases hy : m.year < 0
    · rw [if_pos hy]
    · rw [if_neg hy]

theorem append_mended {s : Store α} {m : Month} (h : s.isBroken m = false) (r : Record α) :
    s.mended.append m r = (s.append m r).map mended := by
  unfold append
  rw [table?_mended_of_intact h]
  split
  · next rs r' _ _ => exact congrArg Except.ok (s.setTable_mended m (.rows (rs ++ [r']))).symm
  · rfl

theorem isBroken_append {s s' : Store α} {m : Month} {r : Record α} (ha : s.append m r = .ok s')
    (k : Month) : s'.isBroken k = s.isBroken k := by
  unfold append at ha
  split at ha
  · next rs r' ht _ =>
    obtain rfl := Except.ok.inj ha
    rw [Bool.eq_iff_iff, isBroken_iff, isBroken_iff, table?_setTable]
    split
    · next heq => simp [heq, ht]
    · rfl
  · cases ha

/-- **A row for an intact month is saved** as if no other month were broken. -/
theorem save_mended {s : Store α} {r : Record α}
    (h : ∀ m, Month.containing? r.timestamp = some m → s.isBroken m = false) :
    s.mended.save r = ((s.save r).1.mended, (s.save r).2) := by
  unfold save
  cases hm : Month.containing? r.timestamp with
  | none => rfl
  | some m =>
    dsimp only
    rw [ensure_mended (h m hm)]
    cases he : s.ensure m with
    | error e => rfl
    | ok s₁ =>
      have hm₁ : s₁.isBroken m = false := (isBroken_ensure he m).trans (h m hm)
      dsimp only [Except.map]
      rw [append_mended hm₁]
      cases s₁.append m r <;> rfl

/-- To save a row breaks no month, and mends none. -/
theorem isBroken_save (s : Store α) (r : Record α) (k : Month) :
    (s.save r).1.isBroken k = s.isBroken k := by
  unfold save
  split
  · rfl
  · split
    · rfl
    · next s₁ he =>
      have hensure := isBroken_ensure he k
      split
      · exact hensure
      · next s₂ ha => exact (isBroken_append ha k).trans hensure

/-! ### Cleaning up -/

omit [Gauge α]

theorem dropExpired_mended (s : Store α) (m : Month) :
    (s.dropExpired m).mended = s.mended.dropExpired m :=
  congrArg (fun s : Store α => { s with ensured := s.ensured.filter (· ≠ m) })
    (s.dropMonth_mended m)

theorem eq_broken_of_prunedTable {first : Int} {c m : Month} {table : Option (MonthTable α)}
    (h : prunedTable first c m table = some .broken) : table = some .broken := by
  unfold prunedTable at h
  split at h
  · split at h
    · cases h
    · split at h <;> cases h
  · split at h
    · cases h
    · exact h

/-- A broken month of the cutoff is passed over; mended, it has no row to lose. -/
theorem pruneMonth_mended (first : Int) (c : Month) (s : Store α)
    (report report' : CleanupReport) (m : Month) :
    (pruneMonth first c s report m).1.mended = (pruneMonth first c s.mended report' m).1 := by
  unfold pruneMonth
  by_cases hlt : m < c
  · rw [if_pos hlt, if_pos hlt]
    exact dropExpired_mended s m
  · rw [if_neg hlt, if_neg hlt]
    by_cases heq : m = c
    · rw [if_pos heq, if_pos heq]
      cases hb : s.isBroken m with
      | true =>
        rw [table?_mended_of_isBroken hb, isBroken_iff.mp hb]
        show s.mended = s.mended.setTable m (.rows [])
        rw [setTable, OrderedMap.insert_of_get? (table?_mended_of_isBroken hb)]
      | false =>
        rw [table?_mended_of_intact hb]
        rcases s.table? m with _ | rs | _
        · rfl
        · exact setTable_mended s m _
        · rfl
    · rw [if_neg heq, if_neg heq]

theorem foldl_pruneMonth_mended (first : Int) (c : Month) : ∀ (ms : List Month) (s : Store α)
    (report report' : CleanupReport),
    (ms.foldl (fun (s, report) m => pruneMonth first c s report m) (s, report)).1.mended =
      (ms.foldl (fun (s, report) m => pruneMonth first c s report m) (s.mended, report')).1
  | [], _, _, _ => rfl
  | m :: ms, s, report, report' => by
    have hrest := foldl_pruneMonth_mended first c ms (pruneMonth first c s report m).1
      (pruneMonth first c s report m).2 (pruneMonth first c s.mended report' m).2
    rw [pruneMonth_mended first c s report report' m] at hrest
    exact hrest

theorem pruneRaw_mended (first : Int) (s : Store α) (report report' : CleanupReport) :
    (pruneRaw first s report).1.mended = (pruneRaw first s.mended report').1 := by
  unfold pruneRaw
  rw [listed_mended]
  cases Month.containing? first with
  | none => rfl
  | some c => exact foldl_pruneMonth_mended first c s.listed s report report'

theorem pruneSummaries_mended (firstHour firstDay : Int) (s : Store α)
    (report report' : CleanupReport) :
    (pruneSummaries firstHour firstDay s report).1.mended =
      (pruneSummaries firstHour firstDay s.mended report').1 := by
  obtain ⟨months, summaries, ensured⟩ := s
  unfold pruneSummaries mended
  cases summaries <;> rfl

/-- **A cleanup leaves what it would leave** if no month were broken. -/
theorem cleanup_mended (s : Store α) (now : Int) (policy : RetentionPolicy) :
    (s.cleanup now policy).1.mended = (s.mended.cleanup now policy).1 := by
  have hraw := pruneRaw_mended (cutoff now policy.rawDays) s {} {}
  unfold cleanup
  dsimp only
  rw [pruneSummaries_mended, hraw]

/-! ### The invariant -/

/-- The tables of the months that are not broken hold a flat list of rows. -/
structure HoldsIntact (s : Store α) (rows : List (Record α)) : Prop where
  mended : s.mended.Holds rows
  years : ∀ m, s.isBroken m = true → m.year ≤ 9999

variable {s s' : Store α} {rows : List (Record α)}

theorem holdsIntact_empty : ({} : Store α).HoldsIntact [] :=
  ⟨holds_empty, fun _ h => by cases h⟩

theorem HoldsIntact.rowsIn (h : s.HoldsIntact rows) (m : Month) :
    s.rowsIn m = rows.filter (belongs m) := by
  rw [← rowsIn_mended, h.mended.rowsIn]

/-- The months that are listed are those with a table, up to the year 9999. -/
theorem HoldsIntact.mem_listed_iff (h : s.HoldsIntact rows) {m : Month} :
    m ∈ s.listed ↔ s.hasMonth m = true ∧ m.year ≤ 9999 := by
  rw [← listed_mended, h.mended.mem_listed_iff, ← hasMonth_mended]
  rfl

theorem HoldsIntact.mem_listed_of_isBroken (h : s.HoldsIntact rows) {m : Month}
    (hm : s.isBroken m = true) : m ∈ s.listed :=
  h.mem_listed_iff.mpr ⟨hasMonth_of_isBroken hm, h.years m hm⟩

theorem HoldsIntact.withSummaries (h : s.HoldsIntact rows) (tables : Option (Summaries α)) :
    HoldsIntact { s with summaries := tables } rows :=
  ⟨h.mended.withSummaries tables, h.years⟩

theorem HoldsIntact.filter_true (h : s.HoldsIntact rows) :
    s.HoldsIntact (rows.filter (fun _ => true) ++ []) := by
  rw [List.filter_true, List.append_nil]
  exact h

theorem HoldsIntact.ensure (h : s.HoldsIntact rows) {m : Month} (hv : m.Valid)
    (he : s.ensure m = .ok s') : s'.HoldsIntact rows := by
  refine ⟨?_, fun k hk => h.years k ((isBroken_ensure he k).symm.trans hk)⟩
  cases hb : s.isBroken m with
  | true =>
    -- only a month that is remembered is passed, and then nothing is done
    unfold Store.ensure at he
    rw [isBroken_iff.mp hb] at he
    split at he
    · exact Except.ok.inj he ▸ h.mended
    · split at he <;> cases he
  | false =>
    have hensure := ensure_mended hb
    rw [he] at hensure
    rcases h.mended.ensure hv with ⟨e, he', -⟩ | ⟨s₁, he', h₁, -⟩
    · rw [hensure] at he'
      cases he'
    · rw [hensure] at he'
      exact Except.ok.inj he' ▸ h₁

theorem HoldsIntact.cleanup (h : s.HoldsIntact rows) (now : Int) (policy : RetentionPolicy) :
    (s.cleanup now policy).1.HoldsIntact (rows.filter (Operation.cleanup now policy).spares) := by
  refine ⟨cleanup_mended s now policy ▸ h.mended.cleanup now policy, fun m hm => h.years m ?_⟩
  rw [isBroken_iff] at hm ⊢
  rw [table?_cleanup, table?_pruneRaw] at hm
  split at hm
  · exact hm
  · split at hm
    · exact eq_broken_of_prunedTable hm
    · exact hm

variable [Gauge α]

/-- A save that fails leaves the list as it is, and appends to it what is accepted otherwise. -/
theorem HoldsIntact.save (h : s.HoldsIntact rows) (r : Record α) :
    (∃ s' e, s.save r = (s', .error e) ∧ s'.HoldsIntact rows) ∨
    ∃ s' r', s.save r = (s', .ok ()) ∧ r.stored? = some r' ∧
      (Month.FourDigitYear r.timestamp → s'.HoldsIntact (rows ++ [r'])) := by
  by_cases hb : ∃ m, Month.containing? r.timestamp = some m ∧ s.isBroken m = true
  · obtain ⟨m, hm, hb⟩ := hb
    exact .inl ⟨s, _, save_of_isBroken hm hb, h⟩
  · have hintact : ∀ m, Month.containing? r.timestamp = some m → s.isBroken m = false :=
      fun m hm => Bool.eq_false_iff.mpr fun ht => hb ⟨m, hm, ht⟩
    have hsave := save_mended hintact
    have hyears : ∀ m, (s.save r).1.isBroken m = true → m.year ≤ 9999 := fun m hm =>
      h.years m ((isBroken_save s r m).symm.trans hm)
    rcases h.mended.save r with ⟨s₁, e, he, hs, -⟩ | ⟨s₁, r', he, hr, hs⟩
    · obtain ⟨rfl, houtcome⟩ := Prod.mk.inj (hsave.symm.trans he)
      exact .inl ⟨(s.save r).1, e, Prod.ext rfl houtcome, hs, hyears⟩
    · obtain ⟨rfl, houtcome⟩ := Prod.mk.inj (hsave.symm.trans he)
      exact .inr ⟨(s.save r).1, r', Prod.ext rfl houtcome, hr, fun hy => ⟨hs hy, hyears⟩⟩

/-- Saving appends what is accepted to the list. -/
theorem HoldsIntact.saveAll : ∀ {rs : List (Record α)} {s : Store α} {rows : List (Record α)},
    s.HoldsIntact rows → (∀ r ∈ s.taken rs, Month.FourDigitYear r.timestamp) →
    (s.saveAll rs).1.HoldsIntact (rows ++ s.taken rs)
  | [], _, _, h, _ => by simpa [Store.saveAll, taken] using h
  | r :: rs, s, rows, h, hy => by
    unfold taken at hy ⊢
    unfold Store.saveAll
    rcases h.save r with ⟨s', e, he, hs⟩ | ⟨s', r', he, hr, hs⟩
    · rw [he] at hy ⊢
      exact hs.saveAll hy
    · rw [he, hr] at hy ⊢
      simp only [Option.toList_some, List.singleton_append, List.mem_cons] at hy ⊢
      have hr' : Month.FourDigitYear r.timestamp := by
        rw [← Record.stored?_timestamp hr]
        exact hy r' (Or.inl rfl)
      rw [List.append_cons]
      exact (hs hr').saveAll fun r₁ h₁ => hy r₁ (Or.inr h₁)

theorem HoldsIntact.rollupHour (h : s.HoldsIntact rows) (start : Int) :
    (s.step (.rollupHour start)).HoldsIntact rows := by
  obtain ⟨tables, hroll⟩ := step_rollupHour_eq s start
  rw [hroll]
  exact h.withSummaries tables

theorem HoldsIntact.rollupDay (h : s.HoldsIntact rows) (start : Int) :
    (s.step (.rollupDay start)).HoldsIntact rows := by
  obtain ⟨tables, hroll⟩ := step_rollupDay_eq s start
  rw [hroll]
  exact h.withSummaries tables

/-- **An operation takes what it does not spare and adds what it accepts**, whatever is broken. -/
theorem HoldsIntact.step (h : s.HoldsIntact rows) (op : Operation α)
    (hy : ∀ r ∈ s.accepted op, Month.FourDigitYear r.timestamp) :
    (s.step op).HoldsIntact (rows.filter op.spares ++ s.accepted op) := by
  cases op with
  | save r =>
    show (s.save r).1.HoldsIntact (rows.filter (fun _ => true) ++ s.taken [r])
    rw [List.filter_true, ← saveAll_singleton]
    exact h.saveAll hy
  | saveAll rs =>
    show (s.saveAll rs).1.HoldsIntact (rows.filter (fun _ => true) ++ s.taken rs)
    rw [List.filter_true]
    exact h.saveAll hy
  | range | aggregated | hourly | daily | listed | hasMonth | vacuum => exact h.filter_true
  | rollupHour start => exact (h.rollupHour start).filter_true
  | rollupDay start => exact (h.rollupDay start).filter_true
  | rollupPreviousHour now =>
    rw [step_rollupPreviousHour]
    exact (h.rollupHour _).filter_true
  | cleanup now policy =>
    show (s.cleanup now policy).1.HoldsIntact (_ ++ [])
    rw [List.append_nil]
    exact h.cleanup now policy
  | cleanupCycle now policy vacuumAfter =>
    rw [step_cleanupCycle]
    show HoldsIntact _ (_ ++ [])
    rw [List.append_nil]
    exact (h.rollupDay _).cleanup now policy
  | reconnect =>
    have hmended : s.mended.reconnect.Holds rows := h.mended.congr rfl fun _ hm => by cases hm
    exact HoldsIntact.filter_true ⟨hmended, h.years⟩
  | createSummaries => exact (h.withSummaries _).filter_true
  | setUp now =>
    refine HoldsIntact.filter_true ?_
    rw [step_setUp]
    split
    · next s' hs =>
      unfold setUp at hs
      split at hs
      · cases hs
      · next m hm => exact (h.withSummaries _).ensure (Month.containing?_eq_some_iff.mp hm).1.1 hs
    · exact h.withSummaries _

end Store
end FleetTelemetry

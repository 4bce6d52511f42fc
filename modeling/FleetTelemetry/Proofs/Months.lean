/-
# The tables of the months hold one flat list

A store that nobody else writes holds a flat list of rows: the table of every
month has those of the list that belong to the month, in the order of the list
(`Store.Holds`). Saving appends to the list (`Store.Holds.saveAll`), the raw
cutoff of a cleanup takes from it the rows before the cutoff
(`Store.Holds.pruneRaw`), and whatever leaves the months alone leaves the list
alone (`Store.Holds.congr`). A month with a row of the list is among those that
are listed (`Store.Holds.mem_listed`).

Key definitions: `Store.rowsIn`, `Store.Holds`.
Key theorems: `Store.Holds.saveAll`, `Store.table?_pruneRaw`,
`Store.Holds.pruneRaw`.
-/
import FleetTelemetry.Proofs.MonthName
import FleetTelemetry.Proofs.Run
import FleetTelemetry.Proofs.StableOrder

namespace FleetTelemetry

namespace Store

variable {α : Type}

/-- The rows in the table of a month. -/
def rowsIn (s : Store α) (m : Month) : List (Record α) :=
  match s.table? m with
  | some (.rows rs) => rs
  | _ => []

/-- Whether a row belongs to a month. -/
def belongs (m : Month) (r : Record α) : Bool := decide (Month.containing? r.timestamp = some m)

theorem table?_setTable (s : Store α) (m m' : Month) (t : MonthTable α) :
    (s.setTable m t).table? m' = if m' = m then some t else s.table? m' :=
  s.months.get?_insert m m' t

theorem table?_dropExpired (s : Store α) (m m' : Month) :
    (s.dropExpired m).table? m' = if m' = m then none else s.table? m' :=
  s.months.get?_erase m m'

theorem rowsIn_setTable (s : Store α) (m m' : Month) (rs : List (Record α)) :
    (s.setTable m (.rows rs)).rowsIn m' = if m' = m then rs else s.rowsIn m' := by
  by_cases h : m' = m <;> simp [rowsIn, table?_setTable, h]

theorem rowsIn_of_table? {s : Store α} {m : Month} {rs : List (Record α)}
    (h : s.table? m = some (.rows rs)) : s.rowsIn m = rs := by
  rw [rowsIn, h]

theorem mem_listed_iff (s : Store α) (m : Month) :
    m ∈ s.listed ↔ ∃ k, (s.table? k).isSome = true ∧ Month.ofName? k.name = some m := by
  simp only [listed, Ascending.mem_ofList, List.mem_filterMap, OrderedMap.mem_keys_iff, table?]

theorem listed_pairwise (s : Store α) : s.listed.Pairwise (· < ·) :=
  Ascending.pairwise_ofList (fun _ _ _ => Month.lt_trans) Month.lt_trichotomy _

/-- Of tables with the names of months those are listed that end with the year 9999. -/
theorem mem_listed_iff_of_named {s : Store α}
    (hnamed : ∀ m, (s.table? m).isSome = true → m.Valid ∧ 0 ≤ m.year) {m : Month} :
    m ∈ s.listed ↔ (s.table? m).isSome = true ∧ m.year ≤ 9999 := by
  rw [Store.mem_listed_iff]
  constructor
  · rintro ⟨k, hk, hn⟩
    rw [Month.ofName?_name (hnamed k hk).1] at hn
    split at hn
    · next hy =>
      obtain rfl := Option.some.inj hn
      exact ⟨hk, hy.2⟩
    · cases hn
  · rintro ⟨hm, hy⟩
    obtain ⟨hv, hp⟩ := hnamed m hm
    exact ⟨m, hm, by rw [Month.ofName?_name hv, if_pos ⟨by omega, hy⟩]⟩

/-! ### The invariant -/

/-- The tables of the months hold a flat list of rows. -/
structure Holds (s : Store α) (rows : List (Record α)) : Prop where
  intact : ∀ m, s.table? m ≠ some .broken
  named : ∀ m, (s.table? m).isSome = true → m.Valid ∧ 0 ≤ m.year
  rowsIn : ∀ m, s.rowsIn m = rows.filter (belongs m)
  years : ∀ r ∈ rows, Month.FourDigitYear r.timestamp
  ensured : ∀ m ∈ s.ensured, (s.table? m).isSome = true

theorem holds_empty : ({} : Store α).Holds [] where
  intact _ h := by cases h
  named _ h := by cases h
  rowsIn _ := rfl
  years _ h := by cases h
  ensured _ h := by cases h

/-- What leaves the months alone leaves the list alone. -/
theorem Holds.congr {s s' : Store α} {rows : List (Record α)} (h : s.Holds rows)
    (hm : s'.months = s.months) (he : ∀ m ∈ s'.ensured, (s.table? m).isSome = true) :
    s'.Holds rows := by
  have ht : ∀ m, s'.table? m = s.table? m := fun m => by rw [table?, table?, hm]
  refine ⟨fun m => ?_, fun m => ?_, fun m => ?_, h.years, fun m hm' => ?_⟩
  · rw [ht]; exact h.intact m
  · rw [ht]; exact h.named m
  · rw [← h.rowsIn m, Store.rowsIn, Store.rowsIn, ht]
  · rw [ht]; exact he m hm'

theorem Holds.withSummaries {s : Store α} {rows : List (Record α)} (h : s.Holds rows)
    (tables : Option (Summaries α)) : Holds { s with summaries := tables } rows :=
  h.congr rfl h.ensured

theorem Holds.table? {s : Store α} {rows : List (Record α)} (h : s.Holds rows) {m : Month}
    (hm : (s.table? m).isSome = true) : s.table? m = some (.rows (s.rowsIn m)) := by
  have hi := h.intact m
  unfold Store.rowsIn
  cases ht : s.table? m with
  | none => rw [ht] at hm; cases hm
  | some t =>
    cases t with
    | rows rs => rfl
    | broken => exact absurd ht hi

theorem Holds.mem_listed_iff {s : Store α} {rows : List (Record α)} (h : s.Holds rows)
    {m : Month} : m ∈ s.listed ↔ (s.table? m).isSome = true ∧ m.year ≤ 9999 :=
  mem_listed_iff_of_named h.named

theorem Holds.mem_listed {s : Store α} {rows : List (Record α)} (h : s.Holds rows)
    {r : Record α} (hr : r ∈ rows) : ∃ m ∈ s.listed, belongs m r = true := by
  obtain ⟨m, hm, -, -, hy⟩ := Month.containing?_of_fourDigitYear (h.years r hr)
  have hb : belongs m r = true := decide_eq_true hm
  have hmem : r ∈ s.rowsIn m := by
    rw [h.rowsIn]
    exact List.mem_filter.mpr ⟨hr, hb⟩
  refine ⟨m, h.mem_listed_iff.mpr ⟨?_, hy⟩, hb⟩
  unfold Store.rowsIn at hmem
  cases ht : s.table? m with
  | none => rw [ht] at hmem; cases hmem
  | some t => rfl

theorem belongs_unique {m n : Month} {r : Record α} (hm : belongs m r = true)
    (hn : belongs n r = true) : m = n :=
  Option.some.inj ((of_decide_eq_true hm).symm.trans (of_decide_eq_true hn))

theorem Holds.rowsIn_of_not_mem_listed {s : Store α} {rows : List (Record α)} (h : s.Holds rows)
    {m : Month} (hm : m ∉ s.listed) : s.rowsIn m = [] := by
  rw [h.rowsIn]
  refine List.filter_eq_nil_iff.mpr fun r hr hb => hm ?_
  obtain ⟨n, hn, hb'⟩ := h.mem_listed hr
  exact belongs_unique hb hb' ▸ hn

theorem belongs_lt {m n : Month} {a b : Record α} (h : m < n) (ha : belongs m a = true)
    (hb : belongs n b = true) : a.timestamp < b.timestamp :=
  Month.lt_of_containing? (of_decide_eq_true ha) (of_decide_eq_true hb) h

/-! ### Saving -/

section Saving

variable [Gauge α]

omit [Gauge α] in
theorem Holds.setTable_nil {s : Store α} {rows : List (Record α)} (h : s.Holds rows) {m : Month}
    (hv : m.Valid) (hy : 0 ≤ m.year) (hn : s.table? m = none) :
    (s.setTable m (.rows [])).Holds rows := by
  have hempty : s.rowsIn m = [] := by rw [Store.rowsIn, hn]
  refine ⟨fun m' => ?_, fun m' => ?_, fun m' => ?_, h.years, fun m' hm' => ?_⟩
  · rw [table?_setTable]
    split
    · exact fun hb => by cases hb
    · exact h.intact m'
  · rw [table?_setTable]
    split
    · next heq => exact fun _ => heq ▸ ⟨hv, hy⟩
    · exact h.named m'
  · rw [rowsIn_setTable, ← h.rowsIn]
    split
    · next heq => rw [heq, hempty]
    · rfl
  · rw [table?_setTable]
    split
    · rfl
    · exact h.ensured m' hm'

omit [Gauge α] in
/-- The table of a month that a year can name is seen to without a failure. -/
theorem Holds.ensure {s : Store α} {rows : List (Record α)} (h : s.Holds rows) {m : Month}
    (hv : m.Valid) :
    (∃ e, s.ensure m = .error e ∧ m.year < 0) ∨
    ∃ s', s.ensure m = .ok s' ∧ s'.Holds rows ∧ (s'.table? m).isSome = true := by
  unfold Store.ensure
  split
  · next hm => exact Or.inr ⟨s, rfl, h, h.ensured m hm⟩
  · split
    · next hy => exact Or.inl ⟨_, rfl, hy⟩
    · next hy =>
      split
      · next ht => exact absurd ht (h.intact m)
      · next ht =>
        have hsome : (s.table? m).isSome = true := by rw [ht]; rfl
        refine Or.inr ⟨_, rfl, h.congr rfl fun m' hm' => ?_, hsome⟩
        rcases List.mem_cons.mp hm' with rfl | hm'
        · exact hsome
        · exact h.ensured m' hm'
      · next ht =>
        have hset := h.setTable_nil hv (by omega) ht
        have hsome : ((s.setTable m (.rows [])).table? m).isSome = true := by
          rw [table?_setTable, if_pos rfl]
          rfl
        refine Or.inr ⟨_, rfl, hset.congr rfl fun m' hm' => ?_, hsome⟩
        rcases List.mem_cons.mp hm' with rfl | hm'
        · exact hsome
        · exact hset.ensured m' hm'

theorem Holds.append {s : Store α} {rows : List (Record α)} (h : s.Holds rows) {m : Month}
    {r : Record α} (hm : Month.containing? r.timestamp = some m)
    (ht : (s.table? m).isSome = true) :
    (∃ e, s.append m r = .error e ∧ r.stored? = none) ∨
    ∃ s' r', s.append m r = .ok s' ∧ r.stored? = some r' ∧
      (Month.FourDigitYear r.timestamp → s'.Holds (rows ++ [r'])) := by
  have ht := h.table? ht
  unfold Store.append
  cases hr : r.stored? with
  | none => exact Or.inl ⟨_, by rw [ht], rfl⟩
  | some r' =>
    refine Or.inr ⟨_, r', by rw [ht], rfl, fun hy => ?_⟩
    have hts := Record.stored?_timestamp hr
    have hm' : Month.containing? r'.timestamp = some m := by rw [hts]; exact hm
    refine ⟨fun m' => ?_, fun m' hsome => ?_, fun m' => ?_, fun r₁ hr₁ => ?_, fun m' he => ?_⟩
    · rw [table?_setTable]
      split
      · exact fun hb => by cases hb
      · exact h.intact m'
    · rw [table?_setTable] at hsome
      refine h.named m' ?_
      split at hsome
      · next heq => rw [heq, ht]; rfl
      · exact hsome
    · rw [rowsIn_setTable, List.filter_append, ← h.rowsIn]
      split
      · next heq => rw [heq]; simp [belongs, hm']
      · next hne => simp [belongs, hm', Ne.symm hne]
    · rcases List.mem_append.mp hr₁ with hr₁ | hr₁
      · exact h.years r₁ hr₁
      · rw [List.mem_singleton.mp hr₁, hts]
        exact hy
    · rw [table?_setTable]
      split
      · rfl
      · exact h.ensured m' he

/-- A save that fails leaves the list as it is, and appends to it what is accepted otherwise. It
fails in a year without a name, and for a row that cannot be stored. -/
theorem Holds.save {s : Store α} {rows : List (Record α)} (h : s.Holds rows) (r : Record α) :
    (∃ s' e, s.save r = (s', .error e) ∧ s'.Holds rows ∧
      (Month.FourDigitYear r.timestamp → r.stored? = none)) ∨
    ∃ s' r', s.save r = (s', .ok ()) ∧ r.stored? = some r' ∧
      (Month.FourDigitYear r.timestamp → s'.Holds (rows ++ [r'])) := by
  unfold Store.save
  cases hm : Month.containing? r.timestamp with
  | none =>
    refine Or.inl ⟨s, _, rfl, h, fun hy => ?_⟩
    obtain ⟨m, hsome, -⟩ := Month.containing?_of_fourDigitYear hy
    rw [hm] at hsome
    cases hsome
  | some m =>
    dsimp only
    rcases h.ensure (Month.containing?_eq_some_iff.mp hm).1.1 with
      ⟨e, he, hneg⟩ | ⟨s₁, he, h₁, ht₁⟩
    · rw [he]
      refine Or.inl ⟨s, e, rfl, h, fun hy => ?_⟩
      obtain ⟨m', hsome, -, hpos, -⟩ := Month.containing?_of_fourDigitYear hy
      rw [hm] at hsome
      obtain rfl := Option.some.inj hsome
      omega
    · rw [he]
      dsimp only
      rcases h₁.append hm ht₁ with ⟨e, he, hr⟩ | ⟨s₂, r', he, hr, h₂⟩
      · rw [he]
        exact Or.inl ⟨s₁, e, rfl, h₁, fun _ => hr⟩
      · rw [he]
        exact Or.inr ⟨s₂, r', rfl, hr, h₂⟩

/-- **Saving appends what is accepted to the list.** -/
theorem Holds.saveAll : ∀ {rs : List (Record α)} {s : Store α} {rows : List (Record α)},
    s.Holds rows → (∀ r ∈ s.taken rs, Month.FourDigitYear r.timestamp) →
    (s.saveAll rs).1.Holds (rows ++ s.taken rs)
  | [], _, _, h, _ => by simpa [Store.saveAll, taken] using h
  | r :: rs, s, rows, h, hy => by
    unfold taken at hy ⊢
    unfold Store.saveAll
    rcases h.save r with ⟨s', e, he, hs, -⟩ | ⟨s', r', he, hr, hs⟩
    · rw [he] at hy ⊢
      exact hs.saveAll hy
    · rw [he, hr] at hy ⊢
      simp only [Option.toList_some, List.singleton_append, List.mem_cons] at hy ⊢
      have hr' : Month.FourDigitYear r.timestamp := by
        rw [← Record.stored?_timestamp hr]
        exact hy r' (Or.inl rfl)
      rw [List.append_cons]
      exact (hs hr').saveAll fun r₁ h₁ => hy r₁ (Or.inr h₁)

theorem Holds.taken_eq : ∀ (rs : List (Record α)) {s : Store α} {rows : List (Record α)},
    s.Holds rows → (∀ r ∈ rs, Month.FourDigitYear r.timestamp) →
    s.taken rs = rs.filterMap Record.stored?
  | [], _, _, _, _ => rfl
  | r :: rs, s, rows, h, hy => by
    have hr₁ := hy r List.mem_cons_self
    have hrs : ∀ r' ∈ rs, Month.FourDigitYear r'.timestamp := fun r' h' =>
      hy r' (List.mem_cons_of_mem r h')
    unfold taken
    rcases h.save r with ⟨s', e, he, hs, hr⟩ | ⟨s', r', he, hr, hs⟩
    · rw [he, List.filterMap_cons_none (hr hr₁)]
      exact hs.taken_eq rs hrs
    · rw [he, List.filterMap_cons_some hr, hr]
      exact congrArg (r' :: ·) ((hs hr₁).taken_eq rs hrs)

/-- Rows of four-digit years are all saved that can be stored. -/
theorem Holds.saveAll_stored {s : Store α} {rows rs : List (Record α)} (h : s.Holds rows)
    (hy : ∀ r ∈ rs, Month.FourDigitYear r.timestamp) :
    (s.saveAll rs).1.Holds (rows ++ rs.filterMap Record.stored?) := by
  have htaken := h.taken_eq rs hy
  have hstored : ∀ r ∈ s.taken rs, Month.FourDigitYear r.timestamp := by
    intro r hr
    rw [htaken] at hr
    obtain ⟨r₀, hr₀, hr⟩ := List.mem_filterMap.mp hr
    rw [Record.stored?_timestamp hr]
    exact hy r₀ hr₀
  exact htaken ▸ h.saveAll hstored

theorem saveAll_singleton (s : Store α) (r : Record α) : (s.saveAll [r]).1 = (s.save r).1 :=
  s.saveAll_fst [r]

end Saving

/-! ### The raw cutoff -/

/-- What a raw cutoff leaves of the table of a month. -/
def prunedTable (first : Int) (cutoffMonth m : Month) :
    Option (MonthTable α) → Option (MonthTable α)
  | some (.rows rs) =>
    if m < cutoffMonth then none
    else if m = cutoffMonth then some (.rows (rs.filter fun r => decide (first ≤ r.timestamp)))
    else some (.rows rs)
  | table => if m < cutoffMonth then none else table

theorem prunedTable_prunedTable (first : Int) (c m : Month) (table : Option (MonthTable α)) :
    prunedTable first c m (prunedTable first c m table) = prunedTable first c m table := by
  by_cases hlt : m < c
  · rcases table with _ | rs | _ <;> simp [prunedTable, hlt]
  · by_cases heq : m = c
    · rcases table with _ | rs | _ <;> simp [prunedTable, heq, Month.lt_irrefl]
    · rcases table with _ | rs | _ <;> simp [prunedTable, hlt, heq]

theorem isSome_of_prunedTable {first : Int} {c m : Month} {table : Option (MonthTable α)}
    (h : (prunedTable first c m table).isSome = true) : table.isSome = true := by
  cases table with
  | none => simp [prunedTable] at h
  | some _ => rfl

theorem table?_pruneMonth (first : Int) (c : Month) (s : Store α) (report : CleanupReport)
    (k m : Month) :
    (pruneMonth first c s report k).1.table? m =
      if m = k then prunedTable first c m (s.table? m) else s.table? m := by
  unfold pruneMonth
  split
  · next hlt =>
    rw [table?_dropExpired]
    split
    · next heq =>
      subst heq
      unfold prunedTable
      split <;> rw [if_pos hlt]
    · rfl
  · next hnlt =>
    split
    · next heq =>
      subst heq
      split
      · next rs ht =>
        rw [table?_setTable]
        split
        · next heq =>
          subst heq
          rw [ht, prunedTable, if_neg hnlt, if_pos rfl]
        · rfl
      · next hnone =>
        split
        · next heq =>
          subst heq
          unfold prunedTable
          split
          · next rs ht => exact absurd ht (hnone rs)
          · rw [if_neg hnlt]
        · rfl
    · next hne =>
      split
      · next heq =>
        subst heq
        unfold prunedTable
        split
        · next ht => rw [if_neg hnlt, if_neg hne, ht]
        · rw [if_neg hnlt]
      · rfl

/-- A month that is still remembered was remembered, and was not dropped. -/
theorem mem_ensured_pruneMonth {first : Int} {c : Month} {s : Store α} {report : CleanupReport}
    {k m : Month} (h : m ∈ (pruneMonth first c s report k).1.ensured) :
    m ∈ s.ensured ∧ (m = k → ¬ m < c) := by
  unfold pruneMonth at h
  split at h
  · obtain ⟨hm, hne⟩ := List.mem_filter.mp h
    exact ⟨hm, fun heq => absurd heq (of_decide_eq_true hne)⟩
  · next hnlt =>
    refine ⟨?_, fun heq => heq ▸ hnlt⟩
    split at h
    · split at h <;> exact h
    · exact h

theorem table?_foldl_pruneMonth (first : Int) (c : Month) : ∀ (ms : List Month) (s : Store α)
    (report : CleanupReport) (m : Month),
    (ms.foldl (fun (s, report) m => pruneMonth first c s report m) (s, report)).1.table? m =
      if m ∈ ms then prunedTable first c m (s.table? m) else s.table? m
  | [], s, _, m => (if_neg List.not_mem_nil).symm
  | k :: ms, s, report, m => by
    refine (table?_foldl_pruneMonth first c ms (pruneMonth first c s report k).1
      (pruneMonth first c s report k).2 m).trans ?_
    rw [table?_pruneMonth]
    by_cases hk : m = k
    · simp only [hk, if_true, List.mem_cons, true_or, prunedTable_prunedTable, ite_self]
    · simp only [hk, if_false, List.mem_cons, false_or]

theorem mem_ensured_foldl_pruneMonth {first : Int} {c m : Month} : ∀ {ms : List Month}
    {s : Store α} {report : CleanupReport},
    m ∈ (ms.foldl (fun (s, report) m => pruneMonth first c s report m) (s, report)).1.ensured →
    m ∈ s.ensured ∧ (m ∈ ms → ¬ m < c)
  | [], _, _, h => ⟨h, fun hm => by cases hm⟩
  | k :: ms, s, report, h => by
    rw [List.foldl_cons] at h
    obtain ⟨h₁, hms⟩ := mem_ensured_foldl_pruneMonth h
    obtain ⟨h₂, hk⟩ := mem_ensured_pruneMonth h₁
    refine ⟨h₂, fun hm => ?_⟩
    rcases List.mem_cons.mp hm with heq | hm
    · exact hk heq
    · exact hms hm

/-- **The raw cutoff** prunes the months that are listed, if a month can be reckoned for it. -/
theorem table?_pruneRaw (first : Int) (s : Store α) (report : CleanupReport) (m : Month) :
    (pruneRaw first s report).1.table? m =
      match Month.containing? first with
      | none => s.table? m
      | some c => if m ∈ s.listed then prunedTable first c m (s.table? m) else s.table? m := by
  unfold pruneRaw
  cases Month.containing? first with
  | none => rfl
  | some c => exact table?_foldl_pruneMonth first c s.listed s report m

section Cutoff

variable {first : Int} {c m : Month} (hc : Month.containing? first = some c)

include hc

/-- The rows of a month before that of the cutoff are all before the cutoff. -/
theorem filter_belongs_of_lt (hlt : m < c) (rows : List (Record α)) :
    (rows.filter fun r => decide (first ≤ r.timestamp)).filter (belongs m) = [] := by
  rw [List.filter_filter]
  refine List.filter_eq_nil_iff.mpr fun r _ => ?_
  simp only [Bool.and_eq_true, decide_eq_true_eq, belongs]
  rintro ⟨hb, hge⟩
  have := Month.lt_of_containing? hb hc hlt
  omega

theorem filter_belongs_of_gt (hgt : c < m) (rows : List (Record α)) :
    (rows.filter fun r => decide (first ≤ r.timestamp)).filter (belongs m) =
      rows.filter (belongs m) := by
  rw [List.filter_filter]
  refine List.filter_congr fun r _ => ?_
  cases hb : belongs m r with
  | false => rfl
  | true =>
    have := Month.lt_of_containing? hc (of_decide_eq_true hb) hgt
    rw [Bool.true_and]
    exact decide_eq_true (by omega)

theorem prunedTable_rows (hnlt : ¬ m < c) (rows : List (Record α)) :
    prunedTable first c m (some (.rows (rows.filter (belongs m)))) =
      some (.rows ((rows.filter fun r => decide (first ≤ r.timestamp)).filter (belongs m))) := by
  rw [prunedTable, if_neg hnlt]
  split
  · rw [List.filter_filter, List.filter_filter]
    simp only [Bool.and_comm]
  · next hne =>
    have hgt : c < m := ((Month.lt_trichotomy m c).resolve_left hnlt).resolve_left hne
    rw [filter_belongs_of_gt hc hgt]

/-- A table is gone with all its rows, or has those that are left. -/
theorem Holds.table?_pruneRaw {s : Store α} {rows : List (Record α)} (h : s.Holds rows)
    (report : CleanupReport) :
    ((pruneRaw first s report).1.table? m = none ∧
      (rows.filter fun r => decide (first ≤ r.timestamp)).filter (belongs m) = []) ∨
    ((s.table? m).isSome = true ∧ (pruneRaw first s report).1.table? m =
      some (.rows ((rows.filter fun r => decide (first ≤ r.timestamp)).filter (belongs m)))) := by
  rw [Store.table?_pruneRaw, hc]
  dsimp only
  cases hs : (s.table? m).isSome with
  | false =>
    have hnone : s.table? m = none := by simpa using hs
    have hnil : rows.filter (belongs m) = [] := by rw [← h.rowsIn, Store.rowsIn, hnone]
    refine Or.inl ⟨?_, ?_⟩
    · rw [hnone]
      simp [prunedTable]
    · rw [List.filter_comm, hnil, List.filter_nil]
  | true =>
    have htable := h.table? hs
    rw [h.rowsIn] at htable
    rw [htable]
    by_cases hm : m ∈ s.listed
    · rw [if_pos hm]
      by_cases hlt : m < c
      · exact Or.inl ⟨by rw [prunedTable, if_pos hlt], filter_belongs_of_lt hc hlt rows⟩
      · exact Or.inr ⟨rfl, prunedTable_rows hc hlt rows⟩
    · have hnil : rows.filter (belongs m) = [] := by
        rw [← h.rowsIn, h.rowsIn_of_not_mem_listed hm]
      rw [if_neg hm, List.filter_comm, hnil, List.filter_nil]
      exact Or.inr ⟨rfl, rfl⟩

end Cutoff

/-- **The raw cutoff takes the rows before it from the list.** -/
theorem Holds.pruneRaw {s : Store α} {rows : List (Record α)} (h : s.Holds rows) (first : Int)
    (report : CleanupReport) :
    (pruneRaw first s report).1.Holds
      (rows.filter fun r => !Month.instantInRange first || decide (first ≤ r.timestamp)) := by
  cases hc : Month.containing? first with
  | none =>
    -- no month can be reckoned for the cutoff, so that nothing is taken
    have hr : Month.instantInRange first = false := by
      unfold Month.containing? at hc
      split at hc
      · cases hc
      · next hr => simpa using hr
    rw [hr, List.filter_eq_self.mpr fun r _ => by simp]
    unfold Store.pruneRaw
    rw [hc]
    exact h
  | some c =>
    have hr : Month.instantInRange first = true := by
      obtain ⟨hrec, rfl⟩ := Month.containing?_eq_some_iff.mp hc
      exact (Month.instantInRange_iff first).mpr hrec
    simp only [hr, Bool.not_true, Bool.false_or]
    refine ⟨fun m hb => ?_, fun m hm => ?_, fun m => ?_, fun r hr =>
      h.years r (List.mem_filter.mp hr).1, fun m hm => ?_⟩
    · rcases h.table?_pruneRaw hc report with ⟨hn, -⟩ | ⟨-, hs⟩
      · rw [hn] at hb; cases hb
      · rw [hs] at hb; cases hb
    · rcases h.table?_pruneRaw hc report with ⟨hn, -⟩ | ⟨hs, -⟩
      · rw [hn] at hm; cases hm
      · exact h.named m hs
    · rcases h.table?_pruneRaw hc report with ⟨hn, hnil⟩ | ⟨-, hs⟩
      · rw [hnil, Store.rowsIn, hn]
      · exact rowsIn_of_table? hs
    · simp only [Store.pruneRaw, hc] at hm
      obtain ⟨he, hnlt⟩ := mem_ensured_foldl_pruneMonth hm
      rw [Store.table?_pruneRaw, hc, h.table? (h.ensured m he), h.rowsIn]
      dsimp only
      split
      · next hl => rw [prunedTable_rows hc (hnlt hl)]; rfl
      · rfl

end Store
end FleetTelemetry

/-
# A save that fails leaves no trace in the data

A save fails for want of a month, of a name for the year, or of a reading that a
table takes (`Store.Proper.save_error`). By then the month may have been given its
table, which is empty, and nothing else has changed (`Store.Proper.alikeBut_save`):
the trace of the failure stays in that table for good, since each operation leaves
the difference where it is (`Store.AlikeBut.agree`). Saving many rows is saving one
after the other, and each row that is counted is a row more in the store
(`Store.rowCount_saveAll`).

Key definitions: `Record.entering?`, `Store.rowCount`.
Key theorems: `Store.Proper.alikeBut_save`, `Store.rowCount_saveAll`,
`Store.Proper.rowsIn_saveAll`, `Store.failed_save_traceless`.
-/
import FleetTelemetry.Proofs.AlikeStores

namespace FleetTelemetry

/-- What a table gets of a row that is saved, if anything: its year has to have a name. -/
def Record.entering? {α : Type} [Gauge α] (r : Record α) : Option (Record α) :=
  (Month.containing? r.timestamp).bind fun m => Store.admitted m r

/-- The rows in a table. -/
def MonthTable.size {α : Type} : MonthTable α → Nat
  | .rows rs => rs.length
  | .broken => 0

/-- A value that is put into a map counts instead of the one that was there. -/
theorem OrderedMap.sum_insert {κ β : Type} [DecidableEq κ] (size : β → Nat)
    (m : OrderedMap κ β) (k : κ) (b : β) :
    ((m.insert k b).values.map size).sum + (m.get? k).elim 0 size =
      (m.values.map size).sum + size b := by
  obtain ⟨entries⟩ := m
  unfold insert upsert values get?
  dsimp only
  induction entries with
  | nil => simp [upsertEntry]
  | cons entry entries ih =>
    obtain ⟨k', b'⟩ := entry
    rw [upsertEntry]
    by_cases hk : k' = k
    · subst hk
      rw [if_pos rfl, List.lookup_cons_self]
      simp only [List.map_cons, List.sum_cons, Option.elim_some]
      omega
    · have hne : (k == k') = false := beq_eq_false_iff_ne.mpr (Ne.symm hk)
      rw [if_neg hk, List.lookup_cons, hne]
      simp only [List.map_cons, List.sum_cons]
      omega

namespace Store

variable {α : Type}

/-- The raw rows of all tables. -/
def rowCount (s : Store α) : Nat := (s.months.values.map MonthTable.size).sum

/-! ### Saves that fail -/

section Saving

variable [Gauge α]

theorem admitted_eq_none_iff {m : Month} {r : Record α} :
    admitted m r = none ↔ m.year < 0 ∨ r.stored? = none := by
  unfold admitted
  split
  · next hy => exact iff_of_true rfl (.inl hy)
  · next hy => rw [or_iff_right hy]

theorem Proper.save_error {s : Store α} (h : s.Proper) {r : Record α} {e : StoreError}
    (he : (s.save r).2 = .error e) :
    (Month.containing? r.timestamp = none ∧ e = .timestampOutOfRange r.timestamp) ∨
    ∃ m, Month.containing? r.timestamp = some m ∧ admitted m r = none ∧ e = .database := by
  cases hm : Month.containing? r.timestamp with
  | none =>
    rw [Store.save, hm] at he
    exact .inl ⟨rfl, (Except.error.inj he).symm⟩
  | some m =>
    rw [(h.entered hm).outcome] at he
    cases hr : admitted m r with
    | none =>
      rw [hr] at he
      exact .inr ⟨m, rfl, hr, (Except.error.inj he).symm⟩
    | some r' =>
      rw [hr] at he
      cases he

theorem Proper.table?_save_none {s : Store α} (h : s.Proper) {r : Record α} {m : Month}
    (hm : Month.containing? r.timestamp = some m) (hr : admitted m r = none) (k : Month) :
    (s.save r).1.table? k = s.table? k ∨
      (k = m ∧ 0 ≤ m.year ∧ s.table? m = none ∧ (s.save r).1.table? m = some (.rows [])) := by
  have hentered := h.entered hm
  by_cases hk : k = m ∧ 0 ≤ m.year
  · obtain ⟨rfl, hy⟩ := hk
    have htable : (s.save r).1.table? k = some (.rows (s.rowsIn k)) := by
      rw [hentered.tables, if_pos ⟨rfl, hy⟩, hr, Option.toList_none, List.append_nil]
    cases ht : s.table? k with
    | none =>
      have hnil : s.rowsIn k = [] := by rw [rowsIn, ht]
      exact .inr ⟨rfl, hy, rfl, by rw [htable, hnil]⟩
    | some t =>
      have hsome : (s.table? k).isSome = true := by
        rw [ht]
        rfl
      rw [htable, ← h.table?_eq hsome, ht]
      exact .inl rfl
  · rw [hentered.tables, if_neg hk]
    exact .inl rfl

/-- **A save that fails changes no row.** -/
theorem Proper.alikeBut_save {s : Store α} (h : s.Proper) {r : Record α} {m : Month}
    (hm : Month.containing? r.timestamp = some m) (hr : admitted m r = none) :
    AlikeBut m s (s.save r).1 := by
  have hsaved := (h.entered hm).saved
  refine ⟨h, h.save r, fun k hk => ?_, ?_, hsaved.summaries⟩
  · exact (h.table?_save_none hm hr k).resolve_right fun htrace => hk htrace.1
  · rw [hsaved.rows, hr, Option.toList_none, List.append_nil, ite_self]

end Saving

/-! ### Rows that are counted -/

theorem rowCount_setTable (s : Store α) (m : Month) (t : MonthTable α) :
    (s.setTable m t).rowCount + (s.table? m).elim 0 MonthTable.size = s.rowCount + t.size :=
  s.months.sum_insert MonthTable.size m t

theorem rowCount_ensure {s s' : Store α} {m : Month} (h : s.ensure m = .ok s') :
    s'.rowCount = s.rowCount := by
  unfold ensure at h
  split at h
  · rw [← Except.ok.inj h]
  · split at h
    · cases h
    · split at h
      · cases h
      · rw [← Except.ok.inj h]
        rfl
      · next ht =>
        have hset := s.rowCount_setTable m (.rows [])
        rw [ht] at hset
        rw [← Except.ok.inj h]
        exact hset

variable [Gauge α]

theorem rowCount_append {s s' : Store α} {m : Month} {r : Record α} (h : s.append m r = .ok s') :
    s'.rowCount = s.rowCount + 1 := by
  unfold append at h
  split at h
  · next rs r' ht hr =>
    have hset := s.rowCount_setTable m (.rows (rs ++ [r']))
    rw [ht] at hset
    rw [← Except.ok.inj h]
    simp only [Option.elim_some, MonthTable.size, List.length_append, List.length_singleton] at hset
    omega
  · cases h

theorem rowCount_save (s : Store α) (r : Record α) :
    (s.save r).1.rowCount = s.rowCount + match (s.save r).2 with
      | .ok _ => 1
      | .error _ => 0 := by
  unfold save
  split
  · rfl
  · split
    · rfl
    · next s₁ he =>
      have hensure := rowCount_ensure he
      split
      · exact hensure
      · next s₂ ha =>
        dsimp only
        rw [rowCount_append ha, hensure]

/-- **As many rows are added as are counted.** -/
theorem rowCount_saveAll : ∀ (rs : List (Record α)) (s : Store α),
    (s.saveAll rs).1.rowCount = s.rowCount + (s.saveAll rs).2
  | [], _ => rfl
  | r :: rs, s => by
    have hsave := s.rowCount_save r
    have hrest := rowCount_saveAll rs (s.save r).1
    unfold saveAll
    generalize s.save r = x at *
    obtain ⟨s₁, outcome⟩ := x
    cases outcome with
    | error e =>
      dsimp only at hsave hrest ⊢
      omega
    | ok _ =>
      dsimp only at hsave hrest ⊢
      omega

theorem Proper.rowsIn_save {s : Store α} (h : s.Proper) (r : Record α) :
    (∀ m, (s.save r).1.rowsIn m = s.rowsIn m ++ r.entering?.toList.filter (belongs m)) ∧
      (s.save r).2.isOk = r.entering?.isSome := by
  cases hn : Month.containing? r.timestamp with
  | none =>
    have hnone : r.entering? = none := by rw [Record.entering?, hn, Option.bind_none]
    have hsave : s.save r = (s, .error (.timestampOutOfRange r.timestamp)) := by
      rw [Store.save, hn]
    rw [hsave, hnone]
    exact ⟨fun m => (List.append_nil _).symm, rfl⟩
  | some n =>
    have hentering : r.entering? = admitted n r := by rw [Record.entering?, hn, Option.bind_some]
    have hsaved := (h.entered hn).saved
    rw [hentering]
    constructor
    · intro m
      rw [hsaved.rows]
      cases hr : admitted n r with
      | none => simp
      | some r' =>
        have hts : r'.timestamp = r.timestamp := by
          unfold admitted at hr
          split at hr
          · cases hr
          · exact Record.stored?_timestamp hr
        have hbelongs : belongs m r' = decide (m = n) := by
          rw [belongs, hts, hn]
          exact decide_eq_decide.mpr (Option.some_inj.trans eq_comm)
        rw [Option.toList_some, List.filter_singleton, hbelongs]
        by_cases hm : m = n <;> simp [hm]
    · rw [hsaved.outcome]
      cases admitted n r <;> rfl

/-- **Each row goes its own way into the tables**, whatever becomes of the others. -/
theorem Proper.rowsIn_saveAll : ∀ (rs : List (Record α)) {s : Store α}, s.Proper →
    (∀ m, (s.saveAll rs).1.rowsIn m =
      s.rowsIn m ++ (rs.filterMap Record.entering?).filter (belongs m)) ∧
    (s.saveAll rs).2 = (rs.filterMap Record.entering?).length
  | [], _, _ => ⟨fun _ => (List.append_nil _).symm, rfl⟩
  | r :: rs, s, h => by
    obtain ⟨hrows, hok⟩ := h.rowsIn_save r
    obtain ⟨hrest, hcount⟩ := Proper.rowsIn_saveAll rs (h.save r)
    unfold Store.saveAll
    generalize s.save r = x at *
    obtain ⟨s₁, outcome⟩ := x
    dsimp only at hrows hok hrest hcount
    simp only [hrows] at hrest
    cases outcome with
    | error e =>
      have hr : r.entering? = none :=
        Option.isNone_iff_eq_none.mp (Option.isSome_eq_false_iff.mp hok.symm)
      rw [List.filterMap_cons_none hr]
      refine ⟨fun m => ?_, hcount⟩
      rw [hr] at hrest
      dsimp only
      rw [hrest, Option.toList_none, List.filter_nil, List.append_nil]
    | ok _ =>
      obtain ⟨r', hr⟩ := Option.isSome_iff_exists.mp hok.symm
      rw [List.filterMap_cons_some hr]
      refine ⟨fun m => ?_, congrArg (· + 1) hcount⟩
      rw [hr] at hrest
      dsimp only
      rw [hrest, Option.toList_some, List.append_assoc, ← List.filter_append,
        List.singleton_append]

/-- **A save that fails leaves no trace in the data**, after any run of a store that is empty at
first. It fails for an instant without a month, for a year without a name and for a row that cannot
be stored; it may have created the table of its month, which is empty, and has changed no other.
Whatever is done next, that table stays all that differs, with the same rows in it, and what does
not ask for tables is answered as it would have been: queries, rollups and saves alike. Saving many
rows is saving one after the other, each into the table of its month, and as many rows are added as
are counted. -/
theorem failed_save_traceless (ops : List (Operation α)) :
    let s := ({} : Store α).run ops
    (∀ (r : Record α) (e : StoreError), (s.save r).2 = .error e →
      let after := (s.save r).1
      ((Month.containing? r.timestamp = none ∧ e = .timestampOutOfRange r.timestamp) ∨
        ∃ m, Month.containing? r.timestamp = some m ∧ (m.year < 0 ∨ r.stored? = none) ∧
          e = .database) ∧
      (∀ k, after.table? k = s.table? k ∨
        (Month.containing? r.timestamp = some k ∧ 0 ≤ k.year ∧ s.table? k = none ∧
          after.table? k = some (.rows []))) ∧
      ∀ later : List (Operation α),
        (∀ k, Month.containing? r.timestamp ≠ some k →
          (after.run later).table? k = (s.run later).table? k) ∧
        (∀ k, (after.run later).rowsIn k = (s.run later).rowsIn k) ∧
        ∀ op : Operation α, op.asksForTables = false →
          ((after.run later).perform op).2 = ((s.run later).perform op).2) ∧
    ∀ rs : List (Record α),
      (s.saveAll rs).1 = rs.foldl (fun s r => (s.save r).1) s ∧
      (s.saveAll rs).1.rowCount = s.rowCount + (s.saveAll rs).2 ∧
      (s.saveAll rs).2 = (rs.filterMap Record.entering?).length ∧
      ∀ m, (s.saveAll rs).1.rowsIn m =
        s.rowsIn m ++ (rs.filterMap Record.entering?).filter (belongs m) := by
  intro s
  have h : s.Proper := proper_empty.run ops
  refine ⟨fun r e he => ?_, fun rs => ?_⟩
  · rcases h.save_error he with ⟨hm, rfl⟩ | ⟨m, hm, hr, rfl⟩
    · -- nothing was touched at all
      have hsame : (s.save r).1 = s := by rw [save, hm]
      rw [hsame]
      exact ⟨.inl ⟨hm, rfl⟩, fun k => .inl rfl, fun later => ⟨fun _ _ => rfl, fun _ => rfl,
        fun _ _ => rfl⟩⟩
    · have halike := h.alikeBut_save hm hr
      refine ⟨.inr ⟨m, hm, admitted_eq_none_iff.mp hr, rfl⟩, fun k => ?_, fun later => ?_⟩
      · rcases h.table?_save_none hm hr k with hsame | ⟨rfl, hy, hnone, hempty⟩
        · exact .inl hsame
        · exact .inr ⟨hm, hy, hnone, hempty⟩
      · have hlater := halike.run later
        exact ⟨fun k hk => hlater.tables k fun hkm => hk (hkm ▸ hm), hlater.rowsIn,
          fun op hop => (hlater.agree op).answer hop⟩
  · obtain ⟨hrows, hcount⟩ := h.rowsIn_saveAll rs
    exact ⟨s.saveAll_fst rs, rowCount_saveAll rs s, hcount, hrows⟩

/-- A row that is stored, in a January. -/
def onceSaved : List (Operation Float) := [.save (.uniform "a" 1704067200000 1.5 7)]

/-- Rows with a reading that is no number, before the year zero and after all months, among two
that can be stored; the first of them is of a month without a table. -/
def mixedRows : List (Record Float) :=
  [.uniform "a" 1709251200000 (0.0 / 0.0) 1, .uniform "a" 1704067200001 2.5 2,
    .uniform "a" (-62167219200001) 3.5 3, .uniform "a" 8210266876800000 4.5 4,
    .uniform "b" 1706745600000 5.5 5]

/-- The first of the rows leaves an empty table behind, which a query does not tell, and two of them
are added. -/
theorem failed_save_traceless_mixedRows :
    let s := ({} : Store Float).run onceSaved
    let refused : Record Float := .uniform "a" 1709251200000 (0.0 / 0.0) 1
    (s.save refused).2 = .error .database ∧
    (s.hasMonth ⟨2024, 3⟩ = false ∧ (s.save refused).1.hasMonth ⟨2024, 3⟩ = true) ∧
    ((s.save refused).1.perform (.range "a" 0 1709251200000 0)).2 =
      (s.perform (.range "a" 0 1709251200000 0)).2 ∧
    s.range "a" 0 1709251200000 0 = [.uniform "a" 1704067200000 1.5 7] ∧
    (s.saveAll mixedRows).1.rowCount = s.rowCount + 2 := by
  intro s refused
  obtain ⟨htrace, hbatch⟩ := failed_save_traceless onceSaved
  have herror : (s.save refused).2 = .error .database := by decide +kernel
  obtain ⟨-, -, hlater⟩ := htrace refused _ herror
  obtain ⟨-, hcount, -, -⟩ := hbatch mixedRows
  have htwo : (s.saveAll mixedRows).2 = 2 := by decide +kernel
  exact ⟨herror, by decide +kernel, (hlater []).2.2 _ rfl, by decide +kernel, htwo ▸ hcount⟩

end Store
end FleetTelemetry

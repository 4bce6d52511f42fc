/-
# Stores that differ in an empty table

Two stores may differ in the table of one month that has no row in either of them,
or is missing (`Store.AlikeBut`). What is read month by month from the rows is the
same in both (`Store.AlikeBut.flatMap_inWindow`), a save goes the same way in both
(`Store.AlikeBut.save`), and a rollup writes the same summaries beside the tables of
both (`Store.AlikeBut.agree_rolledUp`). So every operation leaves two such stores,
and what does not ask for tables is answered alike (`Store.AlikeBut.agree`).

Key definitions: `Store.AlikeBut`, `Operation.asksForTables`, `Store.Agree`.
Key theorems: `Store.AlikeBut.range`, `Store.AlikeBut.rowsBetween`,
`Store.AlikeBut.save`, `Store.AlikeBut.cleanup`, `Store.AlikeBut.agree`,
`Store.AlikeBut.run`.
-/
import FleetTelemetry.Proofs.ProperTables

namespace FleetTelemetry

/-- Whether an operation asks which months have tables, or counts those that it drops. -/
def Operation.asksForTables {α : Type} : Operation α → Bool
  | .listed | .hasMonth _ | .cleanup .. | .cleanupCycle .. => true
  | _ => false

namespace Store

variable {α : Type}

/-- Two stores that differ in the table of one month at most, and there in no row. -/
structure AlikeBut (m : Month) (s s' : Store α) : Prop where
  left : s.Proper
  right : s'.Proper
  tables : ∀ k, k ≠ m → s'.table? k = s.table? k
  rows : s'.rowsIn m = s.rowsIn m
  summaries : s'.summaries = s.summaries

/-! ### What is read -/

section Reads

variable {m : Month} {s s' : Store α} (h : AlikeBut m s s')
include h

theorem AlikeBut.rowsIn (k : Month) : s'.rowsIn k = s.rowsIn k := by
  by_cases hk : k = m
  · rw [hk, h.rows]
  · rw [Store.rowsIn, Store.rowsIn, h.tables k hk]

/-- The table is the same, unless it has no row. -/
theorem AlikeBut.table?_or (k : Month) : s'.table? k = s.table? k ∨ s.rowsIn k = [] := by
  by_cases hnil : s.rowsIn k = []
  · exact .inr hnil
  · have hnil' : s'.rowsIn k ≠ [] := by rwa [h.rowsIn]
    rw [h.left.table?_eq (isSome_table?_of_rowsIn hnil),
      h.right.table?_eq (isSome_table?_of_rowsIn hnil'), h.rowsIn]
    exact .inl rfl

theorem AlikeBut.mem_inWindow (first last : Int) {k : Month} (hk : s.rowsIn k ≠ []) :
    k ∈ Month.inWindow s'.listed first last ↔ k ∈ Month.inWindow s.listed first last := by
  have ht : s'.table? k = s.table? k := (h.table?_or k).resolve_right hk
  rw [Store.mem_inWindow, Store.mem_inWindow, h.left.mem_listed_iff, h.right.mem_listed_iff, ht]

/-- What is read month by month from the rows is the same. -/
theorem AlikeBut.flatMap_inWindow {β : Type} (read : List (Record α) → List β)
    (hread : read [] = []) (first last : Int) :
    (Month.inWindow s'.listed first last).flatMap (fun k => read (s'.rowsIn k)) =
      (Month.inWindow s.listed first last).flatMap fun k => read (s.rowsIn k) := by
  simp only [h.rowsIn]
  refine flatMap_months (s'.inWindow_ascending first last) (s.inWindow_ascending first last)
    fun k hk => h.mem_inWindow first last fun hnil => hk ?_
  rw [hnil, hread]

theorem AlikeBut.range (agentId : String) (first last : Int) (limit : Nat) :
    s'.range agentId first last limit = s.range agentId first last limit := by
  have hflat := h.flatMap_inWindow
    (fun rows => limited limit (Record.inOrder (wanted agentId first last rows)))
    (limited_nil limit) first last
  unfold Store.range
  simp only [monthRange_eq]
  exact hflat

theorem AlikeBut.rowsBetween (start stop : Int) :
    s'.rowsBetween start stop = s.rowsBetween start stop := by
  rw [h.left.rowsBetween_eq, h.right.rowsBetween_eq]
  exact congrArg Except.ok (h.flatMap_inWindow _ List.filter_nil start (stop - 1))

end Reads

/-! ### What is written -/

/-- A cleanup puts no row into a table. -/
theorem rowsIn_cleanup_sublist (s : Store α) (now : Int) (policy : RetentionPolicy) (m : Month) :
    ((s.cleanup now policy).1.rowsIn m).Sublist (s.rowsIn m) := by
  unfold rowsIn
  rw [table?_cleanup, table?_pruneRaw]
  cases Month.containing? (cutoff now policy.rawDays) with
  | none => exact List.Sublist.refl _
  | some c =>
    dsimp only
    split_ifs with hm
    · rcases s.table? m with _ | rs | _
      · unfold prunedTable
        split_ifs <;> exact List.Sublist.refl _
      · unfold prunedTable
        split_ifs
        · exact List.nil_sublist rs
        · exact List.filter_sublist
        · exact List.Sublist.refl _
      · unfold prunedTable
        split_ifs <;> exact List.Sublist.refl _
    · exact List.Sublist.refl _

theorem cleanup_summaries_eq (s : Store α) (now : Int) (policy : RetentionPolicy) :
    (s.cleanup now policy).1.summaries = s.summaries.map fun tables =>
      { hourly := keptSummaries (cutoff now policy.hourlyDays) tables.hourly
        daily := keptSummaries (cutoff now policy.dailyDays) tables.daily } := by
  cases ht : s.summaries with
  | none =>
    have hp := (pruneRaw_summaries (cutoff now policy.rawDays) s {}).trans ht
    unfold cleanup pruneSummaries
    dsimp only
    rw [hp]
    exact hp
  | some tables => exact cleanup_summaries ht now policy

/-- The tables of one store beside the summaries of another. -/
def beside (s' s : Store α) : Store α := { s' with summaries := s.summaries }

/-- The store after a rollup, which is the same if that failed, and what is answered. -/
def rolledUp (s : Store α) (answer : Except StoreError RollupReport → Answer α) :
    Except StoreError (Store α × RollupReport) → Store α × Answer α
  | .ok (s, report) => (s, answer (.ok report))
  | .error e => (s, answer (.error e))

theorem perform_rollupPreviousHour [Gauge α] (s : Store α) (now : Int) :
    s.perform (.rollupPreviousHour now) =
      rolledUp s (fun result => .rolledUpHour result.toOption)
        (s.rollupHour (previousStart .hour now)) := by
  unfold perform rollupPreviousHour
  dsimp only
  rcases s.rollupHour (previousStart .hour now) with e | ⟨t, report⟩ <;> rfl

section Writes

variable {m : Month} {s s' : Store α} (h : AlikeBut m s s')
include h

theorem AlikeBut.withSummaries (tables : Option (Summaries α)) :
    AlikeBut m { s with summaries := tables } { s' with summaries := tables } :=
  ⟨h.left.withSummaries tables, h.right.withSummaries tables, h.tables, h.rows, rfl⟩

theorem AlikeBut.createSummaries : AlikeBut m s.createSummaries s'.createSummaries := by
  have hcreated := h.withSummaries (some (s.summaries.getD {}))
  have hright : s'.createSummaries = { s' with summaries := some (s.summaries.getD {}) } := by
    rw [Store.createSummaries, h.summaries]
  rwa [← hright] at hcreated

/-- What changes the tables of two stores alike leaves them alike. -/
theorem AlikeBut.of_tables {t t' : Store α} (ht : t.Proper) (ht' : t'.Proper)
    (htables : ∀ k, s'.table? k = s.table? k → t'.table? k = t.table? k)
    (hempty : s.rowsIn m = [] → s'.rowsIn m = [] → t'.rowsIn m = t.rowsIn m)
    (hsummaries : t'.summaries = t.summaries) : AlikeBut m t t' := by
  refine ⟨ht, ht', fun k hk => htables k (h.tables k hk), ?_, hsummaries⟩
  rcases h.table?_or m with hm | hnil
  · rw [Store.rowsIn, Store.rowsIn, htables m hm]
  · exact hempty hnil (h.rows.trans hnil)

theorem AlikeBut.cleanup (now : Int) (policy : RetentionPolicy) :
    AlikeBut m (s.cleanup now policy).1 (s'.cleanup now policy).1 := by
  refine h.of_tables (h.left.cleanup now policy) (h.right.cleanup now policy) (fun k hk => ?_)
    (fun hnil hnil' => ?_) ?_
  · have hlisted : k ∈ s'.listed ↔ k ∈ s.listed := by
      rw [h.left.mem_listed_iff, h.right.mem_listed_iff, hk]
    simp only [table?_cleanup, table?_pruneRaw, hk, hlisted]
  · have hleft := s.rowsIn_cleanup_sublist now policy m
    have hright := s'.rowsIn_cleanup_sublist now policy m
    rw [hnil] at hleft
    rw [hnil'] at hright
    rw [List.sublist_nil.mp hleft, List.sublist_nil.mp hright]
  · rw [cleanup_summaries_eq, cleanup_summaries_eq, h.summaries]

theorem AlikeBut.beside_eq : s'.beside s = s' := by
  obtain ⟨months, summaries, ensured⟩ := s'
  exact congrArg (fun tables => Store.mk months tables ensured) h.summaries.symm

variable [Gauge α]

/-- The same rows are taken, and go into the same tables. -/
theorem AlikeBut.save (r : Record α) :
    AlikeBut m (s.save r).1 (s'.save r).1 ∧ (s'.save r).2 = (s.save r).2 := by
  cases hm : Month.containing? r.timestamp with
  | none =>
    have hsave : ∀ s : Store α, s.save r = (s, .error (.timestampOutOfRange r.timestamp)) :=
      fun s => by rw [Store.save, hm]
    rw [hsave, hsave]
    exact ⟨h, rfl⟩
  | some n =>
    have hentered := h.left.entered hm
    have hentered' := h.right.entered hm
    refine ⟨h.of_tables (h.left.save r) (h.right.save r) (fun k hk => ?_) (fun hnil hnil' => ?_)
      ?_, ?_⟩
    · rw [hentered.tables, hentered'.tables, h.rowsIn, hk]
    · rw [hentered.saved.rows, hentered'.saved.rows, hnil, hnil']
    · rw [hentered.summaries, hentered'.summaries, h.summaries]
    · rw [hentered.outcome, hentered'.outcome]

omit h in
theorem AlikeBut.saveAll : ∀ (rs : List (Record α)) {s s' : Store α}, AlikeBut m s s' →
    AlikeBut m (s.saveAll rs).1 (s'.saveAll rs).1 ∧ (s'.saveAll rs).2 = (s.saveAll rs).2
  | [], _, _, h => ⟨h, rfl⟩
  | r :: rs, s, s', h => by
    obtain ⟨hnext, hanswer⟩ := h.save r
    obtain ⟨hrest, hcount⟩ := hnext.saveAll rs
    unfold Store.saveAll
    generalize s.save r = x at *
    generalize s'.save r = y at *
    obtain ⟨s₁, outcome⟩ := x
    obtain ⟨s₁', outcome'⟩ := y
    obtain rfl := show outcome' = outcome from hanswer
    cases outcome' with
    | error e => exact ⟨hrest, hcount⟩
    | ok _ => exact ⟨hrest, congrArg (· + 1) hcount⟩

theorem AlikeBut.rollupHour (start : Int) :
    s'.rollupHour start = (s.rollupHour start).map (Prod.map s'.beside id) := by
  have hput : ∀ (s : Store α) summary,
      (s'.beside s).putHourly summary = (s.putHourly summary).map s'.beside := by
    intro s summary
    unfold putHourly beside
    cases s.summaries <;> cases summary.stored? <;> rfl
  have hmap : (s'.beside s).rollupHour start = _ :=
    rollupHour_map hput (by rw [h.beside_eq]; exact h.rowsBetween _ _)
  rwa [h.beside_eq] at hmap

theorem AlikeBut.rollupDay (start : Int) :
    s'.rollupDay start = (s.rollupDay start).map (Prod.map s'.beside id) := by
  have hput : ∀ (s : Store α) summary,
      (s'.beside s).putDaily summary = (s.putDaily summary).map s'.beside := by
    intro s summary
    unfold putDaily beside
    cases s.summaries <;> cases summary.stored? <;> rfl
  have hmap : (s'.beside s).rollupDay start = _ := rollupDay_map hput rfl
  rwa [h.beside_eq] at hmap

omit [Gauge α] in
/-- The table of a month is seen to in both stores, or in neither. -/
theorem AlikeBut.ensure_cases {n : Month} (hv : n.Valid) :
    (s.ensure n = .error .database ∧ s'.ensure n = .error .database) ∨
    ∃ t t', s.ensure n = .ok t ∧ s'.ensure n = .ok t' ∧ AlikeBut m t t' := by
  obtain ⟨hneg, he⟩ | ⟨hy, t, he, ht, htables⟩ := h.left.ensure_cases hv
  · obtain ⟨-, he'⟩ | ⟨hy, -⟩ := h.right.ensure_cases hv
    · exact .inl ⟨he, he'⟩
    · omega
  · obtain ⟨hneg, -⟩ | ⟨-, t', he', ht', htables'⟩ := h.right.ensure_cases hv
    · omega
    · refine .inr ⟨t, t', he, he', h.of_tables ht ht' (fun k hk => ?_) (fun hnil hnil' => ?_) ?_⟩
      · rw [htables, htables', h.rowsIn, hk]
      · rw [Store.rowsIn, Store.rowsIn, htables, htables', h.rowsIn]
        by_cases hm : m = n
        · rw [if_pos hm, if_pos hm]
        · rw [if_neg hm, if_neg hm]
          exact hnil'.trans hnil.symm
      · rw [ensure_summaries he, ensure_summaries he', h.summaries]

/-- What an operation leaves of two stores, and what they answer. -/
structure Agree (m : Month) (op : Operation α) (x y : Store α × Answer α) : Prop where
  stores : AlikeBut m x.1 y.1
  answer : op.asksForTables = false → y.2 = x.2

omit [Gauge α] in
/-- A rollup of both stores fails in both, or writes the same beside both. -/
theorem AlikeBut.agree_rolledUp {op : Operation α}
    {result result' : Except StoreError (Store α × RollupReport)}
    (hmap : result' = result.map (Prod.map s'.beside id))
    (heq : ∀ t report, result = .ok (t, report) → ∃ tables, t = { s with summaries := tables })
    (answer : Except StoreError RollupReport → Answer α) :
    Agree m op (rolledUp s answer result) (rolledUp s' answer result') := by
  rw [hmap]
  cases result with
  | error e => exact ⟨h, fun _ => rfl⟩
  | ok rolled =>
    obtain ⟨t, report⟩ := rolled
    obtain ⟨tables, rfl⟩ := heq t report rfl
    exact ⟨h.withSummaries tables, fun _ => rfl⟩

theorem AlikeBut.agree_rollupHour (start : Int) :
    Agree m (.rollupHour start) (s.perform (.rollupHour start))
      (s'.perform (.rollupHour start)) :=
  h.agree_rolledUp (h.rollupHour start) (fun _ _ => rollupHour_eq) .rolledUp

theorem AlikeBut.agree_rollupDay (start : Int) :
    Agree m (.rollupDay start) (s.perform (.rollupDay start)) (s'.perform (.rollupDay start)) :=
  h.agree_rolledUp (h.rollupDay start) (fun _ _ => rollupDay_eq) .rolledUp

theorem AlikeBut.agree_rollupPreviousHour (now : Int) :
    Agree m (.rollupPreviousHour now) (s.perform (.rollupPreviousHour now))
      (s'.perform (.rollupPreviousHour now)) := by
  rw [perform_rollupPreviousHour, perform_rollupPreviousHour]
  exact h.agree_rolledUp (h.rollupHour _) (fun _ _ => rollupHour_eq) _

theorem AlikeBut.agree_setUp (now : Int) :
    Agree m (.setUp now) (s.perform (.setUp now)) (s'.perform (.setUp now)) := by
  unfold Store.perform Store.setUp
  dsimp only
  cases hm : Month.containing? now with
  | none => exact ⟨h.createSummaries, fun _ => rfl⟩
  | some n =>
    dsimp only
    obtain ⟨hs, hs'⟩ | ⟨t, t', hs, hs', ht⟩ :=
      h.createSummaries.ensure_cases (Month.containing?_eq_some_iff.mp hm).1.1
    · rw [hs, hs']
      exact ⟨h.createSummaries, fun _ => rfl⟩
    · rw [hs, hs']
      exact ⟨ht, fun _ => rfl⟩

/-- **An operation leaves the difference where it is**, and its answer does not tell unless it asks
for tables. -/
theorem AlikeBut.agree (op : Operation α) : Agree m op (s.perform op) (s'.perform op) := by
  cases op with
  | save r =>
    obtain ⟨hnext, hanswer⟩ := h.save r
    exact ⟨hnext, fun _ => congrArg Answer.saved hanswer⟩
  | saveAll rs =>
    obtain ⟨hnext, hanswer⟩ := h.saveAll rs
    exact ⟨hnext, fun _ => congrArg Answer.savedAll hanswer⟩
  | range agentId first last limit =>
    exact ⟨h, fun _ => congrArg Answer.rows (h.range agentId first last limit)⟩
  | aggregated agentId first last interval =>
    refine ⟨h, fun _ => congrArg Answer.rows ?_⟩
    rw [aggregated, aggregated, h.range]
  | hourly agentId first last =>
    refine ⟨h, fun _ => congrArg Answer.hours ?_⟩
    rw [hourly, hourly, h.summaries]
  | daily agentId first last =>
    refine ⟨h, fun _ => congrArg Answer.days ?_⟩
    rw [daily, daily, h.summaries]
  | listed | hasMonth => exact ⟨h, fun hasks => by cases hasks⟩
  | rollupHour start => exact h.agree_rollupHour start
  | rollupDay start => exact h.agree_rollupDay start
  | rollupPreviousHour now => exact h.agree_rollupPreviousHour now
  | cleanup now policy => exact ⟨h.cleanup now policy, fun hasks => by cases hasks⟩
  | cleanupCycle now policy vacuumAfter =>
    have hrolled := (h.agree_rollupDay (previousStart .day now)).stores
    refine ⟨?_, fun hasks => by cases hasks⟩
    show AlikeBut m (s.step _) (s'.step _)
    rw [step_cleanupCycle, step_cleanupCycle]
    exact hrolled.cleanup now policy
  | vacuum => exact ⟨h, fun _ => rfl⟩
  | reconnect =>
    have hleft : s.reconnect.Proper := h.left.congr (mindful_reconnect s) fun _ => rfl
    have hright : s'.reconnect.Proper := h.right.congr (mindful_reconnect s') fun _ => rfl
    exact ⟨⟨hleft, hright, h.tables, h.rows, h.summaries⟩, fun _ => rfl⟩
  | createSummaries => exact ⟨h.createSummaries, fun _ => rfl⟩
  | setUp now => exact h.agree_setUp now

theorem AlikeBut.run (ops : List (Operation α)) : AlikeBut m (s.run ops) (s'.run ops) := by
  induction ops generalizing s s' with
  | nil => exact h
  | cons op ops ih => exact ih (h.agree op).stores

end Writes

end Store
end FleetTelemetry

/-
# What a store remembers changes no answer

A store remembers the months whose tables it has seen to, and does not look
again. It can: nobody else drops a table, and a cleanup that drops one forgets
its month, so that each month that is remembered has its table
(`Store.Mindful.step`). So two stores on one database answer alike, whatever they
remember, and leave the same database (`Store.Shared.perform`). A store can be
replaced by a new one on its database at any points of a run, and no answer
tells (`Store.answers_interrupted`).

Key definitions: `Store.Mindful`, `Store.Shared`, `Store.answers`,
`Store.stepOrReplace`, `Store.interruptedAnswers`.
Key theorems: `Store.Mindful.step`, `Store.perform_reconnect`,
`Store.Mindful.ensure_reconnect`, `Store.Shared.perform`,
`Store.answers_interrupted`.
-/
import FleetTelemetry.Proofs.Emitted
import FleetTelemetry.Proofs.FlatList
import Mathlib.Data.List.ReduceOption

namespace FleetTelemetry
namespace Store

variable {α : Type}

/-! ### Each month that is remembered has its table -/

/-- Whether the months that a store remembers can be named and have tables of rows. -/
def Mindful (s : Store α) : Prop :=
  ∀ m ∈ s.ensured, 0 ≤ m.year ∧ ∃ rs, s.table? m = some (.rows rs)

theorem mindful_reconnect (s : Store α) : s.reconnect.Mindful := fun _ hm => by cases hm

section Mindful

variable {s s' : Store α} (h : s.Mindful)
include h

theorem Mindful.withSummaries (tables : Option (Summaries α)) :
    Mindful { s with summaries := tables } := h

/-- A table of rows can be put into place. -/
theorem Mindful.setTable (m : Month) (rs : List (Record α)) :
    (s.setTable m (.rows rs)).Mindful := by
  intro k hk
  obtain ⟨hyear, rs', ht⟩ := h k hk
  refine ⟨hyear, ?_⟩
  rw [table?_setTable]
  split
  · exact ⟨rs, rfl⟩
  · exact ⟨rs', ht⟩

theorem Mindful.remember {m : Month} (hyear : 0 ≤ m.year) {rs : List (Record α)}
    (ht : s.table? m = some (.rows rs)) : Mindful { s with ensured := m :: s.ensured } := by
  intro k hk
  rcases List.mem_cons.mp hk with rfl | hk
  · exact ⟨hyear, rs, ht⟩
  · exact h k hk

theorem Mindful.ensure {m : Month} (he : s.ensure m = .ok s') : s'.Mindful := by
  unfold Store.ensure at he
  split at he
  · exact Except.ok.inj he ▸ h
  · split at he
    · cases he
    · next hyear =>
      split at he
      · cases he
      · next ht => exact Except.ok.inj he ▸ h.remember (by omega) ht
      · have hset : (s.setTable m (.rows [])).table? m = some (.rows []) := by
          rw [table?_setTable, if_pos rfl]
        exact Except.ok.inj he ▸ (h.setTable m []).remember (by omega) hset

/-- The raw cutoff forgets the months that it drops. -/
theorem Mindful.pruneRaw (first : Int) (report : CleanupReport) :
    (Store.pruneRaw first s report).1.Mindful := by
  intro m hm
  rw [table?_pruneRaw]
  cases hc : Month.containing? first with
  | none =>
    simp only [Store.pruneRaw, hc] at hm
    exact h m hm
  | some c =>
    simp only [Store.pruneRaw, hc] at hm
    obtain ⟨he, hkept⟩ := mem_ensured_foldl_pruneMonth hm
    obtain ⟨hyear, rs, ht⟩ := h m he
    refine ⟨hyear, ?_⟩
    dsimp only
    by_cases hl : m ∈ s.listed
    · rw [if_pos hl, ht, prunedTable, if_neg (hkept hl)]
      split
      · exact ⟨_, rfl⟩
      · exact ⟨rs, rfl⟩
    · exact ⟨rs, by rw [if_neg hl, ht]⟩

theorem Mindful.cleanup (now : Int) (policy : RetentionPolicy) :
    (s.cleanup now policy).1.Mindful := by
  have hraw := h.pruneRaw (cutoff now policy.rawDays) {}
  obtain ⟨tables, ht⟩ := pruneSummaries_eq (cutoff now policy.hourlyDays)
    (cutoff now policy.dailyDays) (Store.pruneRaw (cutoff now policy.rawDays) s {}).1
    (Store.pruneRaw (cutoff now policy.rawDays) s {}).2
  have hboth := hraw.withSummaries tables
  rwa [← ht] at hboth

variable [Gauge α]

theorem Mindful.append {m : Month} {r : Record α} (ha : s.append m r = .ok s') : s'.Mindful := by
  unfold Store.append at ha
  split at ha
  · exact Except.ok.inj ha ▸ h.setTable m _
  · cases ha

/-- A save that fails may have seen to its month before. -/
theorem Mindful.save (r : Record α) : (s.save r).1.Mindful := by
  unfold Store.save
  split
  · exact h
  · split
    · exact h
    · next s₁ he =>
      have hensure := h.ensure he
      split
      · exact hensure
      · next s₂ ha => exact hensure.append ha

theorem Mindful.saveAll (rs : List (Record α)) : (s.saveAll rs).1.Mindful := by
  rw [saveAll_fst]
  exact List.foldlRecOn rs _ h fun _ hs r _ => hs.save r

theorem Mindful.rollupHour (start : Int) : (s.step (.rollupHour start)).Mindful := by
  obtain ⟨tables, hroll⟩ := step_rollupHour_eq s start
  rw [hroll]
  exact h.withSummaries tables

theorem Mindful.rollupDay (start : Int) : (s.step (.rollupDay start)).Mindful := by
  obtain ⟨tables, hroll⟩ := step_rollupDay_eq s start
  rw [hroll]
  exact h.withSummaries tables

/-- **An operation keeps the table of each month that is remembered.** -/
theorem Mindful.step (op : Operation α) : (s.step op).Mindful := by
  cases op with
  | save r => exact h.save r
  | saveAll rs => exact h.saveAll rs
  | range | aggregated | hourly | daily | listed | hasMonth | vacuum => exact h
  | rollupHour start => exact h.rollupHour start
  | rollupDay start => exact h.rollupDay start
  | rollupPreviousHour now =>
    rw [step_rollupPreviousHour]
    exact h.rollupHour _
  | cleanup now policy => exact h.cleanup now policy
  | cleanupCycle now policy vacuumAfter =>
    rw [step_cleanupCycle]
    exact (h.rollupDay _).cleanup now policy
  | reconnect => exact mindful_reconnect s
  | createSummaries => exact h.withSummaries _
  | setUp now =>
    have hcreate : s.createSummaries.Mindful := h.withSummaries _
    rw [step_setUp]
    split
    · next s' hs =>
      unfold setUp at hs
      split at hs
      · cases hs
      · exact hcreate.ensure hs
    · exact hcreate

theorem Mindful.run (ops : List (Operation α)) : (s.run ops).Mindful := by
  induction ops generalizing s with
  | nil => exact h
  | cons op ops ih => exact ih (h.step op)

end Mindful

/-! ### Without the memory -/

/-- A result whose store is replaced by another one on its database. -/
def forgetting {β : Type} (result : Store α × β) : Store α × β := (result.1.reconnect, result.2)

theorem append_reconnect [Gauge α] (s : Store α) (m : Month) (r : Record α) :
    s.reconnect.append m r = (s.append m r).map reconnect := by
  have ht : s.reconnect.table? m = s.table? m := rfl
  unfold append
  rw [ht]
  rcases s.table? m with _ | rs | _ <;> cases r.stored? <;> rfl

theorem putHourly_reconnect [Gauge α] (s : Store α) (summary : Summary α .hour) :
    s.reconnect.putHourly summary = (s.putHourly summary).map reconnect := by
  obtain ⟨months, summaries, ensured⟩ := s
  unfold putHourly reconnect
  cases summaries <;> cases summary.stored? <;> rfl

theorem putDaily_reconnect [Gauge α] (s : Store α) (summary : Summary α .day) :
    s.reconnect.putDaily summary = (s.putDaily summary).map reconnect := by
  obtain ⟨months, summaries, ensured⟩ := s
  unfold putDaily reconnect
  cases summaries <;> cases summary.stored? <;> rfl

section Map

variable {φ : Store α → Store α} {s : Store α} {start : Int}

/-- Writing summaries in turn commutes with what each of the writes commutes with. -/
theorem rollupEach_map {summarise : Store α → String → Option (Except StoreError (Store α))}
    (hs : ∀ s a, summarise (φ s) a = (summarise s a).map (Except.map φ)) :
    ∀ (agents : List String) (s : Store α) (report : RollupReport),
      rollupEach summarise agents (φ s) report =
        (rollupEach summarise agents s report).map φ id
  | [], _, _ => rfl
  | a :: agents, s, report => by
    unfold rollupEach
    rw [hs]
    rcases summarise s a with _ | e | s'
    · exact rollupEach_map hs agents s _
    · exact rollupEach_map hs agents s _
    · exact rollupEach_map hs agents s' _

theorem rollupHour_map [Gauge α]
    (hput : ∀ s summary, putHourly (φ s) summary = (putHourly s summary).map φ)
    (hraw : (φ s).rowsBetween start (start + Span.hour.millis) =
      s.rowsBetween start (start + Span.hour.millis)) :
    (φ s).rollupHour start = (s.rollupHour start).map (Prod.map φ id) := by
  unfold rollupHour
  rw [hraw]
  cases s.rowsBetween start (start + Span.hour.millis) with
  | error e => rfl
  | ok rows =>
    refine congrArg Except.ok (rollupEach_map (fun s a => ?_) _ s _)
    cases Summary.ofHour? a start (rowsOf a rows) with
    | none => rfl
    | some summary => exact congrArg some (hput s summary)

theorem rollupDay_map [Gauge α]
    (hput : ∀ s summary, putDaily (φ s) summary = (putDaily s summary).map φ)
    (hsummaries : (φ s).summaries = s.summaries) :
    (φ s).rollupDay start = (s.rollupDay start).map (Prod.map φ id) := by
  unfold rollupDay
  rw [hsummaries]
  cases s.summaries with
  | none => rfl
  | some tables =>
    refine congrArg Except.ok (rollupEach_map (fun s a => ?_) _ s _)
    cases Summary.ofDay? a start
        (Summary.select a start (start + Span.day.millis - 1) tables.hourly) with
    | none => rfl
    | some summary => exact congrArg some (hput s summary)

end Map

theorem rollupHour_reconnect [Gauge α] (s : Store α) (start : Int) :
    s.reconnect.rollupHour start = (s.rollupHour start).map forgetting :=
  rollupHour_map putHourly_reconnect rfl

theorem rollupDay_reconnect [Gauge α] (s : Store α) (start : Int) :
    s.reconnect.rollupDay start = (s.rollupDay start).map forgetting :=
  rollupDay_map putDaily_reconnect rfl

theorem pruneMonth_reconnect (first : Int) (c : Month) (s : Store α) (report : CleanupReport)
    (m : Month) :
    pruneMonth first c s.reconnect report m = forgetting (pruneMonth first c s report m) := by
  have ht : s.reconnect.table? m = s.table? m := rfl
  unfold pruneMonth
  by_cases hlt : m < c
  · rw [if_pos hlt, if_pos hlt]
    rfl
  · rw [if_neg hlt, if_neg hlt]
    by_cases heq : m = c
    · rw [if_pos heq, if_pos heq, ht]
      rcases s.table? m with _ | rs | _ <;> rfl
    · rw [if_neg heq, if_neg heq]
      rfl

theorem foldl_pruneMonth_reconnect (first : Int) (c : Month) : ∀ (ms : List Month) (s : Store α)
    (report : CleanupReport),
    ms.foldl (fun (s, report) m => pruneMonth first c s report m) (s.reconnect, report) =
      forgetting (ms.foldl (fun (s, report) m => pruneMonth first c s report m) (s, report))
  | [], _, _ => rfl
  | m :: ms, s, report => by
    rw [List.foldl_cons, List.foldl_cons]
    dsimp only
    rw [pruneMonth_reconnect]
    exact foldl_pruneMonth_reconnect first c ms _ _

theorem pruneRaw_reconnect (first : Int) (s : Store α) (report : CleanupReport) :
    pruneRaw first s.reconnect report = forgetting (pruneRaw first s report) := by
  unfold pruneRaw
  cases Month.containing? first with
  | none => rfl
  | some c => exact foldl_pruneMonth_reconnect first c s.listed s report

theorem pruneSummaries_reconnect (firstHour firstDay : Int) (s : Store α)
    (report : CleanupReport) :
    pruneSummaries firstHour firstDay s.reconnect report =
      forgetting (pruneSummaries firstHour firstDay s report) := by
  obtain ⟨months, summaries, ensured⟩ := s
  unfold pruneSummaries reconnect
  cases summaries <;> rfl

theorem cleanup_reconnect (s : Store α) (now : Int) (policy : RetentionPolicy) :
    s.reconnect.cleanup now policy = forgetting (s.cleanup now policy) := by
  unfold cleanup
  rw [pruneRaw_reconnect]
  exact pruneSummaries_reconnect _ _ _ _

end Store

/-- Whether an operation sees to the tables of months. -/
def Operation.seesToMonths {α : Type} : Operation α → Bool
  | .save _ | .saveAll _ | .setUp _ => true
  | _ => false

namespace Store

variable {α : Type} [Gauge α]

theorem rollupPreviousHour_reconnect (s : Store α) (now : Int) :
    s.reconnect.rollupPreviousHour now = forgetting (s.rollupPreviousHour now) := by
  unfold rollupPreviousHour
  rw [rollupHour_reconnect]
  cases s.rollupHour (previousStart .hour now) <;> rfl

theorem cleanupCycle_reconnect (s : Store α) (now : Int) (policy : RetentionPolicy)
    (vacuumAfter : Bool) :
    s.reconnect.cleanupCycle now policy vacuumAfter =
      forgetting (s.cleanupCycle now policy vacuumAfter) := by
  unfold cleanupCycle
  rw [rollupDay_reconnect]
  cases s.rollupDay (previousStart .day now) with
  | error e =>
    dsimp only [Except.map]
    rw [cleanup_reconnect]
    cases vacuumAfter <;> rfl
  | ok result =>
    dsimp only [Except.map, forgetting]
    rw [cleanup_reconnect]
    cases vacuumAfter <;> rfl

/-- **What does not see to the tables of months** does not ask what the store remembers. -/
theorem perform_reconnect (s : Store α) {op : Operation α} (hop : op.seesToMonths = false) :
    s.reconnect.perform op = forgetting (s.perform op) := by
  cases op with
  | save | saveAll | setUp => cases hop
  | range | aggregated | hourly | daily | listed | hasMonth | vacuum | reconnect |
      createSummaries => rfl
  | rollupHour start =>
    unfold perform
    dsimp only
    rw [rollupHour_reconnect]
    cases s.rollupHour start <;> rfl
  | rollupDay start =>
    unfold perform
    dsimp only
    rw [rollupDay_reconnect]
    cases s.rollupDay start <;> rfl
  | rollupPreviousHour now =>
    unfold perform
    dsimp only
    rw [rollupPreviousHour_reconnect]
    rfl
  | cleanup now policy =>
    unfold perform
    dsimp only
    rw [cleanup_reconnect]
    rfl
  | cleanupCycle now policy vacuumAfter =>
    unfold perform
    dsimp only
    rw [cleanupCycle_reconnect]
    rfl

/-! ### Two stores on one database -/

omit [Gauge α] in
/-- **A month that is remembered would be found.** -/
theorem Mindful.ensure_reconnect {s : Store α} (h : s.Mindful) (m : Month) :
    (s.reconnect.ensure m).map reconnect = (s.ensure m).map reconnect := by
  have ht : s.reconnect.table? m = s.table? m := rfl
  have hforgotten : m ∉ s.reconnect.ensured := List.not_mem_nil
  unfold Store.ensure
  rw [if_neg hforgotten, ht]
  by_cases hm : m ∈ s.ensured
  · obtain ⟨hyear, rs, hrs⟩ := h m hm
    rw [if_pos hm, if_neg (by omega), hrs]
    rfl
  · rw [if_neg hm]
    by_cases hyear : m.year < 0
    · rw [if_pos hyear, if_pos hyear]
    · rw [if_neg hyear, if_neg hyear]
      rcases s.table? m with _ | rs | _ <;> rfl

/-- Results that are alike failed alike, or both succeeded. -/
theorem map_eq_map_cases {ε β γ : Type} {f : β → γ} {x y : Except ε β} (h : x.map f = y.map f) :
    (∃ e, x = .error e ∧ y = .error e) ∨ ∃ a b, x = .ok a ∧ y = .ok b ∧ f a = f b := by
  cases x with
  | error e =>
    cases y with
    | error e' => exact .inl ⟨e, rfl, by rw [Except.error.inj h]⟩
    | ok b => cases h
  | ok a =>
    cases y with
    | error e' => cases h
    | ok b => exact .inr ⟨a, b, rfl, rfl, Except.ok.inj h⟩

/-- Two stores on one database, neither of which remembers a month in vain. -/
structure Shared (s s' : Store α) : Prop where
  left : s.Mindful
  right : s'.Mindful
  database : s.reconnect = s'.reconnect

section Shared

variable {s s' : Store α} (h : Shared s s')
include h

omit [Gauge α] in
theorem Shared.ensure (m : Month) : (s.ensure m).map reconnect = (s'.ensure m).map reconnect := by
  rw [← h.left.ensure_reconnect, h.database, h.right.ensure_reconnect]

theorem Shared.append (m : Month) (r : Record α) :
    (s.append m r).map reconnect = (s'.append m r).map reconnect := by
  rw [← append_reconnect, h.database, append_reconnect]

/-- A save is answered alike, also where the one has to create the table and the other has not. -/
theorem Shared.save (r : Record α) :
    Shared (s.save r).1 (s'.save r).1 ∧ (s.save r).2 = (s'.save r).2 := by
  suffices hsave : (s.save r).1.reconnect = (s'.save r).1.reconnect ∧
      (s.save r).2 = (s'.save r).2 from ⟨⟨h.left.save r, h.right.save r, hsave.1⟩, hsave.2⟩
  unfold Store.save
  cases Month.containing? r.timestamp with
  | none => exact ⟨h.database, rfl⟩
  | some m =>
    dsimp only
    rcases map_eq_map_cases (h.ensure m) with ⟨e, he, he'⟩ | ⟨s₁, s₁', he, he', heq⟩
    · rw [he, he']
      exact ⟨h.database, rfl⟩
    · rw [he, he']
      dsimp only
      have hensured : Shared s₁ s₁' := ⟨h.left.ensure he, h.right.ensure he', heq⟩
      rcases map_eq_map_cases (hensured.append m r) with ⟨e, ha, ha'⟩ | ⟨s₂, s₂', ha, ha', heq'⟩
      · rw [ha, ha']
        exact ⟨heq, rfl⟩
      · rw [ha, ha']
        exact ⟨heq', rfl⟩

omit h in
theorem Shared.saveAll : ∀ (rs : List (Record α)) {s s' : Store α}, Shared s s' →
    Shared (s.saveAll rs).1 (s'.saveAll rs).1 ∧ (s.saveAll rs).2 = (s'.saveAll rs).2
  | [], _, _, h => ⟨h, rfl⟩
  | r :: rs, s, s', h => by
    obtain ⟨hnext, hanswer⟩ := h.save r
    obtain ⟨hrest, hcount⟩ := hnext.saveAll rs
    unfold Store.saveAll
    generalize s.save r = x at *
    generalize s'.save r = y at *
    obtain ⟨s₁, outcome⟩ := x
    obtain ⟨s₁', outcome'⟩ := y
    obtain rfl := show outcome = outcome' from hanswer
    cases outcome with
    | error e => exact ⟨hrest, hcount⟩
    | ok _ => exact ⟨hrest, congrArg (· + 1) hcount⟩

omit [Gauge α] in
theorem Shared.createSummaries : Shared s.createSummaries s'.createSummaries :=
  ⟨h.left.withSummaries _, h.right.withSummaries _,
    congrArg (fun s : Store α => s.createSummaries) h.database⟩

omit [Gauge α] in
theorem Shared.setUp (now : Int) :
    (s.setUp now).map reconnect = (s'.setUp now).map reconnect := by
  unfold Store.setUp
  cases Month.containing? now with
  | none => rfl
  | some m => exact h.createSummaries.ensure m

theorem Shared.perform_setUp (now : Int) :
    (s.step (.setUp now)).reconnect = (s'.step (.setUp now)).reconnect ∧
      (s.perform (.setUp now)).2 = (s'.perform (.setUp now)).2 := by
  unfold step Store.perform
  dsimp only
  rcases map_eq_map_cases (h.setUp now) with ⟨e, he, he'⟩ | ⟨s₁, s₁', he, he', heq⟩
  · rw [he, he']
    exact ⟨h.createSummaries.database, rfl⟩
  · rw [he, he']
    exact ⟨heq, rfl⟩

/-- **Two stores on one database answer alike**, and share it afterwards. -/
theorem Shared.perform (op : Operation α) :
    Shared (s.step op) (s'.step op) ∧ (s.perform op).2 = (s'.perform op).2 := by
  cases hop : op.seesToMonths with
  | false =>
    have heq : forgetting (s.perform op) = forgetting (s'.perform op) := by
      rw [← perform_reconnect s hop, h.database, perform_reconnect s' hop]
    obtain ⟨hdatabase, hanswer⟩ := Prod.mk.inj heq
    exact ⟨⟨h.left.step op, h.right.step op, hdatabase⟩, hanswer⟩
  | true =>
    cases op with
    | save r =>
      obtain ⟨hshared, hanswer⟩ := h.save r
      exact ⟨hshared, congrArg Answer.saved hanswer⟩
    | saveAll rs =>
      obtain ⟨hshared, hanswer⟩ := h.saveAll rs
      exact ⟨hshared, congrArg Answer.savedAll hanswer⟩
    | setUp now =>
      obtain ⟨hdatabase, hanswer⟩ := h.perform_setUp now
      exact ⟨⟨h.left.step _, h.right.step _, hdatabase⟩, hanswer⟩
    | _ => cases hop

end Shared

/-! ### Runs with interruptions -/

/-- What a store answers in a run. -/
def answers : Store α → List (Operation α) → List (Answer α) :=
  emitted step fun s op => [(s.perform op).2]

/-- A store after an operation, or, if there is none, another store on its database. -/
def stepOrReplace (s : Store α) : Option (Operation α) → Store α
  | some op => s.step op
  | none => s.reconnect

/-- What is answered in a run in which the store is replaced now and then. -/
def interruptedAnswers : Store α → List (Option (Operation α)) → List (Answer α) :=
  emitted stepOrReplace fun s event => (event.map fun op => (s.perform op).2).toList

theorem Shared.interrupted (events : List (Option (Operation α))) :
    ∀ {s s' : Store α}, Shared s s' →
      Shared (events.foldl stepOrReplace s) (s'.run events.reduceOption) ∧
        s.interruptedAnswers events = s'.answers events.reduceOption := by
  induction events with
  | nil => exact fun h => ⟨h, rfl⟩
  | cons event events ih =>
    intro s s' h
    cases event with
    | none =>
      have hreplaced : Shared s.reconnect s' := ⟨mindful_reconnect s, h.right, h.database⟩
      rw [List.reduceOption_cons_of_none]
      exact ih hreplaced
    | some op =>
      obtain ⟨hshared, hanswer⟩ := h.perform op
      obtain ⟨hend, hanswers⟩ := ih hshared
      rw [List.reduceOption_cons_of_some]
      exact ⟨hend, congrArg₂ List.cons hanswer hanswers⟩

/-- **What a store remembers changes no answer.** A store comes to a database of any contents, and
nobody else drops a table of it. Whatever is done, each month that it remembers has its table. If it
is replaced by a new store on the same database at any points of a run, every operation of the run
is answered as it would have been, and the run leaves the same database. -/
theorem answers_interrupted (database : Store α) :
    (∀ ops : List (Operation α), ∀ m ∈ (database.reconnect.run ops).ensured,
      (database.reconnect.run ops).hasMonth m = true) ∧
    ∀ events : List (Option (Operation α)),
      database.reconnect.interruptedAnswers events =
        database.reconnect.answers events.reduceOption ∧
      (events.foldl stepOrReplace database.reconnect).reconnect =
        (database.reconnect.run events.reduceOption).reconnect := by
  have hfresh : database.reconnect.Mindful := mindful_reconnect database
  refine ⟨fun ops m hm => ?_, fun events => ?_⟩
  · obtain ⟨-, rs, ht⟩ := hfresh.run ops m hm
    unfold hasMonth
    rw [ht]
    rfl
  · have hshared : Shared database.reconnect database.reconnect := ⟨hfresh, hfresh, rfl⟩
    obtain ⟨hend, hanswers⟩ := hshared.interrupted events
    exact ⟨hanswers, hend.database⟩

/-- A row that is refused in a new month, one that is taken there, and one for a month that a
cleanup has dropped; the store is replaced in between each time. -/
def droppedMonth : List (Option (Operation Float)) :=
  [some (.save (.uniform "a" 1706745600000 (0.0 / 0.0) 1)),
    none,
    some (.save (.uniform "a" 1706745600000 1.5 2)),
    none,
    some (.save (.uniform "a" 1704067199999 1.5 3)),
    none,
    some (.cleanup 1706832000000 ⟨1, 1, 1⟩),
    none,
    some (.save (.uniform "a" 1704067199999 2.5 4))]

theorem answers_interrupted_droppedMonth :
    let s := ({} : Store Float).reconnect
    (⟨2023, 12⟩ ∈ (s.run droppedMonth.reduceOption).ensured ∧
      (s.run droppedMonth.reduceOption).hasMonth ⟨2023, 12⟩ = true) ∧
    ((s.run (droppedMonth.reduceOption.take 4)).hasMonth ⟨2023, 12⟩ = false) ∧
    s.interruptedAnswers droppedMonth = s.answers droppedMonth.reduceOption := by
  intro s
  have hmem : ⟨2023, 12⟩ ∈ (s.run droppedMonth.reduceOption).ensured := by decide +kernel
  obtain ⟨htables, hanswers⟩ := answers_interrupted ({} : Store Float)
  exact ⟨⟨hmem, htables _ _ hmem⟩, by decide +kernel, (hanswers droppedMonth).1⟩

end Store
end FleetTelemetry

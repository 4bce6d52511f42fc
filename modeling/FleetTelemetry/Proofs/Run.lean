/-
# Runs of a store

Whatever is done with a store is an operation with an answer, and a run is a
list of operations, one after the other. Of a run it is said which rows its
saves accepted, which of them no later cleanup took, and whether its rollups
reported a failure; all of it goes by the answers alone.

Key definitions: `Operation`, `Answer`, `Store.perform`, `Store.run`,
`Store.acceptedIn`, `Operation.spares`, `Store.kept`, `Store.Faultless`.
Key theorems: `Store.acceptedIn_append`, `Store.kept_concat`, `Store.kept_filter`.
-/
import FleetTelemetry.Store.Database
import FleetTelemetry.Store.Maintenance
import Mathlib.Data.List.Basic

namespace FleetTelemetry

/-- A row whose readings are alike, and its counters too. -/
def Record.uniform {α : Type} (agentId : String) (timestamp : Int) (reading : α)
    (counter : UInt64) : Record α where
  agentId
  timestamp
  cpuPercent := reading
  memPercent := reading
  diskReadBps := counter
  diskWriteBps := counter
  netRxBps := counter
  netTxBps := counter
  gpuPercent := reading
  loadAvg1 := reading

/-- What can be done with a store. -/
inductive Operation (α : Type) where
  | save (r : Record α)
  | saveAll (rs : List (Record α))
  | range (agentId : String) (first last : Int) (limit : Nat)
  | aggregated (agentId : String) (first last : Int) (interval : Option String)
  | hourly (agentId : String) (first last : Int)
  | daily (agentId : String) (first last : Int)
  | listed
  | hasMonth (m : Month)
  | rollupHour (start : Int)
  | rollupDay (start : Int)
  | rollupPreviousHour (now : Int)
  | cleanup (now : Int) (policy : RetentionPolicy)
  | cleanupCycle (now : Int) (policy : RetentionPolicy) (vacuumAfter : Bool)
  | vacuum
  | reconnect
  | createSummaries
  | setUp (now : Int)

/-- What a store answers to an operation. -/
inductive Answer (α : Type) where
  | done
  | saved (outcome : Except StoreError Unit)
  | savedAll (taken : Nat)
  | rows (rs : List (Record α))
  | hours (result : Except StoreError (List (Summary α .hour)))
  | days (result : Except StoreError (List (Summary α .day)))
  | months (ms : List Month)
  | present (there : Bool)
  | rolledUp (result : Except StoreError RollupReport)
  | rolledUpHour (report : Option RollupReport)
  | cleaned (report : CleanupReport)
  | ready (outcome : Except StoreError Unit)

/-- Whether an answer tells of no failure in a rollup. -/
def Answer.isFaultless {α : Type} : Answer α → Bool
  | .rolledUp (.ok report) => report.failures == 0
  | .rolledUp (.error _) => false
  | .rolledUpHour (some report) => report.failures == 0
  | .rolledUpHour none => false
  | _ => true

/-- Whether an operation leaves a row where it is. A cleanup takes those before its raw cutoff, if a
month can be reckoned for that. -/
def Operation.spares {α : Type} : Operation α → Record α → Bool
  | .cleanup now policy, r | .cleanupCycle now policy _, r =>
    !Month.instantInRange (cutoff now policy.rawDays) ||
      decide (cutoff now policy.rawDays ≤ r.timestamp)
  | _, _ => true

namespace Store

variable {α : Type} [Gauge α]

/-- A store after an operation, and the answer. -/
def perform (s : Store α) : Operation α → Store α × Answer α
  | .save r => ((s.save r).1, .saved (s.save r).2)
  | .saveAll rs => ((s.saveAll rs).1, .savedAll (s.saveAll rs).2)
  | .range agentId first last limit => (s, .rows (s.range agentId first last limit))
  | .aggregated agentId first last interval =>
    (s, .rows (s.aggregated agentId first last interval))
  | .hourly agentId first last => (s, .hours (s.hourly agentId first last))
  | .daily agentId first last => (s, .days (s.daily agentId first last))
  | .listed => (s, .months s.listed)
  | .hasMonth m => (s, .present (s.hasMonth m))
  | .rollupHour start =>
    match s.rollupHour start with
    | .ok (s, report) => (s, .rolledUp (.ok report))
    | .error e => (s, .rolledUp (.error e))
  | .rollupDay start =>
    match s.rollupDay start with
    | .ok (s, report) => (s, .rolledUp (.ok report))
    | .error e => (s, .rolledUp (.error e))
  | .rollupPreviousHour now =>
    ((s.rollupPreviousHour now).1, .rolledUpHour (s.rollupPreviousHour now).2)
  | .cleanup now policy => ((s.cleanup now policy).1, .cleaned (s.cleanup now policy).2)
  | .cleanupCycle now policy vacuumAfter =>
    ((s.cleanupCycle now policy vacuumAfter).1,
      .cleaned (s.cleanupCycle now policy vacuumAfter).2)
  | .vacuum => (s.vacuum, .done)
  | .reconnect => (s.reconnect, .done)
  | .createSummaries => (s.createSummaries, .done)
  | .setUp now =>
    match s.setUp now with
    | .ok s => (s, .ready (.ok ()))
    | .error e => (s.createSummaries, .ready (.error e))

/-- The store after an operation. -/
def step (s : Store α) (op : Operation α) : Store α := (s.perform op).1

theorem step_rollupHour (s : Store α) (start : Int) : s.step (.rollupHour start) =
    match s.rollupHour start with
    | .ok (s, _) => s
    | .error _ => s := by
  unfold step perform
  dsimp only
  split <;> rfl

theorem step_rollupDay (s : Store α) (start : Int) : s.step (.rollupDay start) =
    match s.rollupDay start with
    | .ok (s, _) => s
    | .error _ => s := by
  unfold step perform
  dsimp only
  split <;> rfl

theorem step_rollupPreviousHour (s : Store α) (now : Int) :
    s.step (.rollupPreviousHour now) = s.step (.rollupHour (previousStart .hour now)) := by
  rw [step_rollupHour]
  unfold step perform rollupPreviousHour
  dsimp only
  cases s.rollupHour (previousStart .hour now) <;> rfl

/-- A cleanup cycle rolls up the last day and cleans up. -/
theorem step_cleanupCycle (s : Store α) (now : Int) (policy : RetentionPolicy)
    (vacuumAfter : Bool) : s.step (.cleanupCycle now policy vacuumAfter) =
      (s.step (.rollupDay (previousStart .day now))).step (.cleanup now policy) := by
  rw [step_rollupDay]
  unfold step perform cleanupCycle
  dsimp only
  split <;> rfl

theorem step_setUp (s : Store α) (now : Int) : s.step (.setUp now) =
    match s.setUp now with
    | .ok s => s
    | .error _ => s.createSummaries := by
  unfold step perform
  dsimp only
  split <;> rfl

/-- A rollup without a failure has a report that counts none. -/
theorem failures_of_rollupHour {s s' : Store α} {start : Int} {report : RollupReport}
    (h : s.rollupHour start = .ok (s', report))
    (hf : (s.perform (.rollupHour start)).2.isFaultless = true) : report.failures = 0 := by
  have hp : s.perform (.rollupHour start) = (s', .rolledUp (.ok report)) := by
    unfold perform
    dsimp only
    rw [h]
  rw [hp] at hf
  exact beq_iff_eq.mp hf

theorem failures_of_rollupDay {s s' : Store α} {start : Int} {report : RollupReport}
    (h : s.rollupDay start = .ok (s', report))
    (hf : (s.perform (.rollupDay start)).2.isFaultless = true) : report.failures = 0 := by
  have hp : s.perform (.rollupDay start) = (s', .rolledUp (.ok report)) := by
    unfold perform
    dsimp only
    rw [h]
  rw [hp] at hf
  exact beq_iff_eq.mp hf

theorem failures_of_rollupPreviousHour {s s' : Store α} {now : Int} {report : RollupReport}
    (h : s.rollupHour (previousStart .hour now) = .ok (s', report))
    (hf : (s.perform (.rollupPreviousHour now)).2.isFaultless = true) : report.failures = 0 := by
  have hp : s.rollupPreviousHour now = (s', some report) := by
    unfold rollupPreviousHour
    rw [h]
  unfold perform at hf
  dsimp only at hf
  rw [hp] at hf
  exact beq_iff_eq.mp hf

/-- The store after a run. -/
def run (s : Store α) (ops : List (Operation α)) : Store α := ops.foldl step s

@[simp] theorem run_nil (s : Store α) : s.run [] = s := rfl

@[simp] theorem run_cons (s : Store α) (op : Operation α) (ops : List (Operation α)) :
    s.run (op :: ops) = (s.step op).run ops := rfl

@[simp] theorem run_append (s : Store α) (ops ops' : List (Operation α)) :
    s.run (ops ++ ops') = (s.run ops).run ops' := List.foldl_append

/-! ### What the saves of a run accept -/

/-- The rows that are taken if some are saved in turn, as they are read back. -/
def taken (s : Store α) : List (Record α) → List (Record α)
  | [] => []
  | r :: rs =>
    match s.save r with
    | (s, .ok _) => r.stored?.toList ++ s.taken rs
    | (s, .error _) => s.taken rs

/-- The rows that the saves of an operation accept. -/
def accepted (s : Store α) : Operation α → List (Record α)
  | .save r => s.taken [r]
  | .saveAll rs => s.taken rs
  | _ => []

/-- The rows that the saves of a run accept, in their order. -/
def acceptedIn (s : Store α) : List (Operation α) → List (Record α)
  | [] => []
  | op :: ops => s.accepted op ++ (s.step op).acceptedIn ops

/-- The rows that the saves of a run accept and no later operation takes. -/
def kept (s : Store α) : List (Operation α) → List (Record α)
  | [] => []
  | op :: ops =>
    ((s.accepted op).filter fun r => ops.all fun later => later.spares r) ++ (s.step op).kept ops

/-- Whether no rollup of a run tells of a failure. -/
def Faultless (s : Store α) : List (Operation α) → Prop
  | [] => True
  | op :: ops => (s.perform op).2.isFaultless = true ∧ (s.step op).Faultless ops

instance decidableFaultless : ∀ (s : Store α) (ops : List (Operation α)),
    Decidable (s.Faultless ops)
  | _, [] => .isTrue trivial
  | s, op :: ops =>
    have := decidableFaultless (s.step op) ops
    inferInstanceAs (Decidable (_ ∧ _))

theorem acceptedIn_append (ops' : List (Operation α)) : ∀ (s : Store α) (ops : List (Operation α)),
    s.acceptedIn (ops ++ ops') = s.acceptedIn ops ++ (s.run ops).acceptedIn ops'
  | _, [] => rfl
  | s, op :: ops => by
    simp only [List.cons_append, acceptedIn, run_cons, acceptedIn_append ops' (s.step op) ops,
      List.append_assoc]

theorem acceptedIn_concat (s : Store α) (ops : List (Operation α)) (op : Operation α) :
    s.acceptedIn (ops ++ [op]) = s.acceptedIn ops ++ (s.run ops).accepted op := by
  rw [acceptedIn_append]
  simp only [acceptedIn, List.append_nil]

/-- An operation at the end of a run takes from what was kept before it and adds its own. -/
theorem kept_concat (op : Operation α) : ∀ (s : Store α) (ops : List (Operation α)),
    s.kept (ops ++ [op]) = (s.kept ops).filter op.spares ++ (s.run ops).accepted op
  | s, [] => by simp [kept]
  | s, op' :: ops => by
    simp only [List.cons_append, kept, run_cons, kept_concat op (s.step op') ops,
      List.filter_append, List.filter_filter, List.append_assoc]
    congr 2
    funext r
    simp [Bool.and_comm]

/-- Rows that every operation of a run spares are kept as they were accepted. -/
theorem kept_filter (p : Record α → Bool) : ∀ (s : Store α) (ops : List (Operation α)),
    (∀ op ∈ ops, ∀ r, p r = true → op.spares r = true) →
    (s.kept ops).filter p = (s.acceptedIn ops).filter p
  | _, [], _ => rfl
  | s, op :: ops, h => by
    have hops : ∀ later ∈ ops, ∀ r, p r = true → later.spares r = true := fun later hl =>
      h later (List.mem_cons_of_mem _ hl)
    simp only [kept, acceptedIn, List.filter_append, kept_filter p (s.step op) ops hops,
      List.filter_filter]
    congr 1
    refine List.filter_congr fun r _ => ?_
    cases hp : p r with
    | false => rfl
    | true => simpa using fun later hl => hops later hl r hp

theorem mem_kept {r : Record α} : ∀ {s : Store α} {ops : List (Operation α)}, r ∈ s.kept ops →
    r ∈ s.acceptedIn ops
  | _, [], h => h
  | s, op :: ops, h => by
    simp only [kept, List.mem_append, List.mem_filter] at h
    simp only [acceptedIn, List.mem_append]
    exact h.imp And.left mem_kept

theorem mem_taken {r : Record α} : ∀ {rs : List (Record α)} {s : Store α}, r ∈ s.taken rs →
    ∃ r₀ : Record α, r₀.stored? = some r
  | r' :: rs, s, h => by
    unfold taken at h
    split at h
    · rcases List.mem_append.mp h with h | h
      · exact ⟨r', Option.mem_toList.mp h⟩
      · exact mem_taken h
    · exact mem_taken h

/-- What is accepted was stored. -/
theorem mem_acceptedIn {r : Record α} : ∀ {ops : List (Operation α)} {s : Store α},
    r ∈ s.acceptedIn ops → ∃ r₀ : Record α, r₀.stored? = some r
  | op :: ops, s, h => by
    rcases List.mem_append.mp h with h | h
    · cases op with
      | save | saveAll => exact mem_taken h
      | _ => cases h
    · exact mem_acceptedIn h

theorem faultless_append (ops' : List (Operation α)) : ∀ (s : Store α) (ops : List (Operation α)),
    s.Faultless (ops ++ ops') ↔ s.Faultless ops ∧ (s.run ops).Faultless ops'
  | _, [] => by simp [Faultless]
  | s, op :: ops => by
    simp only [List.cons_append, Faultless, run_cons, faultless_append ops' (s.step op) ops,
      and_assoc]

end Store
end FleetTelemetry

/-
# Buckets filled in one pass

The rows of buckets can be made in one pass: an ascending map from the starts of
buckets to tallies, in which each row is entered as it comes. A tally knows who
sent the first row of its bucket, has a sum for each field and counts its rows;
its sums of counters have 128 bits, and the count is a word. Rows that a word
can count never fill such a sum (`Word.exactSum_lt_of_length_lt`), so that the
pass ends with the means of the buckets (`Record.bucketedInOnePass_eq`).

Key definitions: `Tally`, `Tally.add`, `Tally.row`, `Tally.enter`,
`Record.bucketedInOnePass`, `Record.exactPart`.
Key theorems: `Tally.foldl_add`, `Tally.row_ofRows`, `Tally.enter_map`,
`Record.bucketedInOnePass_eq`, `Record.bucketed_partitions`.
-/
import FleetTelemetry.Proofs.Buckets
import FleetTelemetry.Proofs.MonthWindow
import FleetTelemetry.Proofs.Run
import Mathlib.Data.List.Induction

namespace FleetTelemetry

/-- The number of words of 128 bits. -/
def Word.size128 : Nat := 2 ^ 128

/-- What is known of a bucket while its rows come in. -/
structure Tally (α : Type) where
  agentId : String
  cpuPercent : α
  memPercent : α
  diskReadBps : BitVec 128
  diskWriteBps : BitVec 128
  netRxBps : BitVec 128
  netTxBps : BitVec 128
  gpuPercent : α
  loadAvg1 : α
  count : UInt64

namespace Tally

variable {α : Type} [Gauge α]

/-- The tally of a bucket whose first row comes from an agent, before that row is added. -/
def opened (agentId : String) : Tally α where
  agentId
  cpuPercent := Gauge.zero
  memPercent := Gauge.zero
  diskReadBps := 0#128
  diskWriteBps := 0#128
  netRxBps := 0#128
  netTxBps := 0#128
  gpuPercent := Gauge.zero
  loadAvg1 := Gauge.zero
  count := 0

/-- Adds a row. -/
def add (t : Tally α) (r : Record α) : Tally α where
  agentId := t.agentId
  cpuPercent := Gauge.add t.cpuPercent r.cpuPercent
  memPercent := Gauge.add t.memPercent r.memPercent
  diskReadBps := t.diskReadBps + r.diskReadBps.toBitVec.setWidth 128
  diskWriteBps := t.diskWriteBps + r.diskWriteBps.toBitVec.setWidth 128
  netRxBps := t.netRxBps + r.netRxBps.toBitVec.setWidth 128
  netTxBps := t.netTxBps + r.netTxBps.toBitVec.setWidth 128
  gpuPercent := Gauge.add t.gpuPercent r.gpuPercent
  loadAvg1 := Gauge.add t.loadAvg1 r.loadAvg1
  count := t.count + 1

/-- What the means are over: the count, and one for an empty bucket. -/
def divisor (t : Tally α) : UInt64 := if t.count < 1 then 1 else t.count

/-- The mean of a sum of counters, cut down to a counter. -/
def counterMean (sum : BitVec 128) (n : UInt64) : UInt64 :=
  UInt64.ofBitVec ((sum / n.toBitVec.setWidth 128).setWidth 64)

/-- The row of a bucket. -/
def row (t : Tally α) (start : Int) : Record α where
  agentId := t.agentId
  timestamp := start
  cpuPercent := Gauge.div t.cpuPercent (Gauge.ofInt t.divisor.toNat)
  memPercent := Gauge.div t.memPercent (Gauge.ofInt t.divisor.toNat)
  diskReadBps := counterMean t.diskReadBps t.divisor
  diskWriteBps := counterMean t.diskWriteBps t.divisor
  netRxBps := counterMean t.netRxBps t.divisor
  netTxBps := counterMean t.netTxBps t.divisor
  gpuPercent := Gauge.div t.gpuPercent (Gauge.ofInt t.divisor.toNat)
  loadAvg1 := Gauge.div t.loadAvg1 (Gauge.ofInt t.divisor.toNat)

/-- Adds a row to the tally of its bucket, which is opened in its place if it is missing. -/
def enter (start : Int) (r : Record α) : List (Int × Tally α) → List (Int × Tally α)
  | [] => [(start, (opened r.agentId).add r)]
  | e :: es =>
    if start = e.1 then (e.1, e.2.add r) :: es
    else if start < e.1 then (start, (opened r.agentId).add r) :: e :: es
    else e :: enter start r es

end Tally

namespace Record

variable {α : Type} [Gauge α]

/-- The tallies of the buckets that hold a row, ascending, each row entered as it comes. -/
def tallies (width : Int) (rows : List (Record α)) : List (Int × Tally α) :=
  rows.foldl (fun ts r => Tally.enter (bucketStart width r.timestamp) r ts) []

/-- The rows of buckets, made in one pass. -/
def bucketedInOnePass (width : BucketWidth) (rows : List (Record α)) : List (Record α) :=
  (tallies width.millis rows).map fun e => e.2.row e.1

end Record

/-! ### Sums that fit -/

namespace Word

theorem exactSum_lt_of_length_lt {xs : List UInt64} (h : xs.length < size64) :
    exactSum xs < size128 := by
  have hle : xs.length * (size64 - 1) ≤ size64 * (size64 - 1) :=
    Nat.mul_le_mul_right _ (Nat.le_of_lt h)
  have hlt : size64 * (size64 - 1) < size128 := by decide
  have := exactSum_le xs
  omega

end Word

/-! ### One tally -/

namespace Tally

variable {α : Type} [Gauge α]

private theorem add_ofNat (x : UInt64) (n : Nat) (b : BitVec 128) :
    b + x.toBitVec.setWidth 128 + BitVec.ofNat 128 n = b + BitVec.ofNat 128 (x.toNat + n) := by
  have hx : x.toBitVec.setWidth 128 = BitVec.ofNat 128 x.toNat := by
    apply BitVec.eq_of_toNat_eq
    rw [BitVec.toNat_setWidth, BitVec.toNat_ofNat, UInt64.toNat_toBitVec]
  rw [hx, BitVec.add_assoc, BitVec.ofNat_add]

theorem foldl_add (rows : List (Record α)) : ∀ t : Tally α,
    rows.foldl add t = {
      agentId := t.agentId
      cpuPercent := (rows.map Record.cpuPercent).foldl Gauge.add t.cpuPercent
      memPercent := (rows.map Record.memPercent).foldl Gauge.add t.memPercent
      diskReadBps := t.diskReadBps + BitVec.ofNat 128 (Word.exactSum (rows.map Record.diskReadBps))
      diskWriteBps :=
        t.diskWriteBps + BitVec.ofNat 128 (Word.exactSum (rows.map Record.diskWriteBps))
      netRxBps := t.netRxBps + BitVec.ofNat 128 (Word.exactSum (rows.map Record.netRxBps))
      netTxBps := t.netTxBps + BitVec.ofNat 128 (Word.exactSum (rows.map Record.netTxBps))
      gpuPercent := (rows.map Record.gpuPercent).foldl Gauge.add t.gpuPercent
      loadAvg1 := (rows.map Record.loadAvg1).foldl Gauge.add t.loadAvg1
      count := t.count + UInt64.ofNat rows.length } := by
  induction rows with
  | nil =>
    intro t
    have hcount : t.count + UInt64.ofNat 0 = t.count := UInt64.add_zero _
    simp only [List.foldl_nil, List.map_nil, Word.exactSum, List.length_nil, BitVec.add_zero,
      hcount]
  | cons r rows ih =>
    intro t
    have hcount : t.count + 1 + UInt64.ofNat rows.length =
        t.count + UInt64.ofNat (rows.length + 1) := by
      rw [UInt64.ofNat_add, UInt64.add_assoc, UInt64.add_comm 1]
      rfl
    rw [List.foldl_cons, ih]
    simp only [add, List.map_cons, List.foldl_cons, List.length_cons, Word.exactSum, add_ofNat,
      hcount]

/-- The tally of a bucket with some rows. -/
def ofRows (rows : List (Record α)) : Tally α :=
  rows.foldl add (opened ((rows.head?.map Record.agentId).getD ""))

theorem ofRows_singleton (r : Record α) : ofRows [r] = (opened r.agentId).add r := rfl

theorem ofRows_concat {rows : List (Record α)} (h : rows ≠ []) (r : Record α) :
    ofRows (rows ++ [r]) = (ofRows rows).add r := by
  obtain ⟨r₀, rows, rfl⟩ := List.exists_cons_of_ne_nil h
  rw [ofRows, List.foldl_append]
  rfl

section Means

variable {rows : List (Record α)} (hne : rows ≠ []) (h : rows.length < Word.size64)
include hne h

theorem toNat_divisor_ofRows : (ofRows rows).divisor.toNat = rows.length := by
  have hcount : (ofRows rows).count.toNat = rows.length := by
    rw [ofRows, foldl_add, opened, UInt64.zero_add, UInt64.toNat_ofNat']
    exact Nat.mod_eq_of_lt h
  have hpos : ¬(ofRows rows).count < 1 := fun hlt => by
    have hzero : (ofRows rows).count.toNat < 1 := UInt64.lt_iff_toNat_lt.mp hlt
    have := List.length_pos_iff.mpr hne
    omega
  rw [divisor, if_neg hpos, hcount]

/-- The sum and the quotient of counters are exact, and nothing is lost in the cut. -/
theorem counterMean_ofRows (field : Record α → UInt64) :
    counterMean (0#128 + BitVec.ofNat 128 (Word.exactSum (rows.map field))) (ofRows rows).divisor =
      Word.meanFloor (rows.map field) := by
  have hlen : (rows.map field).length = rows.length := List.length_map _
  have hmap : rows.map field ≠ [] := fun hnil => hne (List.map_eq_nil_iff.mp hnil)
  have hsum : Word.exactSum (rows.map field) < 2 ^ 128 :=
    Word.exactSum_lt_of_length_lt (by rwa [hlen])
  have hdivisor : ((ofRows rows).divisor.toBitVec.setWidth 128).toNat = rows.length := by
    rw [BitVec.toNat_setWidth, UInt64.toNat_toBitVec, toNat_divisor_ofRows hne h]
    exact Nat.mod_eq_of_lt (Nat.lt_trans h (by decide))
  have hmean := Word.toNat_meanFloor hmap
  have hlt := (Word.meanFloor (rows.map field)).toNat_lt
  rw [hmean] at hlt
  apply UInt64.toNat_inj.mp
  rw [counterMean, UInt64.toNat_ofBitVec, BitVec.toNat_setWidth, BitVec.toNat_udiv, hdivisor,
    BitVec.zero_add, BitVec.toNat_ofNat, Nat.mod_eq_of_lt hsum, hmean, hlen,
    Nat.mod_eq_of_lt (hlen ▸ hlt)]

theorem row_ofRows (start : Int) : (ofRows rows).row start =
    Record.mean ((rows.head?.map Record.agentId).getD "") start rows := by
  have hcounter := counterMean_ofRows hne h
  have hdivisor := toNat_divisor_ofRows hne h
  generalize hd : (ofRows rows).divisor = n at hcounter hdivisor
  rw [row, hd, Record.mean]
  rw [ofRows, foldl_add, opened]
  simp only [hdivisor, hcounter, Gauge.sumFromZero]

end Means

/-! ### The tallies of a pass -/

/-- A row that comes next changes the tally of its own bucket alone. -/
theorem enter_map {start : Int} {r : Record α} {before after : Int → Tally α}
    (hother : ∀ b, b ≠ start → after b = before b) : ∀ {starts : List Int},
    starts.Pairwise (· < ·) → (start ∈ starts → after start = (before start).add r) →
    (start ∉ starts → after start = (opened r.agentId).add r) →
    enter start r (starts.map fun b => (b, before b)) =
      (Ascending.insert start starts).map fun b => (b, after b)
  | [], _, _, hnew => by
    rw [List.map_nil, enter, Ascending.insert, List.map_cons, List.map_nil,
      hnew List.not_mem_nil]
  | b :: bs, hp, hold, hnew => by
    obtain ⟨hb, hbs⟩ := List.pairwise_cons.mp hp
    have hrest : start ∉ bs → (bs.map fun c => (c, before c)) = bs.map fun c => (c, after c) :=
      fun hnot => List.map_congr_left fun c hc => by
        rw [hother c fun hcs => hnot (hcs ▸ hc)]
    rw [List.map_cons, enter, Ascending.insert]
    dsimp only
    by_cases heq : start = b
    · subst heq
      have hnot : start ∉ bs := fun hmem => Int.lt_irrefl _ (hb start hmem)
      rw [if_pos rfl, if_pos rfl, List.map_cons, hold List.mem_cons_self, hrest hnot]
    · rw [if_neg heq, if_neg heq]
      have hbefore : before b = after b := (hother b fun hbs => heq hbs.symm).symm
      by_cases hlt : start < b
      · have hnot : start ∉ bs := fun hmem => by
          have := hb start hmem
          omega
        have hnotin : start ∉ b :: bs := List.not_mem_cons_of_ne_of_not_mem heq hnot
        rw [if_pos hlt, if_pos hlt, List.map_cons, List.map_cons, hnew hnotin, hbefore, hrest hnot]
      · have hmem : start ∈ bs → start ∈ b :: bs := List.mem_cons_of_mem b
        have hnotin : start ∉ bs → start ∉ b :: bs := fun hnot =>
          List.not_mem_cons_of_ne_of_not_mem heq hnot
        rw [if_neg hlt, if_neg hlt, List.map_cons, hbefore,
          enter_map hother hbs (fun h => hold (hmem h)) fun h => hnew (hnotin h)]

end Tally

namespace Record

variable {α : Type} [Gauge α]

/-- **A pass keeps one tally for each bucket that holds a row**, that of the rows it holds. -/
theorem tallies_eq (width : Int) (rows : List (Record α)) :
    tallies width rows = (bucketStarts width rows).map fun start =>
      (start, Tally.ofRows (rows.filter fun r => bucketStart width r.timestamp == start)) := by
  induction rows using List.reverseRecOn with
  | nil => rfl
  | append_singleton rows r ih =>
    have hpass : tallies width (rows ++ [r]) =
        Tally.enter (bucketStart width r.timestamp) r (tallies width rows) := by
      rw [tallies, List.foldl_append]
      rfl
    have hstarts : bucketStarts width (rows ++ [r]) =
        Ascending.insert (bucketStart width r.timestamp) (bucketStarts width rows) := by
      rw [bucketStarts, Ascending.ofList, List.map_append, List.foldl_append]
      rfl
    rw [hpass, hstarts, ih]
    refine Tally.enter_map (fun b hb => ?_) (bucketStarts_ascending width rows) (fun hmem => ?_)
      fun hnot => ?_
    · have hbeq : (bucketStart width r.timestamp == b) = false := beq_eq_false_iff_ne.mpr hb.symm
      rw [List.filter_append, List.filter_singleton, hbeq, cond_false, List.append_nil]
    · obtain ⟨r', hr', heq⟩ := mem_bucketStarts.mp hmem
      rw [List.filter_append, List.filter_singleton, beq_self_eq_true, cond_true,
        Tally.ofRows_concat]
      exact List.ne_nil_of_mem (List.mem_filter.mpr ⟨hr', beq_iff_eq.mpr heq⟩)
    · have hnone : (rows.filter fun r' =>
          bucketStart width r'.timestamp == bucketStart width r.timestamp) = [] :=
        List.filter_eq_nil_iff.mpr fun r' hr' h =>
          hnot (mem_bucketStarts.mpr ⟨r', hr', beq_iff_eq.mp h⟩)
      rw [List.filter_append, List.filter_singleton, beq_self_eq_true, cond_true, hnone,
        List.nil_append, Tally.ofRows_singleton]

/-- **A pass makes the rows of the occupied buckets**, if a word can count what it takes in. -/
theorem bucketedInOnePass_eq (width : BucketWidth) {rows : List (Record α)}
    (h : rows.length < Word.size64) : bucketedInOnePass width rows = bucketed width rows := by
  rw [bucketedInOnePass, tallies_eq, List.map_map, bucketed]
  refine List.map_congr_left fun start hstart => ?_
  obtain ⟨r, hr, heq⟩ := mem_bucketStarts.mp hstart
  refine Tally.row_ofRows ?_ (Nat.lt_of_le_of_lt (List.length_filter_le _ _) h) start
  exact List.ne_nil_of_mem (List.mem_filter.mpr ⟨hr, beq_iff_eq.mpr heq⟩)

/-! ### The order of the rows -/

/-- The part of a row of means that has no rounding and no order: its start and its counters. -/
def exactPart (o : Record α) : Int × List UInt64 := (o.timestamp, counters.map fun field => field o)

theorem exactPart_mean (agentId : String) (start : Int) (rows : List (Record α)) :
    exactPart (mean agentId start rows) =
      (start, counters.map fun field => Word.meanFloor (rows.map field)) := rfl

theorem exactPart_bucketed_perm (width : BucketWidth) {rows rows' : List (Record α)}
    (h : rows.Perm rows') :
    (bucketed width rows).map exactPart = (bucketed width rows').map exactPart := by
  have hrow : ∀ start, exactPart (bucketRow width.millis rows start) =
      exactPart (bucketRow width.millis rows' start) := fun start => by
    have hheld : (inBucket width.millis start rows).Perm (inBucket width.millis start rows') :=
      h.filter _
    rw [bucketRow, bucketRow, exactPart_mean, exactPart_mean]
    exact congrArg _ (List.map_congr_left fun field _ => Word.meanFloor_perm (hheld.map field))
  rw [bucketed_eq, bucketed_eq, List.map_map, List.map_map, bucketStarts_perm width.millis h]
  exact List.map_congr_left fun start _ => hrow start

omit [Gauge α] in
theorem bucketStarts_signed64 (width : BucketWidth) {rows : List (Record α)}
    (h : ∀ r ∈ rows, (Month.containing? r.timestamp).isSome = true) {start : Int}
    (hstart : start ∈ bucketStarts width.millis rows) :
    Word.minSigned64 ≤ start ∧ start ≤ Word.maxSigned64 := by
  obtain ⟨r, hr, rfl⟩ := mem_bucketStarts.mp hstart
  obtain ⟨hfirst, hlast⟩ := (Month.isSome_containing?_iff r.timestamp).mp (h r hr)
  have hle := bucketStart_le width.millis_pos r.timestamp
  have hlt := lt_bucketStart_add width.millis_pos r.timestamp
  have hday := width.millis_le_day
  simp only [Word.minSigned64, Word.maxSigned64, millisPerDay, millisPerHour, millisPerMinute]
    at hday ⊢
  omega

/-! ### What bucketing comes to -/

/-- **Bucketing is the grouping it stands for**, whatever the order of the rows: one row for each
bucket of the time line that holds some, ascending, with the means of what the bucket holds. In one
pass over fewer rows than there are words it comes to the same, and no sum of counters leaves its
128 bits on the way. The starts of the buckets and the counters do not depend on the order of the
rows, and the starts fit in a signed word if the instants can be reckoned with. -/
theorem bucketed_partitions (width : BucketWidth) (rows : List (Record α)) :
    Groups width.millis rows (bucketed width rows) ∧
    (∀ rows', rows'.Perm rows →
      (bucketed width rows').map exactPart = (bucketed width rows).map exactPart) ∧
    (rows.length < Word.size64 →
      bucketedInOnePass width rows = bucketed width rows ∧
      ∀ start, ∀ field ∈ counters,
        Word.exactSum ((inBucket width.millis start rows).map field) < Word.size128) ∧
    ((∀ r ∈ rows, (Month.containing? r.timestamp).isSome = true) →
      ∀ o ∈ bucketed width rows,
        Word.minSigned64 ≤ o.timestamp ∧ o.timestamp ≤ Word.maxSigned64) := by
  refine ⟨groups_bucketed width rows, fun rows' h => exactPart_bucketed_perm width h,
    fun hlen => ⟨bucketedInOnePass_eq width hlen, fun start field _ => ?_⟩, fun h o ho =>
    bucketStarts_signed64 width h (mem_bucketed.mp ho).1⟩
  have hheld : (inBucket width.millis start rows).length ≤ rows.length := List.length_filter_le _ _
  refine Word.exactSum_lt_of_length_lt ?_
  rw [List.length_map]
  exact Nat.lt_of_le_of_lt hheld hlen

/-- Rows before and after the epoch, not in their order, with counters as great as they can be. -/
def aroundEpoch : List (Record Float) :=
  [.uniform "b" (-1) 0.5 18446744073709551615, .uniform "a" 59999 1.5 7,
    .uniform "a" (-60000) 2.5 18446744073709551614, .uniform "c" (-60001) 3.5 3,
    .uniform "b" 0 4.5 8]

theorem bucketed_partitions_aroundEpoch :
    (bucketed .oneMinute aroundEpoch).map (fun o => (o.agentId, o.timestamp, o.netTxBps)) =
      [("c", -120000, 3), ("b", -60000, 18446744073709551614), ("a", 0, 7)] ∧
    bucketedInOnePass .oneMinute aroundEpoch = bucketed .oneMinute aroundEpoch ∧
    (bucketed .oneMinute aroundEpoch.reverse).map exactPart =
      (bucketed .oneMinute aroundEpoch).map exactPart := by
  obtain ⟨-, hperm, hpass, -⟩ := bucketed_partitions .oneMinute aroundEpoch
  exact ⟨by decide +kernel, (hpass (by decide)).1, hperm _ (List.reverse_perm _)⟩

end Record
end FleetTelemetry

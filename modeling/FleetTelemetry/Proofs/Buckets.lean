/-
# The rows of buckets stand for groups of rows

A bucket of the time line starts at a multiple of its width, and each instant is
in one bucket (`bucketStart_eq_iff`). So the rows of the occupied buckets stand
for a partition of the rows that they are made of: one row for each bucket that
holds some, ascending, and each with the means of what its bucket holds
(`Record.groups_bucketed`). The floor of a mean of counters is a counter that
lies between two of them (`Word.toNat_meanFloor`, `Word.exists_le_meanFloor`,
`Word.exists_meanFloor_le`).

Key definitions: `Record.counters`, `Record.readings`, `Record.inBucket`,
`Record.Averages`, `Record.Groups`.
Key theorems: `bucketStart_eq_iff`, `Record.bucketed_eq`, `Record.groups_bucketed`.
-/
import FleetTelemetry.Proofs.StableOrder
import Mathlib.Algebra.Group.Action.Defs
import Mathlib.Algebra.Order.BigOperators.Group.List
import Mathlib.Algebra.Order.Ring.Nat
import Mathlib.Data.List.Sort

namespace FleetTelemetry

/-! ### Buckets of the time line -/

theorem BucketWidth.millis_pos (w : BucketWidth) : 0 < w.millis := by
  cases w <;> decide

theorem BucketWidth.millis_le_day (w : BucketWidth) : w.millis ≤ millisPerDay := by
  cases w <;> decide

theorem dvd_bucketStart (width ts : Int) : width ∣ bucketStart width ts := Dvd.intro_left _ rfl

/-- An instant is in the bucket between whose bounds it lies. -/
theorem bucketStart_eq_iff {width start : Int} (hw : 0 < width) (hs : width ∣ start) (ts : Int) :
    bucketStart width ts = start ↔ start ≤ ts ∧ ts < start + width := by
  constructor
  · rintro rfl
    exact ⟨bucketStart_le hw ts, lt_bucketStart_add hw ts⟩
  · rintro ⟨hle, hlt⟩
    obtain ⟨k, rfl⟩ := hs
    have hlo : k ≤ ts / width := (Int.le_ediv_iff_mul_le hw).mpr (by rw [Int.mul_comm]; exact hle)
    have hhi : ts / width < k + 1 :=
      (Int.ediv_lt_iff_lt_mul hw).mpr (by rw [Int.add_mul, Int.one_mul, Int.mul_comm k]; exact hlt)
    have hk : ts / width = k := by omega
    rw [bucketStart, hk, Int.mul_comm]

/-! ### Means of counters -/

namespace Word

theorem exactSum_eq_sum : ∀ xs : List UInt64, exactSum xs = (xs.map UInt64.toNat).sum
  | [] => rfl
  | x :: xs => by rw [exactSum, exactSum_eq_sum xs, List.map_cons, List.sum_cons]

theorem exactSum_perm {xs ys : List UInt64} (h : xs.Perm ys) : exactSum xs = exactSum ys := by
  rw [exactSum_eq_sum, exactSum_eq_sum]
  exact (h.map _).sum_eq

theorem meanFloor_perm {xs ys : List UInt64} (h : xs.Perm ys) : meanFloor xs = meanFloor ys := by
  rw [meanFloor, meanFloor, exactSum_perm h, h.length_eq]

/-- So many counters have a sum of so many words at most. -/
theorem exactSum_le (xs : List UInt64) : exactSum xs ≤ xs.length * (size64 - 1) := by
  have h := List.sum_le_card_nsmul (xs.map UInt64.toNat) (size64 - 1) fun n hn => by
    obtain ⟨x, -, rfl⟩ := List.mem_map.mp hn
    have := x.toNat_lt
    simp only [size64]
    omega
  rwa [List.length_map, smul_eq_mul, ← exactSum_eq_sum] at h

section Mean

variable {xs : List UInt64} (h : xs ≠ [])
include h

/-- The floor of a mean of counters is a counter. -/
theorem toNat_meanFloor : (meanFloor xs).toNat = exactSum xs / xs.length := by
  have hpos : 0 < xs.length := List.length_pos_iff.mpr h
  have hmax : Nat.max xs.length 1 = xs.length := Nat.max_eq_left hpos
  have hle : exactSum xs / xs.length ≤ size64 - 1 :=
    Nat.div_le_of_le_mul (exactSum_le xs)
  have hsize : size64 = 2 ^ 64 := rfl
  rw [meanFloor, hmax, UInt64.toNat_ofNat', Nat.mod_eq_of_lt (by omega)]

theorem exists_le_meanFloor : ∃ x ∈ xs, x ≤ meanFloor xs := by
  have hpos : 0 < xs.length := List.length_pos_iff.mpr h
  have hlt : (xs.map UInt64.toNat).sum <
      (xs.map fun _ => exactSum xs / xs.length + 1).sum := by
    rw [← exactSum_eq_sum, List.map_const', List.sum_replicate, smul_eq_mul]
    exact Nat.lt_mul_div_succ _ hpos
  obtain ⟨x, hx, hxlt⟩ := List.exists_lt_of_sum_lt _ _ hlt
  refine ⟨x, hx, UInt64.le_iff_toNat_le.mpr ?_⟩
  rw [toNat_meanFloor h]
  omega

theorem exists_meanFloor_le : ∃ x ∈ xs, meanFloor xs ≤ x := by
  have hle : (xs.map fun _ => exactSum xs / xs.length).sum ≤ (xs.map UInt64.toNat).sum := by
    rw [← exactSum_eq_sum, List.map_const', List.sum_replicate, smul_eq_mul]
    exact Nat.mul_div_le _ _
  obtain ⟨x, hx, hxle⟩ := List.exists_le_of_sum_le h _ _ hle
  exact ⟨x, hx, UInt64.le_iff_toNat_le.mpr (by rwa [toNat_meanFloor h])⟩

end Mean

end Word

/-! ### Rows by bucket -/

namespace Record

variable {α : Type}

/-- The counters of a row. -/
def counters : List (Record α → UInt64) := [diskReadBps, diskWriteBps, netRxBps, netTxBps]

/-- The readings of a row. -/
def readings : List (Record α → α) := [cpuPercent, memPercent, gpuPercent, loadAvg1]

/-- The rows in the bucket of some width that starts at `start`, in their order. -/
def inBucket (width start : Int) (rows : List (Record α)) : List (Record α) :=
  rows.filter fun r => decide (start ≤ r.timestamp) && decide (r.timestamp < start + width)

theorem mem_inBucket {width start : Int} {rows : List (Record α)} {r : Record α} :
    r ∈ inBucket width start rows ↔
      r ∈ rows ∧ start ≤ r.timestamp ∧ r.timestamp < start + width := by
  simp only [inBucket, List.mem_filter, Bool.and_eq_true, decide_eq_true_eq]

theorem inBucket_eq {width start : Int} (hw : 0 < width) (hs : width ∣ start)
    (rows : List (Record α)) :
    inBucket width start rows = rows.filter fun r => bucketStart width r.timestamp == start := by
  refine List.filter_congr fun r _ => ?_
  rw [Bool.eq_iff_iff, Bool.and_eq_true, decide_eq_true_eq, decide_eq_true_eq, beq_iff_eq]
  exact (bucketStart_eq_iff hw hs r.timestamp).symm

theorem mem_bucketStarts {width start : Int} {rows : List (Record α)} :
    start ∈ bucketStarts width rows ↔ ∃ r ∈ rows, bucketStart width r.timestamp = start := by
  rw [bucketStarts, Ascending.mem_ofList, List.mem_map]

theorem bucketStarts_ascending (width : Int) (rows : List (Record α)) :
    (bucketStarts width rows).Pairwise (· < ·) :=
  Ascending.pairwise_ofList (fun _ _ _ => Int.lt_trans) Int.lt_trichotomy _

/-- The buckets that hold a row do not depend on the order of the rows. -/
theorem bucketStarts_perm (width : Int) {rows rows' : List (Record α)} (h : rows.Perm rows') :
    bucketStarts width rows = bucketStarts width rows' := by
  refine (bucketStarts_ascending width rows).eq_of_mem_iff (bucketStarts_ascending width rows')
    fun start => ?_
  rw [mem_bucketStarts, mem_bucketStarts]
  exact exists_congr fun r => and_congr_left' h.mem_iff

theorem dvd_of_mem_bucketStarts {width start : Int} {rows : List (Record α)}
    (h : start ∈ bucketStarts width rows) : width ∣ start := by
  obtain ⟨r, -, rfl⟩ := mem_bucketStarts.mp h
  exact dvd_bucketStart width r.timestamp

variable [Gauge α]

/-- What the row of a bucket says of the rows that the bucket holds. -/
structure Averages (o : Record α) (held : List (Record α)) : Prop where
  agentId : held.head?.map Record.agentId = some o.agentId
  counters : ∀ field ∈ Record.counters,
    (field o).toNat = Word.exactSum (held.map field) / held.length
  between : ∀ field ∈ Record.counters,
    (∃ r ∈ held, field r ≤ field o) ∧ ∃ r ∈ held, field o ≤ field r
  readings : ∀ field ∈ Record.readings,
    field o = Gauge.div (Gauge.sumFromZero (held.map field)) (Gauge.ofInt held.length)

/-- How the rows of buckets stand for some rows. -/
structure Groups (width : Int) (rows out : List (Record α)) : Prop where
  ascending : out.Pairwise fun a b => a.timestamp < b.timestamp
  aligned : ∀ o ∈ out, width ∣ o.timestamp
  occupied : ∀ start, width ∣ start → ((∃ o ∈ out, o.timestamp = start) ↔
    ∃ r ∈ rows, start ≤ r.timestamp ∧ r.timestamp < start + width)
  covers : ∀ r ∈ rows,
    ∃! o, o ∈ out ∧ o.timestamp ≤ r.timestamp ∧ r.timestamp < o.timestamp + width
  averages : ∀ o ∈ out, Averages o (inBucket width o.timestamp rows)

theorem counter_mean {field : Record α → UInt64} (hf : field ∈ counters)
    (agentId : String) (start : Int) (rows : List (Record α)) :
    field (mean agentId start rows) = Word.meanFloor (rows.map field) := by
  simp only [counters, List.mem_cons, List.not_mem_nil, or_false] at hf
  rcases hf with rfl | rfl | rfl | rfl <;> rfl

theorem reading_mean {field : Record α → α} (hf : field ∈ readings)
    (agentId : String) (start : Int) (rows : List (Record α)) :
    field (mean agentId start rows) =
      Gauge.div (Gauge.sumFromZero (rows.map field)) (Gauge.ofInt rows.length) := by
  simp only [readings, List.mem_cons, List.not_mem_nil, or_false] at hf
  rcases hf with rfl | rfl | rfl | rfl <;> rfl

/-- A row of means says of the rows what it should, if there are any. -/
theorem averages_mean {held : List (Record α)} (h : held ≠ []) (start : Int) :
    Averages (mean ((held.head?.map agentId).getD "") start held) held := by
  have hmap : ∀ field : Record α → UInt64, held.map field ≠ [] := fun field hnil =>
    h (List.map_eq_nil_iff.mp hnil)
  refine ⟨?_, fun field hf => ?_, fun field hf => ⟨?_, ?_⟩, fun field hf => ?_⟩
  · obtain ⟨r, rs, rfl⟩ := List.exists_cons_of_ne_nil h
    rfl
  · rw [counter_mean hf, Word.toNat_meanFloor (hmap field), List.length_map]
  · obtain ⟨x, hx, hle⟩ := Word.exists_le_meanFloor (hmap field)
    obtain ⟨r, hr, rfl⟩ := List.mem_map.mp hx
    exact ⟨r, hr, by rwa [counter_mean hf]⟩
  · obtain ⟨x, hx, hle⟩ := Word.exists_meanFloor_le (hmap field)
    obtain ⟨r, hr, rfl⟩ := List.mem_map.mp hx
    exact ⟨r, hr, by rwa [counter_mean hf]⟩
  · exact reading_mean hf _ _ _

/-! ### The rows of the occupied buckets -/

/-- The row of a bucket. -/
def bucketRow (width : Int) (rows : List (Record α)) (start : Int) : Record α :=
  mean (((inBucket width start rows).head?.map agentId).getD "") start (inBucket width start rows)

theorem bucketed_eq (width : BucketWidth) (rows : List (Record α)) :
    bucketed width rows = (bucketStarts width.millis rows).map (bucketRow width.millis rows) := by
  refine List.map_congr_left fun start hstart => ?_
  rw [bucketRow, inBucket_eq width.millis_pos (dvd_of_mem_bucketStarts hstart)]

theorem mem_bucketed {width : BucketWidth} {rows : List (Record α)} {o : Record α} :
    o ∈ bucketed width rows ↔
      o.timestamp ∈ bucketStarts width.millis rows ∧
        o = bucketRow width.millis rows o.timestamp := by
  rw [bucketed_eq, List.mem_map]
  constructor
  · rintro ⟨start, hstart, rfl⟩
    exact ⟨hstart, rfl⟩
  · rintro ⟨hstart, ho⟩
    exact ⟨o.timestamp, hstart, ho.symm⟩

/-- **The rows of the occupied buckets stand for a partition.** -/
theorem groups_bucketed (width : BucketWidth) (rows : List (Record α)) :
    Groups width.millis rows (bucketed width rows) := by
  have hw := width.millis_pos
  have hrow : ∀ start ∈ bucketStarts width.millis rows,
      bucketRow width.millis rows start ∈ bucketed width rows := fun start hstart =>
    mem_bucketed.mpr ⟨hstart, rfl⟩
  refine ⟨?_, fun o ho => ?_, fun start hs => ⟨?_, ?_⟩, fun r hr => ?_, fun o ho => ?_⟩
  · rw [bucketed_eq, List.pairwise_map]
    exact bucketStarts_ascending width.millis rows
  · exact dvd_of_mem_bucketStarts (mem_bucketed.mp ho).1
  · rintro ⟨o, ho, rfl⟩
    obtain ⟨r, hr, hb⟩ := mem_bucketStarts.mp (mem_bucketed.mp ho).1
    exact ⟨r, hr, (bucketStart_eq_iff hw hs r.timestamp).mp hb⟩
  · rintro ⟨r, hr, hin⟩
    have hb := (bucketStart_eq_iff hw hs r.timestamp).mpr hin
    exact ⟨_, hrow start (mem_bucketStarts.mpr ⟨r, hr, hb⟩), rfl⟩
  · have hstart : bucketStart width.millis r.timestamp ∈ bucketStarts width.millis rows :=
      mem_bucketStarts.mpr ⟨r, hr, rfl⟩
    refine ⟨_, ⟨hrow _ hstart, bucketStart_le hw _, lt_bucketStart_add hw _⟩, ?_⟩
    rintro o ⟨ho, hin⟩
    -- both rows start where the bucket of the instant does
    obtain ⟨hmem, heq⟩ := mem_bucketed.mp ho
    have hb := (bucketStart_eq_iff hw (dvd_of_mem_bucketStarts hmem) r.timestamp).mpr hin
    rw [heq, hb]
  · obtain ⟨hmem, heq⟩ := mem_bucketed.mp ho
    obtain ⟨r, hr, hb⟩ := mem_bucketStarts.mp hmem
    have hin := (bucketStart_eq_iff hw (dvd_of_mem_bucketStarts hmem) r.timestamp).mp hb
    have hne : inBucket width.millis o.timestamp rows ≠ [] :=
      List.ne_nil_of_mem (mem_inBucket.mpr ⟨hr, hin⟩)
    have haverages := averages_mean hne o.timestamp
    rwa [← bucketRow, ← heq] at haverages

end Record
end FleetTelemetry

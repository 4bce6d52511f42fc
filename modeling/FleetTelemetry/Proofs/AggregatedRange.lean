/-
# Bucketed and raw queries agree

A bucketed query groups what the range query of its agent and window answers
(`Record.groups_bucketed`), so that rows outside the window never count, not even
in the buckets that the window cuts. Its rows start at multiples of the width that
are not a whole width before the window (`Record.Groups.bounds`), and ascending
multiples between two bounds can be counted (`length_le_of_aligned`). A width that
follows from the length of a window fits into a week at most 168 times
(`BucketWidth.forRange_week`), and there is one bucket more than that.

Key definitions: `Word.heldDifference`.
Key theorems: `BucketWidth.resolve_heldDifference`, `length_le_of_aligned`,
`Record.Groups.length_le`, `Store.Holds.range_saveAll_unwanted`,
`Store.aggregated_range`.
-/
import FleetTelemetry.Proofs.Buckets
import FleetTelemetry.Proofs.FlatList
import Mathlib.Data.Int.Interval

namespace FleetTelemetry

/-- The difference of two signed words, held between the least and the greatest. -/
def Word.heldDifference (a b : Int) : Int := max minSigned64 (min (a - b) maxSigned64)

/-! ### The width -/

namespace BucketWidth

/-- Windows too long for a signed word get the width that they would get otherwise. -/
theorem forRange_heldDifference (a b : Int) :
    forRange (Word.heldDifference a b) = forRange (a - b) := by
  have hle : ∀ bound, Word.minSigned64 ≤ bound → bound < Word.maxSigned64 →
      (Word.heldDifference a b ≤ bound ↔ a - b ≤ bound) := by
    intro bound hlo hhi
    rw [Word.heldDifference]
    omega
  simp only [forRange, hle millisPerHour (by decide) (by decide),
    hle (6 * millisPerHour) (by decide) (by decide), hle millisPerDay (by decide) (by decide),
    hle (7 * millisPerDay) (by decide) (by decide)]

theorem resolve_heldDifference (interval : Option String) (a b : Int) :
    resolve interval (Word.heldDifference a b) = resolve interval (a - b) := by
  rw [resolve, resolve, forRange_heldDifference]

theorem ofName?_name (w : BucketWidth) : ofName? w.name = some w := by
  cases w <;> decide

theorem resolve_of_unknown {interval : Option String}
    (h : ∀ w : BucketWidth, interval ≠ some w.name) (length : Int) :
    resolve interval length = forRange length := by
  have hnone : interval.bind ofName? = none := by
    cases interval with
    | none => rfl
    | some text =>
      refine List.find?_eq_none.mpr fun w _ hw => h w ?_
      rw [beq_iff_eq.mp hw]
  rw [resolve, hnone, Option.getD_none]

theorem forRange_week {length : Int} (h : length ≤ 7 * millisPerDay) :
    length ≤ 168 * (forRange length).millis := by
  rw [forRange, if_pos h]
  split_ifs with hhour hsix hday
  all_goals
    simp only [millis, millisPerDay, millisPerHour, millisPerMinute] at *
    omega

end BucketWidth

/-! ### Counting buckets -/

/-- Of multiples of a width that lie less than a width before `first` and not after `last`, there
are no more than the quotients of the two are apart, and one. -/
theorem length_le_of_aligned {width first last : Int} (hw : 0 < width) {starts : List Int}
    (hp : starts.Pairwise (· < ·)) (hdvd : ∀ t ∈ starts, width ∣ t)
    (hin : ∀ t ∈ starts, first - width < t ∧ t ≤ last) :
    starts.length ≤ (last / width + 1 - first / width).toNat := by
  have hnodup : (starts.map (· / width)).Nodup := by
    refine List.pairwise_map.mpr (hp.imp_of_mem fun {t u} ht hu hlt heq => ?_)
    rw [← Int.ediv_mul_cancel (hdvd t ht), ← Int.ediv_mul_cancel (hdvd u hu), heq] at hlt
    exact Int.lt_irrefl _ hlt
  have hsub : (starts.map (· / width)).toFinset ⊆ Finset.Icc (first / width) (last / width) := by
    intro k hk
    obtain ⟨t, ht, rfl⟩ := List.mem_map.mp (List.mem_toFinset.mp hk)
    obtain ⟨hlo, hhi⟩ := hin t ht
    have hfirst : first / width < t / width + 1 := by
      refine (Int.ediv_lt_iff_lt_mul hw).mpr ?_
      rw [Int.add_mul, Int.one_mul, Int.ediv_mul_cancel (hdvd t ht)]
      omega
    exact Finset.mem_Icc.mpr ⟨by omega, Int.ediv_le_ediv hw hhi⟩
  have hcard := Finset.card_le_card hsub
  rwa [List.toFinset_card_of_nodup hnodup, List.length_map, Int.card_Icc] at hcard

namespace Record

variable {α : Type} [Gauge α] {width first last : Int} {rows out : List (Record α)}

theorem Groups.bounds (hg : Groups width rows out)
    (hin : ∀ r ∈ rows, first ≤ r.timestamp ∧ r.timestamp ≤ last) :
    ∀ o ∈ out, first - width < o.timestamp ∧ o.timestamp ≤ last := by
  intro o ho
  obtain ⟨r, hr, hle, hlt⟩ := (hg.occupied o.timestamp (hg.aligned o ho)).mp ⟨o, ho, rfl⟩
  obtain ⟨hfirst, hlast⟩ := hin r hr
  omega

theorem Groups.length_le (hg : Groups width rows out) (hw : 0 < width)
    (hin : ∀ r ∈ rows, first ≤ r.timestamp ∧ r.timestamp ≤ last) {n : Nat}
    (hn : last - first ≤ n * width) : out.length ≤ n + 1 := by
  have hstarts : (out.map Record.timestamp).Pairwise (· < ·) := List.pairwise_map.mpr hg.ascending
  have haligned : ∀ t ∈ out.map Record.timestamp, width ∣ t := fun t ht => by
    obtain ⟨o, ho, rfl⟩ := List.mem_map.mp ht
    exact hg.aligned o ho
  have hbounds : ∀ t ∈ out.map Record.timestamp, first - width < t ∧ t ≤ last := fun t ht => by
    obtain ⟨o, ho, rfl⟩ := List.mem_map.mp ht
    exact hg.bounds hin o ho
  have hcount := length_le_of_aligned hw hstarts haligned hbounds
  have hquot : last / width ≤ first / width + n := by
    calc last / width ≤ (first + n * width) / width := Int.ediv_le_ediv hw (by omega)
      _ = first / width + n := Int.add_mul_ediv_right _ _ (Int.ne_of_gt hw)
  rw [List.length_map] at hcount
  omega

end Record

/-! ### Queries -/

namespace Store

variable {α : Type} [Gauge α]

theorem Holds.range_saveAll_unwanted {s : Store α} {rows rs : List (Record α)} (h : s.Holds rows)
    (hy : ∀ r ∈ rs, Month.FourDigitYear r.timestamp) (agentId : String) {first last : Int}
    (hout : ∀ r ∈ rs, within first last r.timestamp = false) :
    (s.saveAll rs).1.range agentId first last 0 = s.range agentId first last 0 := by
  have hnone : wanted agentId first last (rs.filterMap Record.stored?) = [] := by
    refine List.filter_eq_nil_iff.mpr fun r hr => ?_
    obtain ⟨r₀, hr₀, hr⟩ := List.mem_filterMap.mp hr
    rw [Record.stored?_timestamp hr, hout r₀ hr₀, Bool.and_false]
    exact Bool.false_ne_true
  rw [(h.saveAll_stored hy).range, h.range, List.filter_append]
  rw [wanted] at hnone
  rw [hnone, List.append_nil]

/-- **A bucketed query groups the answer of the raw one.** After any run of a store that is empty at
first and accepts rows of four-digit years only, the rows of a bucketed query stand for the buckets
of what the range query answers, and these are the kept rows of the agent in the window: rows
outside it never count. The rows start less than a width before the window and not after it; where
the width is chosen for a window of a week or less, there are 169 of them at most. -/
theorem aggregated_range (ops : List (Operation α))
    (hy : ∀ r ∈ ({} : Store α).acceptedIn ops, Month.FourDigitYear r.timestamp)
    (agentId : String) (first last : Int) (interval : Option String) :
    let s := ({} : Store α).run ops
    let width := BucketWidth.resolve interval (Word.heldDifference last first)
    let raw := s.range agentId first last 0
    let out := s.aggregated agentId first last interval
    Record.Groups width.millis raw out ∧
    raw = Record.inOrder (wanted agentId first last (({} : Store α).kept ops)) ∧
    (∀ rs, (∀ r ∈ rs, Month.FourDigitYear r.timestamp ∧ within first last r.timestamp = false) →
      (s.saveAll rs).1.aggregated agentId first last interval = out) ∧
    (∀ o ∈ out, first - width.millis < o.timestamp ∧ o.timestamp ≤ last) ∧
    ((∀ w : BucketWidth, interval ≠ some w.name) → last - first ≤ 7 * millisPerDay →
      out.length ≤ 169) ∧
    ∀ w : BucketWidth, interval = some w.name → width = w := by
  intro s width raw out
  have h : s.Holds (({} : Store α).kept ops) := holds_empty.run ops hy
  have hraw : raw = Record.inOrder (wanted agentId first last (({} : Store α).kept ops)) :=
    h.range agentId first last
  have hwidth : width = BucketWidth.resolve interval (last - first) :=
    BucketWidth.resolve_heldDifference interval last first
  have hgroups : Record.Groups width.millis raw out := by
    rw [hwidth]
    exact Record.groups_bucketed _ raw
  have hin : ∀ r ∈ raw, first ≤ r.timestamp ∧ r.timestamp ≤ last := by
    intro r hr
    rw [hraw] at hr
    have hwithin := (List.mem_filter.mp (StableOrder.mem_sort.mp hr)).2
    simp only [within, Bool.and_eq_true, decide_eq_true_eq] at hwithin
    exact hwithin.2
  refine ⟨hgroups, hraw, fun rs hrs => ?_, hgroups.bounds hin, fun hunknown hweek => ?_,
    fun w hw => ?_⟩
  · have hsame := h.range_saveAll_unwanted (fun r hr => (hrs r hr).1) agentId fun r hr =>
      (hrs r hr).2
    rw [aggregated, hsame]
    rfl
  · have hchosen : width = BucketWidth.forRange (last - first) :=
      hwidth.trans (BucketWidth.resolve_of_unknown hunknown _)
    have hlength : last - first ≤ (168 : Nat) * width.millis := by
      rw [hchosen]
      exact BucketWidth.forRange_week hweek
    exact hgroups.length_le width.millis_pos hin hlength
  · rw [hwidth, hw]
    show (BucketWidth.ofName? w.name).getD _ = w
    rw [BucketWidth.ofName?_name, Option.getD_some]

/-- Rows of two minutes around the turn of a month, each in one bucket with a row outside of the
window, and one of another agent. -/
def cutBuckets : List (Operation Float) :=
  [.saveAll [.uniform "a" 1706745509999 1.0 90, .uniform "a" 1706745510000 2.0 4,
    .uniform "a" 1706745630001 3.0 90, .uniform "a" 1706745630000 4.0 8,
    .uniform "a" 1706745600000 5.0 5, .uniform "b" 1706745570000 6.0 90]]

/-- The buckets that the window cuts have the rows within it alone, and start outside of it. -/
theorem aggregated_range_cutBuckets :
    (∀ r ∈ ({} : Store Float).acceptedIn cutBuckets, Month.FourDigitYear r.timestamp) ∧
    ((({} : Store Float).run cutBuckets).aggregated "a" 1706745510000 1706745630000
      (some "often")).map (fun o => (o.timestamp, o.netTxBps)) =
        [(1706745480000, 4), (1706745600000, 6)] ∧
    ((({} : Store Float).run cutBuckets).aggregated "a" 1706745510000 1706745630000
      (some "often")).length ≤ 169 := by
  have hy : ∀ r ∈ ({} : Store Float).acceptedIn cutBuckets,
      Month.FourDigitYear r.timestamp := by decide +kernel
  obtain ⟨-, -, -, -, hcount, -⟩ :=
    aggregated_range cutBuckets hy "a" 1706745510000 1706745630000 (some "often")
  have hunknown : ∀ w : BucketWidth, some "often" ≠ some w.name := fun w => by
    cases w <;> decide
  exact ⟨hy, by decide +kernel, hcount hunknown (by decide)⟩

end Store
end FleetTelemetry

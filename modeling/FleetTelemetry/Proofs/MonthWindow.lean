/-
# Months and windows of the time line

Every instant that can be reckoned with lies in one month, the one between whose
bounds it lies. The months follow one another without a gap, each as long as its
days, so that the bounds of all of them follow from those of one
(`Month.partition_timeLine`).

A window meets a month if it reaches the start of the month and begins before
its stop: then the later of the two beginnings is an instant of both
(`Month.overlaps_iff_exists`). So the months that a query is routed to are those
that could hold a row of its window, and no others (`Month.inWindow_exact`).

Key theorems: `Month.containing?_of_bounds`, `Month.stop_eq_start_add`,
`Month.partition_timeLine`, `Month.overlaps_iff_exists`, `Month.inWindow_exact`.
-/
import FleetTelemetry.Proofs.Calendar

namespace FleetTelemetry
namespace Month

open Calendar

/-! ### The bounds of a month -/

theorem isSome_containing?_iff (ts : Int) :
    (containing? ts).isSome = true ↔ -8334601228800000 ≤ ts ∧ ts ≤ 8210266876799999 := by
  have hfirst : daysBeforeYear (-262143) * millisPerDay = -8334601228800000 := by decide
  have hlast : daysBeforeYear 262143 * millisPerDay - 1 = 8210266876799999 := by decide
  have hr : instantInRange ts = true ↔ -8334601228800000 ≤ ts ∧ ts ≤ 8210266876799999 := by
    rw [instantInRange, hfirst, hlast, within, Bool.and_eq_true, decide_eq_true_eq,
      decide_eq_true_eq]
  rw [← hr]
  unfold containing?
  split <;> simp [*]

/-- Of the months that can be reckoned with, an instant is in the one between whose bounds it
lies. -/
theorem containing?_eq_some_iff_bounds {m n : Month} (hm : m.Reckoned) {ts : Int}
    (hts : containing? ts = some n) : containing? ts = some m ↔ m.start ≤ ts ∧ ts < m.stop := by
  refine ⟨containing?_bounds, fun ⟨hstart, hstop⟩ => ?_⟩
  have hn := (containing?_eq_some_iff.mp hts).1
  obtain ⟨hstart', hstop'⟩ := containing?_bounds hts
  rcases lt_trichotomy n m with hlt | rfl | hgt
  · have := stop_le_start hn hm hlt
    omega
  · exact hts
  · have := stop_le_start hm hn hgt
    omega

theorem containing?_of_bounds {m : Month} (hm : m.Reckoned) (hn : m.next.Reckoned) {ts : Int}
    (hstart : m.start ≤ ts) (hstop : ts < m.stop) : containing? ts = some m := by
  rw [start_eq hm] at hstart
  rw [stop, start_eq hn] at hstop
  exact containing?_eq_some_iff.mpr ⟨hm, (ofDay_eq_iff hm.1 _).mpr
    ⟨(Int.le_ediv_iff_mul_le millisPerDay_pos).mpr hstart,
      (Int.ediv_lt_iff_lt_mul millisPerDay_pos).mpr hstop⟩⟩

theorem containing?_mono {a b : Int} {m n : Month} (ha : containing? a = some m)
    (hb : containing? b = some n) (h : a ≤ b) : m < n ∨ m = n := by
  rcases lt_trichotomy m n with hlt | heq | hgt
  · exact .inl hlt
  · exact .inr heq
  · have := lt_of_containing? hb ha hgt
    omega

theorem firstDay_next {m : Month} (hm : m.Valid) :
    m.next.firstDay = m.firstDay + daysInMonth (isLeap m.year) m.number := by
  have hdays : daysBeforeMonth (isLeap m.year) m.number + daysInMonth (isLeap m.year) m.number =
      daysBeforeMonth (isLeap m.year) (m.number + 1) :=
    Nat.add_sub_of_le (Nat.le_of_lt (daysBeforeMonth_lt_succ (isLeap m.year) hm.1 hm.2))
  unfold firstDay next
  split
  · next hlast =>
    -- December is followed by the January of the year after
    have hjanuary : daysBeforeMonth (isLeap (m.year + 1)) 1 = 0 := rfl
    rw [show m.number + 1 = 13 by omega, daysBeforeMonth_thirteen] at hdays
    simp only [daysBeforeYear_succ, hjanuary]
    split_ifs at hdays ⊢ <;> omega
  · simp only
    omega

theorem stop_eq_start_add {m : Month} (hm : m.Reckoned) (hn : m.next.Reckoned) :
    m.stop = m.start + daysInMonth (isLeap m.year) m.number * millisPerDay := by
  rw [stop, start_eq hm, start_eq hn, firstDay_next hm.1, Int.add_mul]

/-- **Months partition the time line.** The instants of the years from -262143 to 262142 have a
month, and no others. Each is in the month from whose start on and before whose stop it lies; a
month stops where the next one starts, its days later; a later instant is in no earlier month; and
months come in the order of their bounds. -/
theorem partition_timeLine :
    (∀ ts : Int,
      (containing? ts).isSome = true ↔ -8334601228800000 ≤ ts ∧ ts ≤ 8210266876799999) ∧
    (∀ m : Month, m.Reckoned → ∀ ts : Int, (containing? ts).isSome = true →
      (containing? ts = some m ↔ m.start ≤ ts ∧ ts < m.stop)) ∧
    (∀ m : Month, m.stop = m.next.start) ∧
    (∀ m : Month, m.Reckoned → m.next.Reckoned →
      m.stop = m.start + daysInMonth (isLeap m.year) m.number * millisPerDay) ∧
    (∀ (a b : Int) (m n : Month), containing? a = some m → containing? b = some n → a ≤ b →
      m < n ∨ m = n) ∧
    ∀ m n : Month, m.Reckoned → n.Reckoned → (m < n ↔ m.stop ≤ n.start) := by
  refine ⟨isSome_containing?_iff, fun m hm ts hts => ?_, fun _ => rfl,
    fun _ hm hn => stop_eq_start_add hm hn, fun _ _ _ _ ha hb h => containing?_mono ha hb h,
    fun _ _ hm hn => lt_iff_stop_le_start hm hn⟩
  obtain ⟨n, hn⟩ := Option.isSome_iff_exists.mp hts
  exact containing?_eq_some_iff_bounds hm hn

/-- The century year 1900 has no leap day: its February ends on the 28th, and with the last
millisecond of that day. -/
theorem partition_timeLine_february :
    (⟨1900, 2⟩ : Month).stop = (⟨1900, 2⟩ : Month).start + 28 * millisPerDay ∧
    containing? (-2203891200001) = some ⟨1900, 2⟩ ∧
    containing? (-2203891200000) = some ⟨1900, 3⟩ ∧
    (⟨1900, 2⟩ : Month).stop ≤ (⟨2000, 2⟩ : Month).start := by
  obtain ⟨hsome, hbounds, -, hdays, -, horder⟩ := partition_timeLine
  have hfebruary : (⟨1900, 2⟩ : Month).Reckoned := by decide
  have hmarch : (⟨1900, 3⟩ : Month).Reckoned := by decide
  refine ⟨hdays ⟨1900, 2⟩ hfebruary hmarch, ?_, ?_, ?_⟩
  · exact (hbounds _ hfebruary _ ((hsome _).mpr (by decide))).mpr (by decide +kernel)
  · exact (hbounds _ hmarch _ ((hsome _).mpr (by decide))).mpr (by decide +kernel)
  · exact (horder _ _ hfebruary (by decide)).mp (by decide)

/-! ### The months of a window -/

theorem reckoned_of_fourDigits {m : Month} (hm : m.Valid ∧ 0 ≤ m.year ∧ m.year ≤ 9999) :
    m.Reckoned ∧ m.next.Reckoned := by
  obtain ⟨hv, h₁, h₂⟩ := hm
  refine ⟨⟨hv, by omega, by omega⟩, valid_next hv, ?_⟩
  unfold next
  split <;> simp only <;> omega

theorem overlaps_iff_exists {m : Month} (hm : m.Reckoned) (hn : m.next.Reckoned) {first last : Int}
    (h : first ≤ last) :
    m.overlaps first last = true ↔ ∃ ts, first ≤ ts ∧ ts ≤ last ∧ containing? ts = some m := by
  constructor
  · intro ho
    simp only [overlaps, Bool.and_eq_true, decide_eq_true_eq] at ho
    obtain ⟨hstart, hstop⟩ := ho
    -- the later of the two beginnings is an instant of both
    have hlt := start_lt_stop hm
    exact ⟨max first m.start, by omega, by omega,
      containing?_of_bounds hm hn (by omega) (by omega)⟩
  · rintro ⟨ts, h₁, h₂, hts⟩
    exact overlaps_of_containing? hts h₁ h₂

/-- **The routing of a window is exact.** Of a list of months of four-digit years, those are in a
window that hold one of its instants, in the order of the list and as often as they stand there. A
window that ends before it begins has none. -/
theorem inWindow_exact {months : List Month}
    (hmonths : ∀ m ∈ months, m.Valid ∧ 0 ≤ m.year ∧ m.year ≤ 9999) (first last : Int) :
    (∀ m ∈ months, m ∈ inWindow months first last ↔
      ∃ ts, first ≤ ts ∧ ts ≤ last ∧ containing? ts = some m) ∧
    (inWindow months first last).Sublist months ∧
    (∀ m ∈ inWindow months first last, (inWindow months first last).count m = months.count m) ∧
    (last < first → inWindow months first last = []) := by
  by_cases h : last < first
  · have hnil : inWindow months first last = [] := if_pos h
    rw [hnil]
    refine ⟨fun m _ => iff_of_false List.not_mem_nil ?_, List.nil_sublist months,
      fun m hm => absurd hm List.not_mem_nil, fun _ => rfl⟩
    rintro ⟨ts, h₁, h₂, -⟩
    omega
  · have hfilter : inWindow months first last = months.filter fun m => m.overlaps first last :=
      if_neg h
    rw [hfilter]
    refine ⟨fun m hm => ?_, List.filter_sublist, fun m hm => ?_, fun hlt => absurd hlt h⟩
    · obtain ⟨hr, hn⟩ := reckoned_of_fourDigits (hmonths m hm)
      rw [← overlaps_iff_exists hr hn (by omega), List.mem_filter, and_iff_right hm]
    · exact List.count_filter (List.mem_filter.mp hm).2

/-- A window of the last millisecond of a year meets its December, as often as that is listed, and
not the January after it; one without bounds meets all. -/
theorem inWindow_exact_endOfYear :
    let months : List Month := [⟨2024, 1⟩, ⟨2023, 12⟩, ⟨0, 1⟩, ⟨2023, 12⟩, ⟨9999, 12⟩]
    (∀ m ∈ months, m.Valid ∧ 0 ≤ m.year ∧ m.year ≤ 9999) ∧
    ((⟨2023, 12⟩ : Month) ∈ inWindow months 1704067199999 1704067199999 ∧
      (inWindow months 1704067199999 1704067199999).count ⟨2023, 12⟩ = 2) ∧
    ⟨2024, 1⟩ ∉ inWindow months 1704067199999 1704067199999 ∧
    ∀ m ∈ months, m ∈ inWindow months (-9223372036854775808) 9223372036854775807 := by
  intro months
  have hmonths : ∀ m ∈ months, m.Valid ∧ 0 ≤ m.year ∧ m.year ≤ 9999 := by decide
  obtain ⟨hmem, -, hcount, -⟩ := inWindow_exact hmonths 1704067199999 1704067199999
  have hdecember := (hmem ⟨2023, 12⟩ (by decide)).mpr
    ⟨1704067199999, by decide, by decide, by decide +kernel⟩
  refine ⟨hmonths, ⟨hdecember, (hcount _ hdecember).trans (by decide)⟩, fun h => ?_, fun m hm => ?_⟩
  · obtain ⟨ts, h₁, h₂, hts⟩ := (hmem ⟨2024, 1⟩ (by decide)).mp h
    obtain rfl : ts = 1704067199999 := Int.le_antisymm h₂ h₁
    exact absurd hts (by decide +kernel)
  · obtain ⟨hopen, -⟩ := inWindow_exact hmonths (-9223372036854775808) 9223372036854775807
    have hr := (reckoned_of_fourDigits (hmonths m hm)).1
    have hin := (isSome_containing?_iff m.start).mp (by rw [containing?_start hr]; rfl)
    exact (hopen m hm).mpr ⟨m.start, by omega, by omega, containing?_start hr⟩

end Month
end FleetTelemetry

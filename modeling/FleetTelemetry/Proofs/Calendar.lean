/-
# Months partition the time line

The days of a month lie between its first day and that of the month after it
(`Month.ofDay_bounds`), and an earlier month ends no later than a later one
begins (`Month.firstDay_next_le`). So a month is found from a day by its bounds
alone (`Month.ofDay_eq_iff`), and an instant lies in exactly one month, between
the start and the stop of that month (`Month.containing?_bounds`).

Key definitions: `Month.firstDay`, `Month.FourDigitYear`.
Key theorems: `Month.ofDay_eq_iff`, `Month.containing?_bounds`, `Month.stop_le_start`,
`Month.containing?_start`, `Month.lt_iff_stop_le_start`.
-/
import FleetTelemetry.Month
import Mathlib.Data.Int.Init
import Mathlib.Data.Nat.Init
import Mathlib.Order.Basic
import Mathlib.Tactic.SplitIfs

namespace FleetTelemetry

/-! ### Days of a year -/

namespace Calendar

theorem daysBeforeMonth_lt_succ (leap : Bool) {month : Nat} (h₁ : 1 ≤ month) (h₂ : month ≤ 12) :
    daysBeforeMonth leap month < daysBeforeMonth leap (month + 1) := by
  have : ∀ b : Bool, ∀ m < 12,
      daysBeforeMonth b (m + 1) < daysBeforeMonth b (m + 1 + 1) := by decide
  obtain ⟨m, rfl⟩ := Nat.exists_eq_add_of_le' h₁
  exact this leap m (by omega)

theorem daysBeforeMonth_mono (leap : Bool) {m n : Nat} (h₁ : 1 ≤ m) (h₂ : m ≤ n) (h₃ : n ≤ 13) :
    daysBeforeMonth leap m ≤ daysBeforeMonth leap n := by
  induction n, h₂ using Nat.le_induction with
  | base => exact Nat.le_refl _
  | succ n hn ih =>
    exact Nat.le_trans (ih (by omega))
      (Nat.le_of_lt (daysBeforeMonth_lt_succ leap (by omega) (by omega)))

theorem daysBeforeMonth_thirteen (leap : Bool) :
    daysBeforeMonth leap 13 = if leap then 366 else 365 := by
  cases leap <;> rfl

theorem daysBeforeYear_mono {y z : Int} (h : y ≤ z) : daysBeforeYear y ≤ daysBeforeYear z := by
  induction z, h using Int.leInduction with
  | base => exact Int.le_refl _
  | succ z _ ih =>
    rw [daysBeforeYear_succ]
    split <;> omega

theorem le_yearOfDay_iff (year day : Int) : year ≤ yearOfDay day ↔ daysBeforeYear year ≤ day := by
  obtain ⟨h₁, h₂⟩ := yearOfDay_bounds day
  constructor
  · intro h
    exact Int.le_trans (daysBeforeYear_mono h) h₁
  · intro h
    by_contra hlt
    have := daysBeforeYear_mono (show yearOfDay day + 1 ≤ year by omega)
    omega

/-- The month found for a day of the year is one of the first `month`, begins by that day, and the
one after it does not, unless it is the last that was looked at. -/
theorem lastMonthFrom_bounds (leap : Bool) (day : Nat) : ∀ month : Nat, 1 ≤ month →
    1 ≤ lastMonthFrom leap day month ∧ lastMonthFrom leap day month ≤ month ∧
      daysBeforeMonth leap (lastMonthFrom leap day month) ≤ day ∧
      (lastMonthFrom leap day month < month →
        day < daysBeforeMonth leap (lastMonthFrom leap day month + 1))
  | 0, h => absurd h (by decide)
  | month + 1, _ => by
    unfold lastMonthFrom
    split
    · next hle => exact ⟨by omega, Nat.le_refl _, hle, fun hlt => absurd hlt (Nat.lt_irrefl _)⟩
    · next hgt =>
      cases month with
      | zero => simp [daysBeforeMonth] at hgt
      | succ month =>
        obtain ⟨h₁, h₂, h₃, h₄⟩ := lastMonthFrom_bounds leap day (month + 1) (by omega)
        refine ⟨h₁, by omega, h₃, fun _ => ?_⟩
        rcases Nat.lt_or_ge (lastMonthFrom leap day (month + 1)) (month + 1) with hlt | hge
        · exact h₄ hlt
        · rw [Nat.le_antisymm h₂ hge]
          exact Nat.lt_of_not_le hgt

theorem monthOfDay_bounds (leap : Bool) {day : Nat} (h : day < if leap then 366 else 365) :
    1 ≤ monthOfDay leap day ∧ monthOfDay leap day ≤ 12 ∧
      daysBeforeMonth leap (monthOfDay leap day) ≤ day ∧
      day < daysBeforeMonth leap (monthOfDay leap day + 1) := by
  obtain ⟨h₁, h₂, h₃, h₄⟩ := lastMonthFrom_bounds leap day 12 (by decide)
  refine ⟨h₁, h₂, h₃, ?_⟩
  rcases Nat.lt_or_ge (lastMonthFrom leap day 12) 12 with hlt | hge
  · exact h₄ hlt
  · rw [monthOfDay, Nat.le_antisymm h₂ hge, daysBeforeMonth_thirteen]
    exact h

end Calendar

/-! ### Days of a month -/

namespace Month

open Calendar

/-- The first day of a month. -/
def firstDay (m : Month) : Int := daysBeforeYear m.year + daysBeforeMonth (isLeap m.year) m.number

theorem lt_def {m n : Month} : m < n ↔ m.year < n.year ∨ (m.year = n.year ∧ m.number < n.number) :=
  Iff.rfl

theorem lt_trans {m n k : Month} (h₁ : m < n) (h₂ : n < k) : m < k := by
  rw [lt_def] at *
  omega

theorem lt_irrefl (m : Month) : ¬ m < m := by
  rw [lt_def]
  omega

theorem lt_trichotomy (m n : Month) : m < n ∨ m = n ∨ n < m := by
  obtain ⟨y, k⟩ := m
  obtain ⟨z, l⟩ := n
  simp only [lt_def, Month.mk.injEq]
  omega

instance : Std.Irrefl (α := Month) (· < ·) := ⟨lt_irrefl⟩

instance : Std.Antisymm (α := Month) (· < ·) :=
  ⟨fun m _ h h' => absurd (lt_trans h h') (lt_irrefl m)⟩

theorem valid_next {m : Month} (h : m.Valid) : m.next.Valid := by
  unfold Valid next at *
  split <;> simp only <;> omega

/-- An earlier month is over when a later one begins. -/
theorem firstDay_next_le {m n : Month} (hm : m.Valid) (hn : n.Valid) (h : m < n) :
    m.next.firstDay ≤ n.firstDay := by
  obtain ⟨hn₁, hn₂⟩ := hn
  rcases lt_def.mp h with hy | ⟨hy, hk⟩
  · -- the month after one of an earlier year begins by the start of the year after that
    have hnext : m.next.firstDay ≤ daysBeforeYear (m.year + 1) := by
      unfold firstDay next
      split
      · simp [show daysBeforeMonth (isLeap (m.year + 1)) 1 = 0 from rfl]
      · have := daysBeforeMonth_mono (isLeap m.year) (m := m.number + 1) (n := 13)
          (by omega) (by have := hm.2; omega) (by decide)
        rw [daysBeforeMonth_thirteen] at this
        simp only [daysBeforeYear_succ]
        split_ifs at this ⊢ <;> omega
    have := daysBeforeYear_mono (show m.year + 1 ≤ n.year by omega)
    unfold firstDay at hnext ⊢
    omega
  · have hnext : m.next = ⟨m.year, m.number + 1⟩ := by
      unfold next
      rw [if_neg (by omega)]
    have := daysBeforeMonth_mono (isLeap m.year) (m := m.number + 1) (n := n.number)
      (by omega) hk (by omega)
    rw [hnext]
    unfold firstDay
    simp only [← hy]
    omega

theorem firstDay_lt_next {m : Month} (hm : m.Valid) : m.firstDay < m.next.firstDay := by
  obtain ⟨h₁, h₂⟩ := hm
  have hlt := daysBeforeMonth_lt_succ (isLeap m.year) h₁ h₂
  unfold firstDay next
  split
  · next hlast =>
    rw [hlast, daysBeforeMonth_thirteen] at hlt
    have hjanuary : daysBeforeMonth (isLeap (m.year + 1)) 1 = 0 := rfl
    simp only [hlast, daysBeforeYear_succ, hjanuary]
    split_ifs at hlt ⊢ <;> omega
  · simp only
    omega

/-- The days of the year before a day are fewer than those of the year. -/
theorem daysInYear_lt (day : Int) :
    (day - daysBeforeYear (yearOfDay day)).toNat <
      if isLeap (yearOfDay day) then 366 else 365 := by
  have hb := yearOfDay_bounds day
  rw [daysBeforeYear_succ] at hb
  split_ifs at hb ⊢ <;> omega

theorem valid_ofDay (day : Int) : (ofDay day).Valid := by
  obtain ⟨h₁, h₂, -⟩ := monthOfDay_bounds (isLeap (yearOfDay day)) (daysInYear_lt day)
  exact ⟨h₁, h₂⟩

/-- A day lies in its month. -/
theorem ofDay_bounds (day : Int) :
    (ofDay day).firstDay ≤ day ∧ day < (ofDay day).next.firstDay := by
  have hb := yearOfDay_bounds day
  have hs := daysBeforeYear_succ (yearOfDay day)
  obtain ⟨h₁, h₂, h₃, h₄⟩ := monthOfDay_bounds (isLeap (yearOfDay day)) (daysInYear_lt day)
  refine ⟨by simp only [firstDay, ofDay]; omega, ?_⟩
  unfold next
  split
  · simp only [firstDay, ofDay, show daysBeforeMonth (isLeap (yearOfDay day + 1)) 1 = 0 from rfl]
    omega
  · simp only [firstDay, ofDay]
    omega

/-- **A month is the one of the days between its bounds.** -/
theorem ofDay_eq_iff {m : Month} (hm : m.Valid) (day : Int) :
    ofDay day = m ↔ m.firstDay ≤ day ∧ day < m.next.firstDay := by
  have hb := ofDay_bounds day
  constructor
  · rintro rfl
    exact hb
  · rintro ⟨h₁, h₂⟩
    rcases lt_trichotomy (ofDay day) m with hlt | heq | hgt
    · have := firstDay_next_le (valid_ofDay day) hm hlt
      omega
    · exact heq
    · have := firstDay_next_le hm (valid_ofDay day) hgt
      omega

/-! ### Instants of a month -/

/-- A month whose days can be reckoned with. -/
def Reckoned (m : Month) : Prop := m.Valid ∧ -262143 ≤ m.year ∧ m.year ≤ 262142

instance (m : Month) : Decidable m.Reckoned := inferInstanceAs (Decidable (_ ∧ _))

/-- An instant of a year that is written with four digits. -/
def FourDigitYear (ts : Int) : Prop :=
  0 ≤ (ofDay (ts / millisPerDay)).year ∧ (ofDay (ts / millisPerDay)).year ≤ 9999

instance (ts : Int) : Decidable (FourDigitYear ts) := inferInstanceAs (Decidable (_ ∧ _))

theorem instantInRange_iff (ts : Int) :
    instantInRange ts = true ↔ (ofDay (ts / millisPerDay)).Reckoned := by
  have h₁ := le_yearOfDay_iff (-262143) (ts / millisPerDay)
  have h₂ := le_yearOfDay_iff 262143 (ts / millisPerDay)
  rw [Int.le_ediv_iff_mul_le millisPerDay_pos] at h₁ h₂
  simp only [instantInRange, within, Bool.and_eq_true, decide_eq_true_eq, Reckoned,
    valid_ofDay, true_and]
  simp only [ofDay]
  omega

theorem containing?_eq_some_iff {ts : Int} {m : Month} :
    containing? ts = some m ↔ m.Reckoned ∧ ofDay (ts / millisPerDay) = m := by
  unfold containing?
  constructor
  · intro h
    split at h
    · next hr =>
      obtain rfl := Option.some.inj h
      exact ⟨(instantInRange_iff ts).mp hr, rfl⟩
    · cases h
  · rintro ⟨hm, rfl⟩
    rw [if_pos ((instantInRange_iff ts).mpr hm)]

theorem containing?_of_fourDigitYear {ts : Int} (h : FourDigitYear ts) :
    ∃ m, containing? ts = some m ∧ m.Valid ∧ 0 ≤ m.year ∧ m.year ≤ 9999 := by
  obtain ⟨h₁, h₂⟩ := h
  exact ⟨_, containing?_eq_some_iff.mpr ⟨⟨valid_ofDay _, by omega, by omega⟩, rfl⟩,
    valid_ofDay _, h₁, h₂⟩

theorem start_eq {m : Month} (hm : m.Reckoned) : m.start = m.firstDay * millisPerDay :=
  if_pos hm

theorem containing?_bounds {ts : Int} {m : Month} (h : containing? ts = some m) :
    m.start ≤ ts ∧ ts < m.stop := by
  obtain ⟨hm, hd⟩ := containing?_eq_some_iff.mp h
  obtain ⟨h₁, h₂⟩ := (ofDay_eq_iff hm.1 _).mp hd
  rw [Int.le_ediv_iff_mul_le millisPerDay_pos] at h₁
  rw [Int.ediv_lt_iff_lt_mul millisPerDay_pos] at h₂
  refine ⟨by rw [start_eq hm]; exact h₁, ?_⟩
  by_cases hn : m.next.Reckoned
  · rw [stop, start_eq hn]
    exact h₂
  · -- the last month that can be reckoned with has no start after it
    have hs : m.stop = Word.maxSigned64 := if_neg hn
    have hr := (instantInRange_iff ts).mpr (hd ▸ hm)
    simp only [instantInRange, within, Bool.and_eq_true, decide_eq_true_eq] at hr
    have : Calendar.daysBeforeYear 262143 * millisPerDay - 1 < Word.maxSigned64 := by decide
    omega

/-- An earlier month stops by the start of a later one. -/
theorem stop_le_start {m n : Month} (hm : m.Reckoned) (hn : n.Reckoned) (h : m < n) :
    m.stop ≤ n.start := by
  have hnext : m.next.Reckoned := by
    refine ⟨valid_next hm.1, ?_⟩
    have h₁ := hm.1.2
    have h₂ := hm.2
    have h₃ := hn.2
    have h₄ := hn.1.2
    rw [lt_def] at h
    unfold next
    split <;> simp only <;> omega
  rw [stop, start_eq hnext, start_eq hn]
  exact Int.mul_le_mul_of_nonneg_right (firstDay_next_le hm.1 hn.1 h)
    (Int.le_of_lt millisPerDay_pos)

theorem containing?_start {m : Month} (hm : m.Reckoned) : containing? m.start = some m := by
  have hday : m.start / millisPerDay = m.firstDay := by
    rw [start_eq hm]
    exact Int.mul_ediv_cancel _ (Int.ne_of_gt millisPerDay_pos)
  refine containing?_eq_some_iff.mpr ⟨hm, ?_⟩
  rw [hday, ofDay_eq_iff hm.1]
  exact ⟨Int.le_refl _, firstDay_lt_next hm.1⟩

theorem start_lt_stop {m : Month} (hm : m.Reckoned) : m.start < m.stop :=
  (containing?_bounds (containing?_start hm)).2

/-- **The order of the months is that of their bounds.** -/
theorem lt_iff_stop_le_start {m n : Month} (hm : m.Reckoned) (hn : n.Reckoned) :
    m < n ↔ m.stop ≤ n.start := by
  refine ⟨stop_le_start hm hn, fun h => ?_⟩
  have hm' := start_lt_stop hm
  have hn' := start_lt_stop hn
  rcases lt_trichotomy m n with hlt | rfl | hgt
  · exact hlt
  · omega
  · have := stop_le_start hn hm hgt
    omega

theorem lt_of_containing? {a b : Int} {m n : Month} (ha : containing? a = some m)
    (hb : containing? b = some n) (h : m < n) : a < b := by
  have h₁ := (containing?_bounds ha).2
  have h₂ := (containing?_bounds hb).1
  have h₃ := stop_le_start (containing?_eq_some_iff.mp ha).1 (containing?_eq_some_iff.mp hb).1 h
  omega

/-- A month that holds an instant of a window overlaps it. -/
theorem overlaps_of_containing? {ts first last : Int} {m : Month} (h : containing? ts = some m)
    (h₁ : first ≤ ts) (h₂ : ts ≤ last) : m.overlaps first last = true := by
  have hb := containing?_bounds h
  simp only [overlaps, Bool.and_eq_true, decide_eq_true_eq]
  omega

end Month
end FleetTelemetry

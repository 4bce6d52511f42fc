/-
# The order of doubles

Doubles that are not NaN are compared by their places: the infinities are at the
ends and zero, of either sign, is in the middle; finite numbers of one sign go by
exponent and then by mantissa (`Double.compare_eq`). Places are ordered linearly,
and so are the doubles, but for the two zeros (`Double.le_refl`,
`Double.le_trans`, `Double.le_of_lt`, `Double.le_of_not_lt`).

Key definitions: `Double.place`, `Double.Before`.
Key theorems: `Double.compare_eq`, `Double.lt_iff`, `Double.le_iff`.
-/

namespace FleetTelemetry
namespace Double

open Float.Model UnpackedFloat

/-- The place of a number among the others. -/
def place : UnpackedFloat → Int × Int × Int
  | .infinity s => (s.apply 2, 0, 0)
  | .finite s m e _ => (s.apply 1, s.apply e, s.apply m)
  | .notANumber | .zero _ => (0, 0, 0)

/-- Whether a place comes before another. -/
def Before (p q : Int × Int × Int) : Prop :=
  p.1 < q.1 ∨ p.1 = q.1 ∧ (p.2.1 < q.2.1 ∨ p.2.1 = q.2.1 ∧ p.2.2 < q.2.2)

/-- The places are compared one component after the other. -/
def comparePlaces (p q : Int × Int × Int) : Ordering :=
  (compare p.1 q.1).then ((compare p.2.1 q.2.1).then (compare p.2.2 q.2.2))

theorem comparePlaces_eq_lt_iff (p q : Int × Int × Int) : comparePlaces p q = .lt ↔ Before p q := by
  simp only [comparePlaces, Ordering.then_eq_lt, Int.compare_eq_lt, Int.compare_eq_eq, Before]

theorem comparePlaces_eq_gt_iff (p q : Int × Int × Int) : comparePlaces p q = .gt ↔ Before q p := by
  simp only [comparePlaces, Ordering.then_eq_gt, Int.compare_eq_gt, Int.compare_eq_eq, Before]
  omega

theorem compare_natCast (m n : Nat) : compare (m : Int) (n : Int) = compare m n := by
  rcases Nat.lt_trichotomy m n with h | h | h
  · rw [Nat.compare_eq_lt.mpr h, Int.compare_eq_lt.mpr (by omega)]
  · rw [Nat.compare_eq_eq.mpr h, Int.compare_eq_eq.mpr (by omega)]
  · rw [Nat.compare_eq_gt.mpr h, Int.compare_eq_gt.mpr (by omega)]

theorem compare_neg (a b : Int) : compare (-a) (-b) = (compare a b).swap := by
  rcases Int.lt_trichotomy a b with h | h | h
  · rw [Int.compare_eq_lt.mpr h, Int.compare_eq_gt.mpr (by omega)]; rfl
  · rw [Int.compare_eq_eq.mpr h, Int.compare_eq_eq.mpr (by omega)]; rfl
  · rw [Int.compare_eq_gt.mpr h, Int.compare_eq_lt.mpr (by omega)]; rfl

/-- Numbers are compared by their places. -/
theorem compare_eq {x y : UnpackedFloat} (hx : x.isNaN = false) (hy : y.isNaN = false) :
    x.compare y = some (comparePlaces (place x) (place y)) := by
  cases x with
  | notANumber => cases hx
  | infinity s =>
    cases y with
    | notANumber => cases hy
    | infinity t => cases s <;> cases t <;> rfl
    | zero t => cases s <;> rfl
    | finite t n f _ => cases s <;> cases t <;> rfl
  | zero s =>
    cases y with
    | notANumber => cases hy
    | infinity t => cases t <;> rfl
    | zero t => rfl
    | finite t n f _ => cases t <;> rfl
  | finite s m e _ =>
    cases y with
    | notANumber => cases hy
    | infinity t => cases s <;> cases t <;> rfl
    | zero t => cases s <;> rfl
    | finite t n f _ =>
      cases s with
      | negative =>
        cases t with
        | positive => rfl
        | negative =>
          show some ((compare e f).then (compare m n)).swap =
            some ((compare (-e) (-f)).then (compare (-(m : Int)) (-(n : Int))))
          rw [compare_neg, compare_neg, compare_natCast, Ordering.swap_then]
      | positive =>
        cases t with
        | negative => rfl
        | positive =>
          show some ((compare e f).then (compare m n)) =
            some ((compare e f).then (compare (m : Int) (n : Int)))
          rw [compare_natCast]

/-! ### The order -/

variable {x y z : Float}

/-- The place of a double. -/
def placeOf (x : Float) : Int × Int × Int := place x.toModel.unpack

theorem lt_iff (hx : x.isNaN = false) (hy : y.isNaN = false) :
    x < y ↔ Before (placeOf x) (placeOf y) := by
  show Float.lt x y = true ↔ _
  unfold Float.lt
  rw [decide_eq_true_iff]
  show (x.toModel.unpack.compare y.toModel.unpack == some .lt) = true ↔ _
  rw [compare_eq hx hy, ← comparePlaces_eq_lt_iff, beq_iff_eq, Option.some.injEq]
  rfl

theorem le_iff (hx : x.isNaN = false) (hy : y.isNaN = false) :
    x ≤ y ↔ ¬ Before (placeOf y) (placeOf x) := by
  show Float.le x y = true ↔ _
  unfold Float.le
  rw [decide_eq_true_iff]
  show (x.toModel.unpack.compare y.toModel.unpack).any (·.isLE) = true ↔ _
  rw [compare_eq hx hy, ← comparePlaces_eq_gt_iff, Option.any_some]
  show (comparePlaces (placeOf x) (placeOf y)).isLE = true ↔ _
  cases comparePlaces (placeOf x) (placeOf y) <;> decide

theorem le_refl (hx : x.isNaN = false) : x ≤ x := by
  rw [le_iff hx hx, Before]
  omega

theorem le_trans (hx : x.isNaN = false) (hy : y.isNaN = false) (hz : z.isNaN = false) (h₁ : x ≤ y)
    (h₂ : y ≤ z) : x ≤ z := by
  rw [le_iff hx hy, Before] at h₁
  rw [le_iff hy hz, Before] at h₂
  rw [le_iff hx hz, Before]
  omega

theorem le_of_lt (hx : x.isNaN = false) (hy : y.isNaN = false) (h : x < y) : x ≤ y := by
  rw [lt_iff hx hy, Before] at h
  rw [le_iff hx hy, Before]
  omega

theorem le_of_not_lt (hx : x.isNaN = false) (hy : y.isNaN = false) (h : ¬ x < y) : y ≤ x := by
  rw [lt_iff hx hy] at h
  rwa [le_iff hy hx]

end Double
end FleetTelemetry

/-
# The greatest reading

Readings that a table gives back as they are have a greatest among them, and a
peak is it (`Gauge.isPeak_peak`); the peak of some peaks is that of all readings
(`Gauge.isPeak_flatMap`). Doubles are such readings, by their order, and so are
rational numbers, on which the arithmetic of a gauge is exact.

Key definitions: `Gauge.Ordered`, `Gauge.IsPeak`.
Key theorems: `Gauge.isPeak_peak`, `Gauge.isPeak_flatMap`, `Gauge.sum_rat`.
-/
import FleetTelemetry.Proofs.Doubles
import FleetTelemetry.Summary
import Mathlib.Algebra.BigOperators.Group.List.Basic
import Mathlib.Algebra.Field.Rat
import Mathlib.Algebra.Order.Ring.Unbundled.Rat

namespace FleetTelemetry
namespace Gauge

/-- A table gives a reading back as it is. -/
def IsStored {α : Type} [Gauge α] (x : α) : Prop := stored x = some x

/-- What a table gives back is ordered, and of two such readings a maximum keeps the greater. -/
class Ordered (α : Type) [Gauge α] [LE α] : Prop where
  isStored_of_stored {x y : α} : stored x = some y → IsStored y
  alone_eq {x : α} : IsStored x → alone x = x
  le_refl {x : α} : IsStored x → x ≤ x
  le_trans {x y z : α} : IsStored x → IsStored y → IsStored z → x ≤ y → y ≤ z → x ≤ z
  max_cases {m x : α} : IsStored m → IsStored x → max m x = m ∧ x ≤ m ∨ max m x = x ∧ m ≤ x

/-- A reading is the greatest of some. -/
def IsPeak {α : Type} [LE α] (m : α) (xs : List α) : Prop := m ∈ xs ∧ ∀ x ∈ xs, x ≤ m

variable {α β : Type} [Gauge α] [LE α] [Ordered α]

theorem max_spec {m x : α} (hm : IsStored m) (hx : IsStored x) :
    IsStored (max m x) ∧ (max m x = m ∨ max m x = x) ∧ m ≤ max m x ∧ x ≤ max m x := by
  rcases Ordered.max_cases hm hx with ⟨h, hle⟩ | ⟨h, hle⟩
  · rw [h]
    exact ⟨hm, Or.inl rfl, Ordered.le_refl hm, hle⟩
  · rw [h]
    exact ⟨hx, Or.inr rfl, hle, Ordered.le_refl hx⟩

theorem isPeak_foldl_max : ∀ (xs : List α) (m : α), IsStored m → (∀ x ∈ xs, IsStored x) →
    IsPeak (xs.foldl max m) (m :: xs)
  | [], m, hm, _ => by
    refine ⟨List.mem_singleton_self m, fun x hx => ?_⟩
    rw [List.mem_singleton.mp hx]
    exact Ordered.le_refl hm
  | x :: xs, m, hm, hxs => by
    have hx := hxs x List.mem_cons_self
    have hrest : ∀ y ∈ xs, IsStored y := fun y hy => hxs y (List.mem_cons_of_mem x hy)
    obtain ⟨hst, hor, hle, hle'⟩ := max_spec hm hx
    rw [List.foldl_cons]
    -- the greater of the two goes on, and both are below it
    generalize max m x = n at hst hor hle hle' ⊢
    obtain ⟨hmem, hmax⟩ := isPeak_foldl_max xs n hst hrest
    have hall : ∀ y ∈ m :: x :: xs, IsStored y := by
      intro y hy
      rcases List.mem_cons.mp hy with rfl | hy
      · exact hm
      · exact hxs y hy
    have hpeak : xs.foldl max n ∈ m :: x :: xs := by
      rcases List.mem_cons.mp hmem with h | h
      · rw [h]
        rcases hor with rfl | rfl
        · exact List.mem_cons_self
        · exact List.mem_cons_of_mem m List.mem_cons_self
      · exact List.mem_cons_of_mem m (List.mem_cons_of_mem x h)
    have hn := hmax n List.mem_cons_self
    refine ⟨hpeak, fun y hy => ?_⟩
    rcases List.mem_cons.mp hy with rfl | hy
    · exact Ordered.le_trans hm hst (hall _ hpeak) hle hn
    · rcases List.mem_cons.mp hy with rfl | hy
      · exact Ordered.le_trans hx hst (hall _ hpeak) hle' hn
      · exact hmax y (List.mem_cons_of_mem n hy)

/-- **The peak of readings is the greatest.** -/
theorem isPeak_peak {xs : List α} (hne : xs ≠ []) (hxs : ∀ x ∈ xs, IsStored x) :
    IsPeak (peak xs) xs := by
  cases xs with
  | nil => exact absurd rfl hne
  | cons x xs =>
    have hx := hxs x List.mem_cons_self
    rw [peak, Ordered.alone_eq hx]
    exact isPeak_foldl_max xs x hx fun y hy => hxs y (List.mem_cons_of_mem x hy)

/-- The peak of the peaks of some lists is the greatest of all readings. -/
theorem isPeak_flatMap {m : α} {f : β → α} {g : β → List α} {bs : List β}
    (hst : ∀ b ∈ bs, ∀ x ∈ g b, IsStored x) (hg : ∀ b ∈ bs, IsPeak (f b) (g b))
    (hm : IsPeak m (bs.map f)) : IsPeak m (bs.flatMap g) := by
  have hf : ∀ b ∈ bs, IsStored (f b) := fun b hb => hst b hb _ (hg b hb).1
  obtain ⟨b, hb, rfl⟩ := List.mem_map.mp hm.1
  refine ⟨List.mem_flatMap.mpr ⟨b, hb, (hg b hb).1⟩, fun x hx => ?_⟩
  obtain ⟨c, hc, hx⟩ := List.mem_flatMap.mp hx
  exact Ordered.le_trans (hst c hc x hx) (hf c hc) (hf b hb) ((hg c hc).2 x hx)
    (hm.2 _ (List.mem_map.mpr ⟨c, hc, rfl⟩))

/-! ### Doubles -/

theorem stored_eq_some_iff {x y : Float} :
    stored x = some y ↔ x.isNaN = false ∧ (if (x == 0.0) = true then 0.0 else x) = y := by
  show (if x.isNaN then none else if x == 0.0 then some 0.0 else some x) = some y ↔ _
  cases x.isNaN with
  | true => simp
  | false =>
    simp only [Bool.false_eq_true, if_false, true_and]
    split <;> exact Option.some_inj

theorem isNaN_of_isStored {x : Float} (h : IsStored x) : x.isNaN = false :=
  (stored_eq_some_iff.mp h).1

instance : Ordered Float where
  isStored_of_stored {x y} h := by
    obtain ⟨hx, hy⟩ := stored_eq_some_iff.mp h
    by_cases h0 : (x == 0.0) = true
    · rw [if_pos h0] at hy
      rw [← hy, IsStored]
      decide +kernel
    · rw [if_neg h0] at hy
      rw [← hy]
      exact stored_eq_some_iff.mpr ⟨hx, if_neg h0⟩
  alone_eq {x} h := by
    show (if x.isNaN then -(1.0 / 0.0) else x) = x
    rw [isNaN_of_isStored h]
    rfl
  le_refl h := Double.le_refl (isNaN_of_isStored h)
  le_trans hx hy hz :=
    Double.le_trans (isNaN_of_isStored hx) (isNaN_of_isStored hy) (isNaN_of_isStored hz)
  max_cases {m x} hm hx := by
    have hm := isNaN_of_isStored hm
    have hx := isNaN_of_isStored hx
    show (if x.isNaN || x < m then m else x) = m ∧ x ≤ m ∨
      (if x.isNaN || x < m then m else x) = x ∧ m ≤ x
    rw [hx, Bool.false_or]
    by_cases h : x < m
    · rw [decide_eq_true h, if_pos rfl]
      exact Or.inl ⟨rfl, Double.le_of_lt hx hm h⟩
    · rw [decide_eq_false h, if_neg Bool.false_ne_true]
      exact Or.inr ⟨rfl, Double.le_of_not_lt hx hm h⟩

/-! ### Rational numbers -/

/-- Rational numbers, with exact arithmetic. -/
instance : Gauge ℚ where
  zero := 0
  add x y := x + y
  mul x y := x * y
  div x y := x / y
  ofInt n := n
  alone x := x
  max m x := if x < m then m else x
  stored x := some x

instance : Ordered ℚ where
  isStored_of_stored _ := rfl
  alone_eq _ := rfl
  le_refl _ := le_rfl
  le_trans _ _ _ h₁ h₂ := h₁.trans h₂
  max_cases {m x} _ _ := by
    show (if x < m then m else x) = m ∧ x ≤ m ∨ (if x < m then m else x) = x ∧ m ≤ x
    by_cases h : x < m
    · rw [if_pos h]
      exact Or.inl ⟨rfl, h.le⟩
    · rw [if_neg h]
      exact Or.inr ⟨rfl, not_lt.mp h⟩

theorem ofInt_rat (n : ℕ) : (ofInt (n : Int) : ℚ) = n := by
  show ((n : Int) : ℚ) = n
  exact Int.cast_natCast (R := ℚ) n

theorem sum_rat (xs : List ℚ) : sum xs = xs.sum := by
  cases xs with
  | nil => rfl
  | cons x xs =>
    show xs.foldl (· + ·) x = (x :: xs).sum
    induction xs generalizing x with
    | nil => simp
    | cons y xs ih =>
      rw [List.foldl_cons, ih, List.sum_cons, List.sum_cons, List.sum_cons, add_assoc]

end Gauge
end FleetTelemetry

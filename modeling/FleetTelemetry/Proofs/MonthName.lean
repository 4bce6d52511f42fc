/-
# The names of months are read back

A year has four characters in a name if it lies between -999 and 9999, and only
then is the name of a month recognised; it stands for the month it was written
for (`Month.ofName?_name`).

Key theorems: `Digits.length_decimal_le_iff`, `Digits.int?_paddedInt`,
`Month.ofName?_name`.
-/
import FleetTelemetry.Proofs.Calendar
import Mathlib.Algebra.Group.Nat.Defs

namespace FleetTelemetry

/-! ### Padded numbers -/

namespace Digits

theorem length_decimal_pos (n : Nat) : 1 ≤ (decimal n).length :=
  List.length_pos_iff.mpr (decimal_ne_nil n)

/-- A number has as many digits as there are powers of ten up to it. -/
theorem length_decimal_le_iff (k : Nat) : ∀ n : Nat,
    (decimal n).length ≤ k + 1 ↔ n < 10 ^ (k + 1) := by
  induction k with
  | zero =>
    intro n
    rw [decimal]
    split
    · next h => simp [h]
    · next h =>
      have := length_decimal_pos (n / 10)
      simp only [List.length_append, List.length_singleton]
      omega
  | succ k ih =>
    intro n
    rw [decimal]
    split
    · next h =>
      have : 10 ^ 1 ≤ 10 ^ (k + 1 + 1) := Nat.pow_le_pow_right (by decide) (by omega)
      simp only [List.length_singleton]
      omega
    · next h =>
      have := ih (n / 10)
      rw [List.length_append, List.length_singleton, Nat.add_le_add_iff_right, this,
        Nat.div_lt_iff_lt_mul (by decide), Nat.pow_succ 10 (k + 1)]

theorem length_padded (width n : Nat) :
    (padded width n).length = max width (decimal n).length := by
  simp only [padded, List.length_append, List.length_replicate]
  omega

theorem valueFrom?_zeros (k : Nat) (ds : List Char) :
    valueFrom? 10 0 (List.replicate k '0' ++ ds) = valueFrom? 10 0 ds := by
  induction k with
  | zero => rfl
  | succ k ih =>
    have h0 : digitIn? 10 '0' = some 0 := rfl
    simp only [List.replicate_succ, List.cons_append, valueFrom?, h0, Option.bind_some]
    exact ih

theorem padded_ne_nil (width n : Nat) : padded width n ≠ [] := by
  simp [padded, decimal_ne_nil]

/-- Zeros in front do not change a number. -/
theorem value?_padded (width n : Nat) : value? 10 (padded width n) = some n := by
  have h := valueFrom?_zeros (width - (decimal n).length) (decimal n)
  rw [valueFrom?_decimal] at h
  cases hp : padded width n with
  | nil => exact absurd hp (padded_ne_nil width n)
  | cons c cs =>
    rw [padded] at hp
    rw [hp] at h
    exact h

theorem digitChar_ne {c : Char} (hc : digitIn? 10 c = none) (n : Nat) : digitChar n ≠ c := by
  rintro rfl
  have hd : digitChar n = digitChar (n % 10) := by simp [digitChar]
  rw [hd, digitIn?_digitChar (Nat.mod_lt n (by decide))] at hc
  cases hc

theorem not_mem_decimal {c : Char} (hc : digitIn? 10 c = none) (n : Nat) : c ∉ decimal n := by
  induction n using Nat.strongRecOn with
  | ind n ih =>
    rw [decimal]
    split
    · simpa using (digitChar_ne hc n).symm
    · simpa using ⟨ih (n / 10) (by omega), (digitChar_ne hc n).symm⟩

/-- A padded number has no character but digits. -/
theorem not_mem_padded {c : Char} (hc : digitIn? 10 c = none) (width n : Nat) :
    c ∉ padded width n := by
  have h0 : c ≠ '0' := by
    rintro rfl
    cases hc
  simp [padded, not_mem_decimal hc, h0]

theorem nat?_padded (width n : Nat) : nat? (padded width n) = some n := by
  unfold nat?
  split
  · next h => exact absurd (h ▸ List.mem_cons_self) (not_mem_padded (c := '+') rfl width n)
  · exact value?_padded width n

theorem int?_paddedInt (width : Nat) : ∀ i : Int, int? (paddedInt width i) = some i
  | .ofNat n => by
    have hne : ∀ cs, padded width n ≠ '-' :: cs := fun cs h =>
      not_mem_padded (c := '-') rfl width n (h ▸ List.mem_cons_self)
    simp only [paddedInt]
    unfold int?
    split
    · next cs h => exact absurd h (hne cs)
    · rw [nat?_padded]
      rfl
  | .negSucc n => by
    simp only [paddedInt, int?, value?_padded, Option.map_some]
    rfl

theorem not_mem_paddedInt {c : Char} (hc : digitIn? 10 c = none) (hm : c ≠ '-') (width : Nat) :
    ∀ i : Int, c ∉ paddedInt width i
  | .ofNat n => not_mem_padded hc width n
  | .negSucc n => by simpa [paddedInt, hm] using not_mem_padded hc (width - 1) (n + 1)

theorem length_paddedInt_four (i : Int) :
    (paddedInt 4 i).length = 4 ↔ -999 ≤ i ∧ i ≤ 9999 := by
  cases i with
  | ofNat n =>
    have := length_decimal_le_iff 3 n
    simp only [paddedInt, length_padded, Int.ofNat_eq_natCast]
    omega
  | negSucc n =>
    have := length_decimal_le_iff 2 (n + 1)
    simp only [paddedInt, List.length_cons, length_padded]
    omega

theorem length_padded_two {n : Nat} (h : n < 100) : (padded 2 n).length = 2 := by
  have := (length_decimal_le_iff 1 n).mpr h
  rw [length_padded]
  omega

end Digits

/-! ### Names of months -/

namespace Month

open Digits

theorem dropStem_append : ∀ stem rest : List Char, dropStem stem (stem ++ rest) = some rest
  | [], rest => rfl
  | c :: stem, rest => by simp only [List.cons_append, dropStem, if_true, dropStem_append stem]

/-- **A name stands for its month**, and is recognised exactly if the year has four characters. -/
theorem ofName?_name {m : Month} (hm : m.Valid) :
    ofName? m.name = if -999 ≤ m.year ∧ m.year ≤ 9999 then some m else none := by
  have hsep : '_' ∉ paddedInt 4 m.year := not_mem_paddedInt rfl (by decide) 4 m.year
  have hall : ∀ c ∈ paddedInt 4 m.year, (decide (c ≠ '_')) = true := fun c hc =>
    decide_eq_true fun h => hsep (h ▸ hc)
  have hname : m.name.toList = stem ++ (paddedInt 4 m.year ++ '_' :: padded 2 m.number) := by
    simp [name, nameChars]
  have hnum : (padded 2 m.number).length = 2 :=
    length_padded_two (by have := hm.2; omega)
  rw [ofName?, hname, ofNameChars?, dropStem_append]
  simp only [Option.bind_eq_bind, Option.bind_some, List.takeWhile_append_of_pos hall,
    List.dropWhile_append_of_pos hall, ne_eq, not_true_eq_false, decide_false,
    Bool.false_eq_true, not_false_eq_true, List.takeWhile_cons_of_neg, List.append_nil,
    List.dropWhile_cons_of_neg, List.tail?_cons, hnum, and_true, length_paddedInt_four]
  split
  · rw [int?_paddedInt, nat?_padded]
    exact if_pos hm
  · rfl

end Month
end FleetTelemetry

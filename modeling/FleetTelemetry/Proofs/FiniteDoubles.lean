/-
# Finite doubles

A double is finite unless its exponent is all ones. Packing keeps an exponent and
rounding raises it by little more than the mantissa is too long, so a number of
64 bits, whose exponent is far below the greatest, is a finite double
(`Double.isFinite_ofInt`); the bounds on the way are coarse. No operation between
a decimal fraction and its double leaves the numbers, so what a fraction stands
for is finite once infinity is ruled out (`Double.isFinite_of_toFloat?`).

Key definitions: `Double.Bounded`.
Key theorems: `Double.isFinite_iff`, `Double.isFinite_ofInt`,
`Double.isFinite_of_toFloat?`.
-/
import FleetTelemetry.Text.Digits
import Mathlib.Algebra.Group.Int.Defs
import Mathlib.Algebra.Group.Nat.Defs

namespace FleetTelemetry
namespace Double

open Float.Model
open Float.Model.UnpackedFloat (packComponents unpackExponent unpackMantissa roundWithAccuracy
  shiftToTargetExponent ExtendedMantissa Accuracy Sign)

/-- A zero, or a number whose mantissa and exponent are bounded. -/
def Bounded (bits : Nat) (top : Int) : UnpackedFloat → Prop
  | .zero _ => True
  | .finite _ m e _ => m < 2 ^ bits ∧ e ≤ top
  | .infinity _ | .notANumber => False

theorem Bounded.isFinite {bits : Nat} {top : Int} {u : UnpackedFloat} (h : Bounded bits top u) :
    u.isFinite = true := by
  cases u <;> first | rfl | exact h.elim

theorem Bounded.isNaN {bits : Nat} {top : Int} {u : UnpackedFloat} (h : Bounded bits top u) :
    u.isNaN = false := by
  cases u <;> first | rfl | exact h.elim

theorem Bounded.neg {bits : Nat} {top : Int} {u : UnpackedFloat} (h : Bounded bits top u) :
    Bounded bits top u.neg := by
  cases u <;> exact h

theorem Bounded.mono {bits bits' : Nat} {top top' : Int} {u : UnpackedFloat}
    (h : Bounded bits top u) (hbits : bits ≤ bits') (htop : top ≤ top') : Bounded bits' top' u := by
  cases u with
  | infinity s => exact h
  | notANumber => exact h
  | zero s => trivial
  | finite s m e hm =>
    exact ⟨Nat.lt_of_lt_of_le h.1 (Nat.pow_le_pow_right (by decide) hbits), Int.le_trans h.2 htop⟩

/-! ### Packing -/

theorem bias_eq : (Format.binary64.exponentBias : Int) = 1023 := by decide

theorem unpack_of_ones {b : BitVec Format.binary64.numBits} (h : unpackExponent b = -1#_) :
    UnpackedFloat.unpack .binary64 b = if unpackMantissa b = 0#_
      then .infinity (.ofBitVec (UnpackedFloat.unpackSign b)) else .notANumber :=
  if_pos h

/-- An exponent other than all ones bounds the number under it. -/
theorem bounded_unpack {b : BitVec Format.binary64.numBits} {top : Int}
    (h : unpackExponent b ≠ -1#_) (hlow : -1074 ≤ top)
    (htop : ((unpackExponent b).toNat : Int) ≤ top + 1075) :
    Bounded 53 top (UnpackedFloat.unpack .binary64 b) := by
  have hm := (unpackMantissa b).isLt
  have hi : (1#1 ++ unpackMantissa b).toNat < 2 ^ 53 := (1#1 ++ unpackMantissa b).isLt
  unfold UnpackedFloat.unpack
  rw [if_neg h]
  by_cases h0 : unpackExponent b = 0#_
  · rw [if_pos h0]
    by_cases hm0 : unpackMantissa b = 0#_
    · rw [dif_pos hm0]
      trivial
    · rw [dif_neg hm0]
      refine ⟨Nat.lt_trans hm (by decide), ?_⟩
      rw [h0]
      exact hlow
  · rw [if_neg h0]
    refine ⟨hi, ?_⟩
    show _ - (1023 + 52) ≤ top
    omega

/-- The exponent under which a bounded number is packed. -/
theorem unpackExponent_pack {bits : Nat} {top : Int} {u : UnpackedFloat} (h : Bounded bits top u)
    (hlow : -1074 ≤ top) (htop : top < 972) :
    ∃ k : Nat, (k : Int) ≤ top + 1075 ∧
      unpackExponent (UnpackedFloat.pack .binary64 u) = BitVec.ofNat 11 k := by
  cases u with
  | infinity s => exact h.elim
  | notANumber => exact h.elim
  | zero s =>
    exact ⟨0, by omega, UnpackedFloat.unpackExponent_packComponents⟩
  | finite s m e hm =>
    obtain ⟨-, he⟩ := h
    unfold UnpackedFloat.pack
    simp only [bias_eq]
    split
    · next hbig =>
      have : 2 ^ 11 ≤ (e + 1023 + (52 : Nat)).toNat + 1 := hbig
      omega
    split
    · refine ⟨(e + 1023 + (52 : Nat)).toNat, by omega, ?_⟩
      exact UnpackedFloat.unpackExponent_packComponents
    · exact ⟨0, by omega, UnpackedFloat.unpackExponent_packComponents⟩

/-- Packing keeps a bound on the exponent that is below the greatest. -/
theorem bounded_unpack_pack {bits : Nat} {top : Int} {u : UnpackedFloat} (h : Bounded bits top u)
    (hlow : -1074 ≤ top) (htop : top < 972) :
    Bounded 53 top (Float.Model.pack u).unpack := by
  obtain ⟨k, hk, hexp⟩ := unpackExponent_pack h hlow htop
  have hval : (BitVec.ofNat 11 k).toNat = k := by
    rw [BitVec.toNat_ofNat, Nat.mod_eq_of_lt (by omega)]
  refine bounded_unpack ?_ hlow ?_
  · show unpackExponent (UnpackedFloat.pack .binary64 u) ≠ _
    rw [hexp]
    intro heq
    have hones : (-1#11).toNat = 2047 := by decide
    have : k = 2047 := hval.symm.trans ((congrArg BitVec.toNat heq).trans hones)
    omega
  · show ((unpackExponent (UnpackedFloat.pack .binary64 u)).toNat : Int) ≤ _
    rw [hexp]
    show ((BitVec.ofNat 11 k).toNat : Int) ≤ _
    rw [hval]
    exact hk

theorem bounded_of_isFinite {b : BitVec Format.binary64.numBits}
    (h : (UnpackedFloat.unpack .binary64 b).isFinite = true) :
    Bounded 53 971 (UnpackedFloat.unpack .binary64 b) := by
  have hne : unpackExponent b ≠ -1#_ := by
    intro hones
    rw [unpack_of_ones hones] at h
    split at h <;> cases h
  refine bounded_unpack hne (by decide) ?_
  have hlt : (unpackExponent b).toNat < 2048 := (unpackExponent b).isLt
  have hne' : (unpackExponent b).toNat ≠ 2047 := fun heq => hne (BitVec.eq_of_toNat_eq heq)
  omega

/-- **The finite doubles** are those with a mantissa of 53 bits and an exponent of at most 971. -/
theorem isFinite_iff (x : Float) : x.isFinite = true ↔ Bounded 53 971 x.toModel.unpack :=
  ⟨bounded_of_isFinite, Bounded.isFinite⟩

theorem isFinite_zero : (0.0 : Float).isFinite = true := by decide +kernel

theorem isFinite_neg {x : Float} (h : x.isFinite = true) : (-x).isFinite = true :=
  (bounded_unpack_pack ((isFinite_iff x).mp h).neg (by decide) (by decide)).isFinite

/-! ### Rounding -/

theorem shiftRight_mantissa_le (em : ExtendedMantissa) (n : Nat) :
    (em >>> n).mantissa ≤ em.mantissa := by
  show (n.repeat ExtendedMantissa.shiftRightOne em).mantissa ≤ em.mantissa
  induction n with
  | zero => exact Nat.le_refl _
  | succ n ih => exact Nat.le_trans (Nat.div_le_self _ 2) ih

theorem roundedMantissa_le (em : ExtendedMantissa) :
    em.roundedMantissa ≤ em.mantissa + 1 := by
  unfold ExtendedMantissa.roundedMantissa
  cases em.accuracy with
  | exact => exact Nat.le_succ _
  | inexact o =>
    cases o with
    | lt => exact Nat.le_succ _
    | eq => exact Nat.add_le_add_left (Nat.le_of_lt_succ (Nat.mod_lt _ (by decide))) _
    | gt => exact Nat.le_refl _

theorem ofMantissaAndAccuracy_mantissa (m : Nat) (a : Accuracy) :
    (ExtendedMantissa.ofMantissaAndAccuracy m a).mantissa = m := by
  cases a with
  | exact => rfl
  | inexact o => cases o <;> rfl

theorem targetExponent_le {m : Nat} {bits : Nat} {e : Int} (hm : m < 2 ^ bits) (hbits : 0 < bits) :
    Format.binary64.targetExponent (totalExponent m e) ≤ max (bits + e - 53) (-1074) := by
  have hlog : m.log2 < bits := by
    by_cases h0 : m = 0
    · subst h0
      exact hbits
    · exact (Nat.log2_lt h0).mpr hm
  show max ((m.log2 : Int) + 1 + e - 53) (-1074) ≤ _
  omega

theorem shiftToTargetExponent_le {m bits : Nat} {e : Int} (top : Int) (a : Accuracy)
    (hm : m < 2 ^ bits) (hbits : 0 < bits) (he : e ≤ top) (htop : bits + e ≤ top + 53)
    (hlow : -1074 ≤ top) :
    (shiftToTargetExponent .binary64 m e a).1.mantissa < 2 ^ bits ∧
      (shiftToTargetExponent .binary64 m e a).2 ≤ top := by
  refine ⟨?_, ?_⟩
  · refine Nat.lt_of_le_of_lt (shiftRight_mantissa_le _ _) ?_
    rw [ofMantissaAndAccuracy_mantissa]
    exact hm
  · have := targetExponent_le (e := e) hm hbits
    show e + ((Format.binary64.targetExponent (totalExponent m e) - e).toNat : Int) ≤ top
    omega

/-- Rounding raises an exponent by little more than the mantissa is too long. -/
theorem bounded_roundWithAccuracy {m bits : Nat} {e : Int} (top : Int) (s : Sign) (a : Accuracy)
    (hm : m < 2 ^ bits) (hbits : 0 < bits) (he : e ≤ top) (htop : bits + e ≤ top + 53)
    (hlow : -1074 ≤ top) :
    Bounded (bits + 1) (top + bits) (roundWithAccuracy .binary64 s m e a) := by
  let first := shiftToTargetExponent .binary64 m e a
  obtain ⟨hm₁, he₁⟩ : first.1.mantissa < 2 ^ bits ∧ first.2 ≤ top :=
    shiftToTargetExponent_le top a hm hbits he htop hlow
  have hr : first.1.roundedMantissa < 2 ^ (bits + 1) := by
    have := roundedMantissa_le first.1
    have := Nat.one_le_two_pow (n := bits)
    rw [Nat.pow_succ]
    omega
  -- What rounding has made longer is shifted once more.
  obtain ⟨hm₂, he₂⟩ := shiftToTargetExponent_le (e := first.2) (top + bits) .exact hr
    (Nat.succ_pos _) (by omega) (by omega) (by omega)
  let second := shiftToTargetExponent .binary64 first.1.roundedMantissa first.2 .exact
  show Bounded _ _ (if h : second.1.mantissa = 0 then .zero s
    else .finite s second.1.mantissa second.2 (Nat.pos_of_ne_zero h))
  by_cases hzero : second.1.mantissa = 0
  · rw [dif_pos hzero]
    trivial
  · rw [dif_neg hzero]
    exact ⟨hm₂, he₂⟩

/-- Products of bounded numbers are bounded. -/
theorem bounded_mul (bits₁ bits₂ : Nat) (top₁ top₂ : Int) {u v : UnpackedFloat}
    (hu : Bounded bits₁ top₁ u) (hv : Bounded bits₂ top₂ v) (hpos : 0 < bits₁)
    (hbits : bits₁ + bits₂ ≤ 200) (htop : top₁ + top₂ ≤ 200) :
    Bounded 201 600 (UnpackedFloat.mul .binary64 u v) := by
  cases u with
  | infinity s => exact hu.elim
  | notANumber => exact hu.elim
  | zero s =>
    cases v with
    | infinity t => exact hv.elim
    | notANumber => exact hv.elim
    | zero t => trivial
    | finite t n f hn => trivial
  | finite s m e hm =>
    cases v with
    | infinity t => exact hv.elim
    | notANumber => exact hv.elim
    | zero t => trivial
    | finite t n f hn =>
      obtain ⟨hm', he'⟩ := hu
      obtain ⟨hn', hf'⟩ := hv
      have hprod : m * n < 2 ^ (bits₁ + bits₂) := by
        rw [Nat.pow_add]
        exact Nat.mul_lt_mul'' hm' hn'
      have hround := bounded_roundWithAccuracy (e := e + f) 400 (s * t) .exact hprod
        (by omega) (by omega) (by omega) (by omega)
      exact hround.mono (by omega) (by omega)

/-- A number that fits into the mantissa of a double. -/
theorem bounded_ofNat {n : Nat} (hn : n < 2 ^ 53) :
    Bounded 106 157 (UnpackedFloat.ofNat .binary64 n) := by
  unfold UnpackedFloat.ofNat UnpackedFloat.ofInt UnpackedFloat.normalize
  rcases Nat.eq_zero_or_pos n with rfl | hpos
  · trivial
  rw [Int.compare_eq_gt.mpr (by omega)]
  show Bounded 106 157 (UnpackedFloat.round .binary64 .positive n 0)
  let target := Format.binary64.targetExponent (totalExponent n 0)
  have htarget : -52 ≤ target := by
    show -52 ≤ max ((n.log2 : Int) + 1 + 0 - 53) (-1074)
    omega
  have hm : n <<< (0 - target).toNat < 2 ^ 105 := by
    rw [Nat.shiftLeft_eq, show (105 : Nat) = 53 + 52 from rfl, Nat.pow_add]
    exact Nat.mul_lt_mul_of_lt_of_le hn (Nat.pow_le_pow_right (by decide) (by omega)) (by decide)
  exact bounded_roundWithAccuracy 52 .positive .exact hm (by decide) (by omega) (by omega)
    (by decide)

theorem unpack_one : (Float.exactlyRepresentablePowersOfTen[0]).toModel.unpack =
    .finite .positive (2 ^ 52) (-52) (by decide) := by rfl

theorem bounded_ofScientific {n : Nat} (hn : n < 2 ^ 64) :
    Bounded 201 600 (UnpackedFloat.ofScientific .binary64 n 0) := by
  by_cases h0 : n = 0
  · rw [h0]
    trivial
  have hscaled : n <<< 53 < 2 ^ 117 := by
    rw [Nat.shiftLeft_eq, show (117 : Nat) = 64 + 53 from rfl, Nat.pow_add]
    exact Nat.mul_lt_mul_of_pos_right hn (by decide)
  have hlow : ¬ (0 : Int) < -(2 ^ 11 + (n.log2 : Int)) := by omega
  unfold UnpackedFloat.ofScientific
  rw [dif_neg h0, if_neg (by decide), if_neg hlow, if_pos (by decide)]
  refine bounded_mul 117 1 (-53) 0 ?_ ?_ ?_ ?_ ?_
  · exact ⟨hscaled, by decide⟩
  · exact ⟨by decide, by decide⟩
  all_goals decide

theorem isFinite_ofNat {n : Nat} (hn : n < 2 ^ 64) : (Float.ofNat n).isFinite = true := by
  show (Float.ofScientific n false 0).isFinite = true
  unfold Float.ofScientific
  split
  · next h =>
    have hword : n.toUInt64.toNat = n := Nat.mod_eq_of_lt hn
    have hx : Bounded 53 157 n.toUInt64.toFloat.toModel.unpack := by
      refine bounded_unpack_pack (u := .ofNat .binary64 n.toUInt64.toNat) (bounded_ofNat ?_)
        (by decide) (by decide)
      rw [hword]
      exact h.1
    have hone : Bounded 53 (-52) (Float.exactlyRepresentablePowersOfTen[0]).toModel.unpack := by
      rw [unpack_one]
      exact ⟨by decide, by decide⟩
    have hmul := bounded_mul 53 53 157 (-52) hx hone (by decide) (by decide) (by decide)
    exact (bounded_unpack_pack hmul (by decide) (by decide)).isFinite
  · exact (bounded_unpack_pack (bounded_ofScientific hn) (by decide) (by decide)).isFinite

/-- **Integers of 64 bits are finite doubles**, whatever their sign. -/
theorem isFinite_ofInt {n : Int} (hn : n.natAbs < 2 ^ 64) : (Float.ofInt n).isFinite = true := by
  cases n with
  | ofNat n => exact isFinite_ofNat hn
  | negSucc n => exact isFinite_neg (isFinite_ofNat hn)

/-! ### Decimal fractions -/

theorem isNaN_unpack_packComponents {s : Sign} {k : BitVec Format.binary64.exponentBits}
    {m : BitVec Format.binary64.mantissaBitsWithoutImplicit} (h : k = -1#_ → m = 0#_) :
    (UnpackedFloat.unpack .binary64 (packComponents .binary64 s k m)).isNaN = false := by
  obtain ⟨b, hb⟩ : ∃ b, packComponents .binary64 s k m = b := ⟨_, rfl⟩
  have hexponent : unpackExponent b = k := hb ▸ UnpackedFloat.unpackExponent_packComponents
  have hmantissa : unpackMantissa b = m := hb ▸ UnpackedFloat.unpackMantissa_packComponents
  rw [hb]
  by_cases hones : unpackExponent b = -1#_
  · rw [unpack_of_ones hones, if_pos (hmantissa.trans (h (hexponent.symm.trans hones)))]
    rfl
  · have hlt : (unpackExponent b).toNat < 2048 := (unpackExponent b).isLt
    have hbounded : Bounded 53 972 (UnpackedFloat.unpack .binary64 b) :=
      bounded_unpack hones (by decide) (by omega)
    exact hbounded.isNaN

theorem isNaN_unpack_pack {u : UnpackedFloat} (h : u.isNaN = false) :
    (Float.Model.pack u).unpack.isNaN = false := by
  show (UnpackedFloat.unpack .binary64 (UnpackedFloat.pack .binary64 u)).isNaN = false
  cases u with
  | notANumber => cases h
  | infinity s => exact isNaN_unpack_packComponents fun _ => rfl
  | zero s => exact isNaN_unpack_packComponents fun _ => rfl
  | finite s m e hm =>
    unfold UnpackedFloat.pack
    simp only [bias_eq]
    split
    · exact isNaN_unpack_packComponents fun _ => rfl
    split
    · next hsmall _ =>
      refine isNaN_unpack_packComponents fun hones => ?_
      have hsmall' : (e + 1023 + (52 : Nat)).toNat + 1 < 2 ^ 11 := Nat.not_le.mp hsmall
      have hval : (BitVec.ofNat 11 (e + 1023 + (52 : Nat)).toNat).toNat = (-1#11).toNat :=
        congrArg BitVec.toNat hones
      have hones' : (-1#11).toNat = 2047 := by decide
      rw [hones', BitVec.toNat_ofNat, Nat.mod_eq_of_lt (by omega)] at hval
      omega
    · exact isNaN_unpack_packComponents fun hones => absurd hones (by decide)

/-- No rounding makes a number something else. -/
theorem isNaN_roundWithAccuracy (s : Sign) (m : Nat) (e : Int) (a : Accuracy) :
    (roundWithAccuracy .binary64 s m e a).isNaN = false := by
  let first := shiftToTargetExponent .binary64 m e a
  let second := shiftToTargetExponent .binary64 first.1.roundedMantissa first.2 .exact
  show UnpackedFloat.isNaN (if h : second.1.mantissa = 0 then .zero s
    else .finite s second.1.mantissa second.2 (Nat.pos_of_ne_zero h)) = false
  by_cases hzero : second.1.mantissa = 0
  · rw [dif_pos hzero]
    rfl
  · rw [dif_neg hzero]
    rfl

theorem isNaN_mul_finite {u : UnpackedFloat} (h : u.isNaN = false) (s : Sign) (m : Nat) (e : Int)
    (hm : 0 < m) : (UnpackedFloat.mul .binary64 u (.finite s m e hm)).isNaN = false := by
  cases u with
  | notANumber => cases h
  | infinity t => rfl
  | zero t => rfl
  | finite t n f hn => exact isNaN_roundWithAccuracy ..

theorem isNaN_div_finite {u : UnpackedFloat} (h : u.isNaN = false) (s : Sign) (m : Nat) (e : Int)
    (hm : 0 < m) : (UnpackedFloat.div .binary64 u (.finite s m e hm)).isNaN = false := by
  cases u with
  | notANumber => cases h
  | infinity t => rfl
  | zero t => rfl
  | finite t n f hn => exact isNaN_roundWithAccuracy ..

theorem isNaN_ite {c : Prop} [Decidable c] {u v : UnpackedFloat} (hu : u.isNaN = false)
    (hv : v.isNaN = false) : (if c then u else v).isNaN = false := by
  split
  · exact hu
  · exact hv

theorem isNaN_ofScientific_model (m : Nat) (e : Int) :
    (UnpackedFloat.ofScientific .binary64 m e).isNaN = false := by
  unfold UnpackedFloat.ofScientific
  by_cases h0 : m = 0
  · rw [dif_pos h0]
    rfl
  · rw [dif_neg h0]
    exact isNaN_ite rfl <| isNaN_ite rfl <|
      isNaN_ite (isNaN_mul_finite rfl ..) (isNaN_div_finite rfl ..)

theorem isNaN_ofNat (n : Nat) : (UnpackedFloat.ofNat .binary64 n).isNaN = false := by
  unfold UnpackedFloat.ofNat UnpackedFloat.ofInt UnpackedFloat.normalize
  split
  · exact isNaN_roundWithAccuracy ..
  · rfl
  · exact isNaN_roundWithAccuracy ..

/-- The tabled powers of ten are finite and not zero. -/
theorem unpack_power (e : Nat) (he : e < Float.exactlyRepresentablePowersOfTen.size) :
    ∃ s m k hm, (Float.exactlyRepresentablePowersOfTen[e]).toModel.unpack = .finite s m k hm := by
  have hall : (Float.exactlyRepresentablePowersOfTen.all fun x =>
      x.toModel.unpack matches .finite ..) = true := by decide +kernel
  have he' := Array.all_eq_true.mp hall e he
  cases hu : (Float.exactlyRepresentablePowersOfTen[e]).toModel.unpack with
  | finite s m k hm => exact ⟨s, m, k, hm, rfl⟩
  | zero s => rw [hu] at he'; cases he'
  | infinity s => rw [hu] at he'; cases he'
  | notANumber => rw [hu] at he'; cases he'

/-- A product of a number and a power of ten is a number. -/
theorem isNaN_ofScientific (m : Nat) (s : Bool) (e : Nat) :
    (Float.ofScientific m s e).isNaN = false := by
  unfold Float.ofScientific
  split
  · next h =>
    have hsize : Float.exactlyRepresentablePowersOfTen.size = 23 := rfl
    obtain ⟨t, p, k, hp, hpower⟩ := unpack_power e (by omega)
    have hm : m.toUInt64.toFloat.toModel.unpack.isNaN = false := isNaN_unpack_pack (isNaN_ofNat _)
    cases s with
    | true =>
      refine isNaN_unpack_pack ?_
      rw [hpower]
      exact isNaN_div_finite hm ..
    | false =>
      refine isNaN_unpack_pack ?_
      rw [hpower]
      exact isNaN_mul_finite hm ..
  · exact isNaN_unpack_pack (isNaN_ofScientific_model ..)

theorem isFinite_of_not {x : Float} (hnan : x.isNaN = false) (hinf : x.isInf = false) :
    x.isFinite = true := by
  show x.toModel.unpack.isFinite = true
  have hnan' : x.toModel.unpack.isNaN = false := hnan
  have hinf' : x.toModel.unpack.isInf = false := hinf
  cases hu : x.toModel.unpack with
  | notANumber => rw [hu] at hnan'; cases hnan'
  | infinity s => rw [hu] at hinf'; cases hinf'
  | zero s => rfl
  | finite s m e hm => rfl

/-- **What a decimal fraction stands for is finite.** -/
theorem isFinite_of_toFloat? {negative : Bool} {digits : List Char} {exponent : Int} {x : Float}
    (h : Decimal.toFloat? negative digits exponent = some x) : x.isFinite = true := by
  unfold Decimal.toFloat? at h
  simp only at h
  split at h
  · obtain rfl := Option.some.inj h
    cases negative with
    | true => exact isFinite_neg isFinite_zero
    | false => exact isFinite_zero
  split at h
  · cases h
  split at h
  · cases h
  · next hinf =>
    have hsize := isFinite_of_not (isNaN_ofScientific ..) (Bool.eq_false_iff.mpr hinf)
    obtain rfl := Option.some.inj h
    cases negative with
    | true => exact isFinite_neg hsize
    | false => exact hsize

end Double
end FleetTelemetry

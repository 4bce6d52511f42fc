/-
# Digits

Numbers as runs of digit characters: the value of a run in a base, the
decimal run of a number, zero padding, and the two integer spellings that
several formats share (a run of digits, with or without a sign in front). A run
of digits and a power of ten stand for the double that is nearest to their
product; a number beyond all doubles stands for none.

Key definitions: `Digits.value?`, `Digits.decimal`, `Digits.padded`,
`Digits.nat?`, `Digits.int?`, `Decimal.toFloat?`.
Key theorems: `Digits.valueFrom?_append`, `Digits.valueFrom?_decimal`.
-/
namespace FleetTelemetry
namespace Digits

/-- What a digit character stands for: `0`-`9`, then `a`-`z` in either case. -/
def digit? (c : Char) : Option Nat :=
  if '0' ≤ c ∧ c ≤ '9' then some (c.toNat - '0'.toNat)
  else if 'a' ≤ c ∧ c ≤ 'z' then some (c.toNat - 'a'.toNat + 10)
  else if 'A' ≤ c ∧ c ≤ 'Z' then some (c.toNat - 'A'.toNat + 10)
  else none

/-- The digit a character stands for in `base`. -/
def digitIn? (base : Nat) (c : Char) : Option Nat :=
  (digit? c).filter (· < base)

/-- Whether a character is one of `0` to `9`. -/
def isDecimal (c : Char) : Bool :=
  '0' ≤ c && c ≤ '9'

/-- Reads on from `acc`, one digit of `base` at a time. -/
def valueFrom? (base : Nat) : Nat → List Char → Option Nat
  | acc, [] => some acc
  | acc, c :: cs => (digitIn? base c).bind fun d => valueFrom? base (acc * base + d) cs

/-- The number a non-empty run of digits stands for. -/
def value? (base : Nat) : List Char → Option Nat
  | [] => none
  | c :: cs => valueFrom? base 0 (c :: cs)

/-- The character of a decimal digit. -/
def digitChar (d : Nat) : Char :=
  Char.ofNat ('0'.toNat + d % 10)

/-- The shortest decimal run of a number. -/
def decimal (n : Nat) : List Char :=
  if n < 10 then [digitChar n] else decimal (n / 10) ++ [digitChar n]

theorem decimal_ne_nil (n : Nat) : decimal n ≠ [] := by
  rw [decimal]
  split <;> simp

theorem digitIn?_digitChar {d : Nat} (h : d < 10) : digitIn? 10 (digitChar d) = some d := by
  match d, h with
  | 0, _ | 1, _ | 2, _ | 3, _ | 4, _ | 5, _ | 6, _ | 7, _ | 8, _ | 9, _ => rfl

theorem valueFrom?_append (base : Nat) (ds es : List Char) : ∀ acc : Nat,
    valueFrom? base acc (ds ++ es) =
      (valueFrom? base acc ds).bind fun n => valueFrom? base n es := by
  induction ds with
  | nil => intro acc; rfl
  | cons d ds ih =>
    intro acc
    simp only [List.cons_append, valueFrom?]
    cases digitIn? base d with
    | none => rfl
    | some v => exact ih _

/-- The decimal run of a number stands for it. -/
theorem valueFrom?_decimal (n : Nat) : valueFrom? 10 0 (decimal n) = some n := by
  induction n using Nat.strongRecOn with
  | ind n ih =>
    rw [decimal]
    split
    · next h => simp [valueFrom?, digitIn?_digitChar h]
    · next h =>
      have hd : digitChar n = digitChar (n % 10) := by simp [digitChar]
      have hm : n % 10 < 10 := Nat.mod_lt n (by decide)
      rw [valueFrom?_append, ih (n / 10) (by omega), hd]
      simp only [valueFrom?, digitIn?_digitChar hm, Option.bind_some]
      congr 1
      omega

/-- The decimal run of a number, with zeros in front up to `width` digits. -/
def padded (width n : Nat) : List Char :=
  List.replicate (width - (decimal n).length) '0' ++ decimal n

/-- An integer in at least `width` characters, zeros between the sign and the digits. -/
def paddedInt (width : Nat) : Int → List Char
  | .ofNat n => padded width n
  | .negSucc n => '-' :: padded (width - 1) (n + 1)

/-- A decimal run with an optional `+` in front. -/
def nat? : List Char → Option Nat
  | '+' :: cs => value? 10 cs
  | cs => value? 10 cs

/-- A decimal run with an optional sign in front. -/
def int? : List Char → Option Int
  | '-' :: cs => (value? 10 cs).map fun n => -Int.ofNat n
  | cs => (nat? cs).map Int.ofNat

end Digits

/-! ### Fractions -/

namespace Decimal

/-- The double nearest to `digits * 10 ^ exponent`, with its sign. Numbers that are too small by far
are zero before their power of ten is reckoned. -/
def toFloat? (negative : Bool) (digits : List Char) (exponent : Int) : Option Float :=
  let significant := digits.dropWhile (· == '0')
  let m := (Digits.value? 10 significant).getD 0
  let magnitude : Int := significant.length + exponent
  if m = 0 ∨ magnitude < -400 then some (if negative then -0.0 else 0.0)
  else if magnitude > 400 then none
  else
    let size := Float.ofScientific m (exponent < 0) exponent.natAbs
    if size.isInf then none else some (if negative then -size else size)

end Decimal
end FleetTelemetry

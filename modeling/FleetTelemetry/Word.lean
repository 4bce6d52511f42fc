/-
# Words

Counters have 64 bits. A sum of them is held at the greatest counter, or is
not to be had, where it needs more. Instants and other integers that come from
outside lie between the least and the greatest signed word.

Key definitions: `Word.size64`, `Word.minSigned64`, `Word.maxSigned64`,
`Word.saturatingSum`, `Word.checkedSum?`, `Word.meanFloor`.
Key theorems: `Word.toNat_saturatingAdd`, `Word.toNat_saturatingSum`,
`Word.min_exactSum_flatMap`.
-/
namespace FleetTelemetry
namespace Word

/-- The number of words of 16 bits. -/
def size16 : Nat := 0x10000

/-- The number of words of 32 bits. -/
def size32 : Nat := 0x100000000

/-- The number of words of 64 bits. -/
def size64 : Nat := 0x10000000000000000

/-- The least signed word of 64 bits. -/
def minSigned64 : Int := -0x8000000000000000

/-- The greatest signed word of 64 bits. -/
def maxSigned64 : Int := 0x7fffffffffffffff

/-- The sum of two counters, held at the greatest counter. -/
def saturatingAdd (a b : UInt64) : UInt64 :=
  if a.toNat + b.toNat < size64 then a + b else UInt64.ofNat (size64 - 1)

/-- The sum of counters, held at the greatest counter. -/
def saturatingSum (xs : List UInt64) : UInt64 :=
  xs.foldl saturatingAdd 0

/-- The exact sum of counters. -/
def exactSum : List UInt64 → Nat
  | [] => 0
  | x :: xs => x.toNat + exactSum xs

theorem toNat_saturatingAdd (a b : UInt64) :
    (saturatingAdd a b).toNat = Nat.min (a.toNat + b.toNat) (size64 - 1) := by
  unfold saturatingAdd
  split
  · next h =>
    rw [UInt64.toNat_add]
    exact (Nat.mod_eq_of_lt h).trans (Nat.min_eq_left (by omega)).symm
  · next h =>
    have : (UInt64.ofNat (size64 - 1)).toNat = size64 - 1 := rfl
    rw [this]
    exact (Nat.min_eq_right (by omega)).symm

/-- A held sum is the exact one, or the greatest counter. -/
theorem toNat_saturatingSum (xs : List UInt64) :
    (saturatingSum xs).toNat = Nat.min (exactSum xs) (size64 - 1) := by
  suffices h : ∀ a : UInt64,
      (xs.foldl saturatingAdd a).toNat = Nat.min (a.toNat + exactSum xs) (size64 - 1) by
    have := h 0
    simpa [saturatingSum] using this
  induction xs with
  | nil =>
    intro a
    have := a.toNat_lt
    simp only [List.foldl_nil, exactSum, Nat.add_zero]
    exact (Nat.min_eq_left (by simp only [size64]; omega)).symm
  | cons x xs ih =>
    intro a
    rw [List.foldl_cons, ih, toNat_saturatingAdd]
    simp only [exactSum, Nat.min_def]
    split <;> split <;> split <;> omega

theorem exactSum_append (xs ys : List UInt64) :
    exactSum (xs ++ ys) = exactSum xs + exactSum ys := by
  induction xs with
  | nil => rw [List.nil_append, exactSum, Nat.zero_add]
  | cons x xs ih => rw [List.cons_append, exactSum, exactSum, ih, Nat.add_assoc]

/-- Sums that are held in parts and then again are held once. -/
theorem min_exactSum_flatMap {ι : Type} {total : ι → UInt64} {parts : ι → List UInt64} :
    ∀ {is : List ι}, (∀ i ∈ is, (total i).toNat = min (exactSum (parts i)) (size64 - 1)) →
      min (exactSum (is.map total)) (size64 - 1) = min (exactSum (is.flatMap parts)) (size64 - 1)
  | [], _ => rfl
  | i :: is, h => by
    have hi := h i List.mem_cons_self
    have ih := min_exactSum_flatMap fun j hj => h j (List.mem_cons_of_mem i hj)
    rw [List.map_cons, exactSum, List.flatMap_cons, exactSum_append, hi]
    -- a part that is held fills the sum by itself, whatever the others add
    omega

/-- The sum of counters, if a counter can hold it. -/
def checkedSum? (xs : List UInt64) : Option UInt64 :=
  if exactSum xs < size64 then some (UInt64.ofNat (exactSum xs)) else none

/-- The floor of the mean of some counters. -/
def meanFloor (xs : List UInt64) : UInt64 :=
  UInt64.ofNat (exactSum xs / Nat.max xs.length 1)

end Word
end FleetTelemetry

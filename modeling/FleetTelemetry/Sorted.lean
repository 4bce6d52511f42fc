/-
# Sorted lists

The distinct elements of a list in ascending order, and a list in the order of a
key, in which elements of one key keep the order that they had. Both are built by
inserting one element after the other.

Key definitions: `Ascending.insert`, `Ascending.ofList`, `StableOrder.insert`,
`StableOrder.sort`.
Key theorems: `Ascending.mem_ofList`, `StableOrder.mem_sort`,
`StableOrder.pairwise_sort`, `StableOrder.filter_key_sort`.
-/
namespace FleetTelemetry

/-! ### Ascending lists -/

namespace Ascending

variable {α : Type} [LT α] [DecidableLT α] [DecidableEq α]

/-- Puts an element into its place, unless it is there already. -/
def insert (a : α) : List α → List α
  | [] => [a]
  | b :: bs => if a = b then b :: bs else if a < b then a :: b :: bs else b :: insert a bs

/-- The distinct elements, ascending. -/
def ofList (as : List α) : List α := as.foldl (fun sorted a => insert a sorted) []

theorem mem_insert {a b : α} {bs : List α} : b ∈ insert a bs ↔ b = a ∨ b ∈ bs := by
  induction bs with
  | nil => simp [insert]
  | cons c cs ih =>
    unfold insert
    split
    · next h => subst h; simp
    · split
      · simp
      · simp only [List.mem_cons, ih]
        exact or_left_comm

private theorem mem_foldl_insert {b : α} {as : List α} {sorted : List α} :
    b ∈ as.foldl (fun sorted a => insert a sorted) sorted ↔ b ∈ sorted ∨ b ∈ as := by
  induction as generalizing sorted with
  | nil => simp
  | cons a as ih =>
    simp only [List.foldl_cons, ih, mem_insert, List.mem_cons, or_assoc, or_left_comm]

theorem mem_ofList {b : α} {as : List α} : b ∈ ofList as ↔ b ∈ as := by
  simp [ofList, mem_foldl_insert]

end Ascending

/-! ### Stable order -/

namespace StableOrder

variable {β : Type} (f : β → Int)

/-- Puts an element before the first that is not less. -/
def insert (b : β) : List β → List β
  | [] => [b]
  | c :: cs => if f b ≤ f c then b :: c :: cs else c :: insert b cs

/-- A list in the order of a key; elements of one key keep their order. -/
def sort (l : List β) : List β := l.foldr (insert f) []

variable {f}

theorem mem_insert {a b : β} : ∀ {l : List β}, a ∈ insert f b l ↔ a = b ∨ a ∈ l
  | [] => by simp [insert]
  | c :: cs => by
    unfold insert
    split
    · exact List.mem_cons
    · simp only [List.mem_cons, mem_insert, or_left_comm]

theorem mem_sort {b : β} {l : List β} : b ∈ sort f l ↔ b ∈ l := by
  induction l with
  | nil => exact Iff.rfl
  | cons a l ih =>
    rw [List.mem_cons, ← ih]
    exact mem_insert

theorem pairwise_insert (b : β) : ∀ {l : List β}, (l.Pairwise fun a b => f a ≤ f b) →
    (insert f b l).Pairwise fun a b => f a ≤ f b
  | [], _ => List.pairwise_singleton _ _
  | c :: cs, h => by
    obtain ⟨hc, hcs⟩ := List.pairwise_cons.mp h
    unfold insert
    split
    · next hle =>
      refine List.pairwise_cons.mpr ⟨fun a ha => ?_, h⟩
      rcases List.mem_cons.mp ha with rfl | ha
      · exact hle
      · exact Int.le_trans hle (hc a ha)
    · next hlt =>
      refine List.pairwise_cons.mpr ⟨fun a ha => ?_, pairwise_insert b hcs⟩
      rcases mem_insert.mp ha with rfl | ha
      · omega
      · exact hc a ha

theorem pairwise_sort (l : List β) : (sort f l).Pairwise fun a b => f a ≤ f b := by
  induction l with
  | nil => exact .nil
  | cons a l ih => exact pairwise_insert a ih

/-- An element comes before those of its key. -/
theorem filter_key_insert (b : β) (t : Int) : ∀ l : List β,
    (insert f b l).filter (fun a => f a == t) = (b :: l).filter fun a => f a == t
  | [] => rfl
  | c :: cs => by
    unfold insert
    split
    · rfl
    · next hlt =>
      rw [List.filter_cons, filter_key_insert b t cs]
      simp only [List.filter_cons, beq_iff_eq]
      by_cases hb : f b = t
      · have hc : ¬ f c = t := by omega
        simp only [if_neg hc]
      · simp only [if_neg hb]

/-- Elements of one key keep their order. -/
theorem filter_key_sort (l : List β) (t : Int) :
    (sort f l).filter (fun b => f b == t) = l.filter fun b => f b == t := by
  induction l with
  | nil => rfl
  | cons a l ih =>
    refine (filter_key_insert a t (sort f l)).trans ?_
    rw [List.filter_cons, ih, List.filter_cons]

end StableOrder
end FleetTelemetry

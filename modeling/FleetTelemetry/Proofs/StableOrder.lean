/-
# What determines the stable order

A list in the order of a key, in which elements of one key keep their order, is
determined by that: it is ascending, and for every key it has the same elements
one after the other as the list it comes from (`StableOrder.eq_sort`). So blocks
of a list that lie one before the other can be sorted on their own and put
together (`StableOrder.flatMap_sort_of_forall`).

Key theorems: `StableOrder.eq_sort`, `StableOrder.sort_congr`,
`StableOrder.pairwise_sort_strict`, `StableOrder.flatMap_sort_of_forall`,
`Ascending.pairwise_ofList`.
-/
import FleetTelemetry.Store.Query
import Mathlib.Data.List.Basic

namespace FleetTelemetry
namespace StableOrder

variable {β κ : Type} {f : β → Int}

theorem eq_of_filter_key : ∀ {l₁ l₂ : List β}, (l₁.Pairwise fun a b => f a ≤ f b) →
    (l₂.Pairwise fun a b => f a ≤ f b) →
    (∀ t, l₁.filter (fun b => f b == t) = l₂.filter fun b => f b == t) → l₁ = l₂
  | [], l₂, _, _, h => by
    refine (List.eq_nil_iff_forall_not_mem.mpr fun b hb => ?_).symm
    have : b ∈ l₂.filter fun c => f c == f b := List.mem_filter.mpr ⟨hb, by simp⟩
    rw [← h] at this
    cases this
  | a :: l₁, l₂, h₁, h₂, h => by
    have hmem : ∀ b, b ∈ a :: l₁ ↔ b ∈ l₂ := fun b => by
      have := h (f b)
      have hb : b ∈ (a :: l₁).filter (fun c => f c == f b) ↔
          b ∈ l₂.filter fun c => f c == f b := by rw [this]
      simpa [List.mem_filter] using hb
    cases l₂ with
    | nil => exact absurd ((hmem a).mp List.mem_cons_self) List.not_mem_nil
    | cons b l₂ =>
      obtain ⟨ha, hp₁⟩ := List.pairwise_cons.mp h₁
      obtain ⟨hb, hp₂⟩ := List.pairwise_cons.mp h₂
      -- the heads have the least key of all, so they are the first of one key
      have hab : f a = f b := by
        have h₃ : f b ≤ f a := by
          rcases List.mem_cons.mp ((hmem a).mp List.mem_cons_self) with rfl | hm
          · exact Int.le_refl _
          · exact hb a hm
        have h₄ : f a ≤ f b := by
          rcases List.mem_cons.mp ((hmem b).mpr List.mem_cons_self) with rfl | hm
          · exact Int.le_refl _
          · exact ha b hm
        omega
      have hhead := h (f a)
      simp only [List.filter_cons, beq_self_eq_true, if_true, ← hab, List.cons.injEq] at hhead
      obtain ⟨rfl, -⟩ := hhead
      refine congrArg (a :: ·) (eq_of_filter_key hp₁ hp₂ fun t => ?_)
      have := h t
      simp only [List.filter_cons] at this
      split at this
      · exact (List.cons.inj this).2
      · exact this

/-- **The stable order is determined** by being ascending and by the elements under each key. -/
theorem eq_sort {l l' : List β} (hp : l'.Pairwise fun a b => f a ≤ f b)
    (h : ∀ t, l'.filter (fun b => f b == t) = l.filter fun b => f b == t) : l' = sort f l :=
  eq_of_filter_key hp (pairwise_sort l) fun t => by rw [h, filter_key_sort]

theorem sort_congr {l l' : List β}
    (h : ∀ t, l.filter (fun b => f b == t) = l'.filter fun b => f b == t) : sort f l = sort f l' :=
  eq_sort (pairwise_sort l) fun t => by rw [filter_key_sort, h]

theorem sort_eq_self {l : List β} (h : l.Pairwise fun a b => f a ≤ f b) : sort f l = l :=
  (eq_sort h fun _ => rfl).symm

theorem pairwise_sort_strict {l : List β} (h : ∀ t, (l.filter fun b => f b == t).length ≤ 1) :
    (sort f l).Pairwise fun a b => f a < f b := by
  suffices hs : ∀ {s : List β}, (s.Pairwise fun a b => f a ≤ f b) →
      (∀ t, (s.filter fun b => f b == t).length ≤ 1) → s.Pairwise fun a b => f a < f b from
    hs (pairwise_sort l) fun t => by rw [filter_key_sort]; exact h t
  intro s
  induction s with
  | nil => exact fun _ _ => .nil
  | cons a s ih =>
    intro hp hone
    obtain ⟨ha, hp⟩ := List.pairwise_cons.mp hp
    refine List.pairwise_cons.mpr ⟨fun b hb => ?_, ih hp fun t => ?_⟩
    · refine Int.lt_iff_le_and_ne.mpr ⟨ha b hb, fun hab => ?_⟩
      -- both would be under one key
      have htwo := hone (f a)
      rw [List.filter_cons_of_pos (by simp), List.length_cons] at htwo
      have hpos := List.length_pos_of_mem
        (List.mem_filter.mpr ⟨hb, beq_iff_eq.mpr hab.symm⟩ : b ∈ s.filter fun c => f c == f a)
      omega
    · exact Nat.le_trans ((List.sublist_cons_self a s).filter _).length_le (hone t)

theorem filter_sort (p : β → Bool) (l : List β) : (sort f l).filter p = sort f (l.filter p) :=
  eq_sort ((pairwise_sort l).filter p) fun t => by
    rw [List.filter_comm, filter_key_sort, List.filter_comm]

/-! ### Blocks -/

/-- Elements with `p` lie before those with `q`, so that they can be sorted on their own. -/
theorem sort_append {p q : β → Bool} (h : ∀ a b, p a = true → q b = true → f a < f b)
    (l : List β) :
    sort f (l.filter p) ++ sort f (l.filter q) = sort f (l.filter fun b => p b || q b) := by
  refine eq_sort (List.pairwise_append.mpr ⟨pairwise_sort _, pairwise_sort _, ?_⟩) fun t => ?_
  · intro a ha b hb
    have := h a b (List.mem_filter.mp (mem_sort.mp ha)).2 (List.mem_filter.mp (mem_sort.mp hb)).2
    omega
  · rw [List.filter_append, filter_key_sort, filter_key_sort]
    simp only [List.filter_filter]
    -- of one key, there are elements with `p` or elements with `q` alone
    by_cases hp : ∃ a, p a = true ∧ f a = t
    · obtain ⟨a, ha, rfl⟩ := hp
      have hq : ∀ b, (f b == f a && q b) = false := fun b => by
        cases hb : q b with
        | false => simp
        | true =>
          have := h a b ha hb
          simp only [Bool.and_true, beq_eq_false_iff_ne]
          omega
      simp only [hq, List.filter_false, List.append_nil, Bool.and_or_distrib_left, Bool.or_false]
    · have hp' : ∀ b, (f b == t && p b) = false := fun b => by
        cases hb : p b with
        | false => simp
        | true =>
          have : f b ≠ t := fun ht => hp ⟨b, hb, ht⟩
          simpa using this
      simp only [hp', List.filter_false, List.nil_append, Bool.and_or_distrib_left, Bool.false_or]

/-- **Blocks that lie one before the other are sorted on their own.** -/
theorem flatMap_sort (p : κ → β → Bool) (l : List β) : ∀ ks : List κ,
    (ks.Pairwise fun k k' => ∀ a b, p k a = true → p k' b = true → f a < f b) →
    (ks.flatMap fun k => sort f (l.filter (p k))) = sort f (l.filter fun b => ks.any fun k => p k b)
  | [], _ => by simp [sort]
  | k :: ks, h => by
    obtain ⟨hk, hks⟩ := List.pairwise_cons.mp h
    rw [List.flatMap_cons, flatMap_sort p l ks hks, sort_append]
    · simp only [List.any_cons]
    · intro a b ha hb
      obtain ⟨k', hk', hb⟩ := List.any_eq_true.mp hb
      exact hk k' hk' a b ha hb

theorem flatMap_sort_of_forall {p : κ → β → Bool} {l : List β} {ks : List κ}
    (h : ks.Pairwise fun k k' => ∀ a b, p k a = true → p k' b = true → f a < f b)
    (hall : ∀ b ∈ l, ∃ k ∈ ks, p k b = true) :
    (ks.flatMap fun k => sort f (l.filter (p k))) = sort f l := by
  rw [flatMap_sort p l ks h, List.filter_eq_self.mpr fun b hb => List.any_eq_true.mpr (hall b hb)]

/-- It does not matter whether such blocks are put together before or after they are sorted. -/
theorem sort_flatMap {p : κ → β → Bool} {l : List β} {ks : List κ}
    (h : ks.Pairwise fun k k' => ∀ a b, p k a = true → p k' b = true → f a < f b)
    (hall : ∀ b ∈ l, ∃ k ∈ ks, p k b = true) :
    sort f (ks.flatMap fun k => l.filter (p k)) = sort f l := by
  refine sort_congr fun t => ?_
  rw [← filter_key_sort l, ← flatMap_sort_of_forall h hall, List.filter_flatMap,
    List.filter_flatMap]
  refine List.flatMap_congr fun k _ => ?_
  rw [filter_key_sort]

end StableOrder

/-! ### Ascending lists are ascending -/

namespace Ascending

variable {α : Type} [LT α] [DecidableLT α] [DecidableEq α]
  (trans : ∀ a b c : α, a < b → b < c → a < c) (total : ∀ a b : α, a < b ∨ a = b ∨ b < a)
include trans total

theorem pairwise_insert (a : α) : ∀ bs : List α, bs.Pairwise (· < ·) →
    (insert a bs).Pairwise (· < ·)
  | [], _ => List.pairwise_singleton _ _
  | b :: bs, h => by
    obtain ⟨hb, hbs⟩ := List.pairwise_cons.mp h
    unfold insert
    split
    · exact h
    · split
      · next hne hlt =>
        refine List.pairwise_cons.mpr ⟨fun c hc => ?_, h⟩
        rcases List.mem_cons.mp hc with rfl | hc
        · exact hlt
        · exact trans _ _ _ hlt (hb c hc)
      · next hne hnlt =>
        refine List.pairwise_cons.mpr ⟨fun c hc => ?_, pairwise_insert a bs hbs⟩
        rcases mem_insert.mp hc with rfl | hc
        · exact ((total c b).resolve_left hnlt).resolve_left hne
        · exact hb c hc

theorem pairwise_ofList (as : List α) : (ofList as).Pairwise (· < ·) := by
  suffices h : ∀ sorted : List α, sorted.Pairwise (· < ·) →
      (as.foldl (fun sorted a => insert a sorted) sorted).Pairwise (· < ·) from h [] .nil
  induction as with
  | nil => exact fun _ h => h
  | cons a as ih => exact fun sorted h => ih _ (pairwise_insert trans total a sorted h)

end Ascending
end FleetTelemetry

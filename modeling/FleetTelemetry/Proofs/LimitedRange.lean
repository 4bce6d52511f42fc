/-
# A limit holds for each month on its own

A range query reads one month after the other, and its limit holds for each of
them. As the order of the months is that of their rows, the answer is the
unlimited one cut month by month (`Store.Holds.range_cutByMonth`). To cut rows
that ascend leaves out some of them and changes no order; a month keeps its
first rows (`Store.filter_cutByMonth`), and so does the whole, since what a
month loses is more than the limit away from the start
(`Store.take_flatMap_take`).

Key definitions: `Store.cutByMonth`.
Key theorems: `Store.flatMap_belongs`, `Store.filter_cutByMonth`,
`Store.take_cutByMonth`, `Store.cutByMonth_eq_self_iff`, `Store.range_limit`.
-/
import FleetTelemetry.Proofs.FlatList
import Mathlib.Data.List.Flatten
import Mathlib.Data.List.TakeDrop

namespace FleetTelemetry
namespace Store

variable {α : Type}

/-- Some rows month by month, the first `limit` of each. -/
def cutByMonth (limit : Nat) (rows : List (Record α)) : List (Record α) :=
  (monthsOf rows).flatMap fun m => (rows.filter (belongs m)).take limit

/-! ### The months of some rows -/

theorem monthsOf_inOrder (rows : List (Record α)) :
    monthsOf (Record.inOrder rows) = monthsOf rows := by
  refine (monthsOf_ascending _).eq_of_mem_iff (monthsOf_ascending _) fun m => ?_
  simp only [mem_monthsOf, Record.inOrder, StableOrder.mem_sort]

/-- Rows of a month are found in its block alone, if every block has rows of its month only. -/
theorem filter_flatMap_belongs {block : Month → List (Record α)} {ms : List Month}
    (hms : ms.Pairwise (· < ·)) (hblock : ∀ m, ∀ r ∈ block m, belongs m r = true) {m : Month}
    (hm : block m ≠ [] → m ∈ ms) : (ms.flatMap block).filter (belongs m) = block m := by
  have hself : (block m).filter (belongs m) = block m := List.filter_eq_self.mpr (hblock m)
  have hother : ∀ n, (block n).filter (belongs m) ≠ [] → n = m := by
    intro n hne
    obtain ⟨r, hr⟩ := List.exists_mem_of_ne_nil _ hne
    obtain ⟨hr, hb⟩ := List.mem_filter.mp hr
    exact belongs_unique (hblock n r hr) hb
  calc (ms.flatMap block).filter (belongs m)
      = ms.flatMap fun n => (block n).filter (belongs m) := List.filter_flatMap
    _ = [m].flatMap fun n => (block n).filter (belongs m) := by
        refine flatMap_months hms (List.pairwise_singleton _ m) fun n hne => ?_
        obtain rfl := hother n hne
        rw [hself] at hne
        exact iff_of_true (hm hne) List.mem_cons_self
    _ = block m := by rw [List.flatMap_singleton, hself]

/-! ### Rows that ascend, cut month by month -/

/-- The first `n` elements of some blocks are those of the blocks cut down to `n` elements each. -/
theorem take_flatMap_take {β κ : Type} (n : Nat) (block : κ → List β) : ∀ ks : List κ,
    (ks.flatMap fun k => (block k).take n).take n = (ks.flatMap block).take n
  | [] => rfl
  | k :: ks => by
    have ih := take_flatMap_take n block ks
    rw [List.flatMap_cons, List.flatMap_cons, List.take_append, List.take_append, List.take_take,
      Nat.min_self, List.length_take]
    rcases Nat.le_total n (block k).length with h | h
    · -- the first block has all of them
      rw [Nat.min_eq_left h, Nat.sub_self, Nat.sub_eq_zero_of_le h, List.take_zero,
        List.take_zero]
    · -- the first block is not cut, and of the others no more than `n` are wanted
      have hrest := congrArg (List.take (n - (block k).length)) ih
      rw [List.take_take, List.take_take, Nat.min_eq_left (Nat.sub_le n _)] at hrest
      rw [Nat.min_eq_right h, hrest]

theorem filter_cutByMonth (limit : Nat) (rows : List (Record α)) (m : Month) :
    (cutByMonth limit rows).filter (belongs m) = (rows.filter (belongs m)).take limit := by
  refine filter_flatMap_belongs (monthsOf_ascending rows) (fun n r hr => ?_) fun hne => ?_
  · exact (List.mem_filter.mp (List.mem_of_mem_take hr)).2
  · obtain ⟨r, hr⟩ := List.exists_mem_of_ne_nil _ hne
    obtain ⟨hr, hb⟩ := List.mem_filter.mp (List.mem_of_mem_take hr)
    exact mem_monthsOf.mpr ⟨r, hr, hb⟩

section Ascending

variable {rows : List (Record α)} (hp : rows.Pairwise fun a b => a.timestamp ≤ b.timestamp)
  (hmonth : ∀ r ∈ rows, ∃ m, belongs m r = true)
include hp hmonth

theorem flatMap_belongs : ((monthsOf rows).flatMap fun m => rows.filter (belongs m)) = rows := by
  calc ((monthsOf rows).flatMap fun m => rows.filter (belongs m))
      = (monthsOf rows).flatMap fun m => Record.inOrder (rows.filter (belongs m)) :=
        List.flatMap_congr fun m _ => (StableOrder.sort_eq_self (hp.filter _)).symm
    _ = Record.inOrder rows := by
        refine StableOrder.flatMap_sort_of_forall
          ((monthsOf_ascending rows).imp fun hlt a b => belongs_lt hlt) fun r hr => ?_
        obtain ⟨m, hb⟩ := hmonth r hr
        exact ⟨m, mem_monthsOf.mpr ⟨r, hr, hb⟩, hb⟩
    _ = rows := StableOrder.sort_eq_self hp

theorem cutByMonth_sublist (limit : Nat) : (cutByMonth limit rows).Sublist rows := by
  have h := List.Sublist.flatMap_right (monthsOf rows) fun m _ =>
    List.take_sublist limit (rows.filter (belongs m))
  rwa [flatMap_belongs hp hmonth] at h

theorem take_cutByMonth (limit : Nat) : (cutByMonth limit rows).take limit = rows.take limit := by
  have h := take_flatMap_take limit (fun m => rows.filter (belongs m)) (monthsOf rows)
  rwa [flatMap_belongs hp hmonth] at h

theorem cutByMonth_eq_self_iff (limit : Nat) :
    cutByMonth limit rows = rows ↔ ∀ m, (rows.filter (belongs m)).length ≤ limit := by
  constructor
  · intro h m
    have hm := filter_cutByMonth limit rows m
    rw [h] at hm
    exact (List.take_eq_self_iff _).mp hm.symm
  · intro h
    calc cutByMonth limit rows
        = (monthsOf rows).flatMap fun m => rows.filter (belongs m) :=
          List.flatMap_congr fun m _ => List.take_of_length_le (h m)
      _ = rows := flatMap_belongs hp hmonth

end Ascending

/-! ### Queries -/

theorem Holds.range_cutByMonth {s : Store α} {rows : List (Record α)} (h : s.Holds rows)
    (agentId : String) (first last : Int) {limit : Nat} (hlimit : 0 < limit) :
    s.range agentId first last limit = cutByMonth limit (s.range agentId first last 0) := by
  have hall : s.range agentId first last 0 = Record.inOrder (wanted agentId first last rows) :=
    h.range agentId first last
  rw [h.range_limited, hall, cutByMonth, monthsOf_inOrder]
  refine List.flatMap_congr fun m _ => ?_
  rw [limited, if_neg (Nat.ne_of_gt hlimit), Record.inOrder, Record.inOrder,
    StableOrder.filter_sort]

variable [Gauge α]

/-- **The limit of a query holds for each month on its own.** After any run of a store that is empty
at first and accepts rows of four-digit years only, a query with a limit answers, of every month,
the first rows of the unlimited answer up to the limit. So it leaves out some rows of that answer
and ascends; it has no more rows of a month than the limit and begins with the same rows, up to the
limit; and it is the unlimited answer exactly if that has no more rows of any month. -/
theorem range_limit (ops : List (Operation α))
    (hy : ∀ r ∈ ({} : Store α).acceptedIn ops, Month.FourDigitYear r.timestamp)
    (agentId : String) (first last : Int) {limit : Nat} (hlimit : 0 < limit) :
    let s := ({} : Store α).run ops
    let all := s.range agentId first last 0
    let cut := s.range agentId first last limit
    cut = cutByMonth limit all ∧
    cut.Sublist all ∧
    (cut.Pairwise fun a b => a.timestamp ≤ b.timestamp) ∧
    (∀ m, cut.filter (belongs m) = (all.filter (belongs m)).take limit ∧
      (cut.filter (belongs m)).length ≤ limit) ∧
    cut.take limit = all.take limit ∧
    (cut = all ↔ ∀ m, (all.filter (belongs m)).length ≤ limit) := by
  intro s all cut
  have h : s.Holds (({} : Store α).kept ops) := holds_empty.run ops hy
  have hcut : cut = cutByMonth limit all := h.range_cutByMonth agentId first last hlimit
  have hall : all = Record.inOrder (wanted agentId first last (({} : Store α).kept ops)) :=
    h.range agentId first last
  have hp : all.Pairwise fun a b => a.timestamp ≤ b.timestamp := by
    rw [hall]
    exact StableOrder.pairwise_sort _
  have hmonth : ∀ r ∈ all, ∃ m, belongs m r = true := by
    intro r hr
    rw [hall] at hr
    obtain ⟨hr, -⟩ := List.mem_filter.mp (StableOrder.mem_sort.mp hr)
    obtain ⟨m, hm, -⟩ := Month.containing?_of_fourDigitYear (h.years r hr)
    exact ⟨m, decide_eq_true hm⟩
  have hsub := cutByMonth_sublist hp hmonth limit
  rw [hcut]
  refine ⟨rfl, hsub, hp.sublist hsub, fun m => ⟨filter_cutByMonth limit all m, ?_⟩,
    take_cutByMonth hp hmonth limit, cutByMonth_eq_self_iff hp hmonth limit⟩
  rw [filter_cutByMonth]
  exact List.length_take_le limit _

/-- Three rows of a January, saved last row first, beside one of another agent, and two rows of the
February after it. -/
def januaryFebruary : List (Operation Float) :=
  [.saveAll ([1706745599999, 1706700000000, 1704067200000, 1706745600000, 1709251199999].map
      fun ts => .uniform "a" ts 1.5 7),
    .save (.uniform "b" 1704067200000 2.0 1)]

/-- A limit of two takes the last row of the January and no row of the February; the first two rows
are those of the unlimited answer. A limit of three takes none. -/
theorem range_limit_januaryFebruary :
    let s := ({} : Store Float).run januaryFebruary
    ((∀ r ∈ ({} : Store Float).acceptedIn januaryFebruary, Month.FourDigitYear r.timestamp) ∧
      0 < 2) ∧
    (s.range "a" 1704067200000 1709251199999 2).map Record.timestamp =
      [1704067200000, 1706700000000, 1706745600000, 1709251199999] ∧
    s.range "a" 1704067200000 1709251199999 3 = s.range "a" 1704067200000 1709251199999 0 := by
  intro s
  have hy : ∀ r ∈ ({} : Store Float).acceptedIn januaryFebruary,
      Month.FourDigitYear r.timestamp := by decide +kernel
  obtain ⟨htwo, -⟩ :=
    range_limit januaryFebruary hy "a" 1704067200000 1709251199999 (by decide : 0 < 2)
  obtain ⟨hthree, -⟩ :=
    range_limit januaryFebruary hy "a" 1704067200000 1709251199999 (by decide : 0 < 3)
  refine ⟨⟨hy, by decide⟩, ?_, hthree.trans ?_⟩
  · rw [htwo]
    decide +kernel
  · decide +kernel

end Store
end FleetTelemetry

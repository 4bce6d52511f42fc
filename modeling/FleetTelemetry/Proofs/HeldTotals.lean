/-
# Totals in any order

A total that is held at the greatest counter after every step is the exact sum,
held once (`Word.toNat_saturatingSum`). So it does not matter in which order the
counters come (`Word.exactSum_perm`), nor whether some of them are added up
before the others, even if these alone no longer fit
(`Word.min_exactSum_flatMap`).

The line of a fleet is therefore that of the set of its agents. It is the same
for every cache that holds their snapshots, whatever the order of its map
(`Cache.HasFleet.totals`); a run leads to such a cache
(`Cache.exists_hasFleet_run`), and to each order (`Cache.hasFleet_run_reports`).
The totals of an hour are those of its rows in any order, and the totals of a
day those of all rows behind it, however they are grouped into hours and in
whatever order the hours come (`Summary.totals_of_hoursOf`).

Key definitions: `Cache.HasFleet`, `CacheSummary.Totals`, `Cache.reports`,
`Summary.Totals`, `Summary.hoursOf`.
Key theorems: `Cache.HasFleet.totals`, `Cache.hasFleet_run_reports`,
`Summary.totals_of_ofHour?`, `Summary.totals_of_ofDay?`,
`Summary.totals_of_hoursOf`, `totals_anyOrder`.
-/
import FleetTelemetry.Proofs.Buckets
import FleetTelemetry.Proofs.CacheLog
import FleetTelemetry.Summary
import Mathlib.Algebra.BigOperators.Group.Finset.Basic

namespace FleetTelemetry

/-! ### The line of a fleet -/

namespace Cache

/-- A cache holds a snapshot of each of some agents and of no other. The order of its map does not
count. -/
structure HasFleet (c : Cache) (agents : Finset String) (fleet : String → Snapshot) : Prop where
  distinct : c.current.keys.Nodup
  current : ∀ a, c.current? a = if a ∈ agents then some (fleet a) else none

end Cache

/-- What a line tells of some agents, in no order. -/
structure CacheSummary.Totals (sm : CacheSummary) (agents : Finset String)
    (fleet : String → Snapshot) : Prop where
  agentCount : sm.agentCount = agents.card
  totalMemory : sm.totalMemory.toNat =
    min (∑ a ∈ agents, (fleet a).memory.total.toNat) (Word.size64 - 1)
  usedMemory : sm.usedMemory.toNat =
    min (∑ a ∈ agents, (fleet a).memory.used.toNat) (Word.size64 - 1)
  memoryPercent : sm.memoryPercent = percentOf sm.usedMemory sm.totalMemory

theorem CacheSummary.Totals.memoryPercent_eq {sm sm' : CacheSummary} {agents : Finset String}
    {fleet : String → Snapshot} (h : sm.Totals agents fleet) (h' : sm'.Totals agents fleet) :
    sm'.memoryPercent = sm.memoryPercent := by
  have htotal : sm'.totalMemory = sm.totalMemory :=
    UInt64.toNat_inj.mp (h'.totalMemory.trans h.totalMemory.symm)
  have hused : sm'.usedMemory = sm.usedMemory :=
    UInt64.toNat_inj.mp (h'.usedMemory.trans h.usedMemory.symm)
  rw [h'.memoryPercent, h.memoryPercent, htotal, hused]

namespace Cache

variable {c : Cache} {agents : Finset String} {fleet : String → Snapshot}

namespace HasFleet

theorem mem_keys_iff (h : c.HasFleet agents fleet) (a : String) :
    a ∈ c.current.keys ↔ a ∈ agents := by
  rw [OrderedMap.mem_keys_iff]
  show (c.current? a).isSome = true ↔ _
  rw [h.current]
  split
  · next ha => exact iff_of_true rfl ha
  · next ha => exact iff_of_false Bool.false_ne_true ha

theorem toFinset_keys (h : c.HasFleet agents fleet) : c.current.keys.toFinset = agents := by
  ext a
  rw [List.mem_toFinset, h.mem_keys_iff]

/-- The snapshots come in the order of the map, each where its agent stands. -/
theorem values_map (h : c.HasFleet agents fleet) {β : Type} (f : Snapshot → β) :
    c.current.values.map f = c.current.keys.map fun a => f (fleet a) := by
  rw [OrderedMap.values, OrderedMap.keys, List.map_map, List.map_map]
  refine List.map_congr_left fun e he => ?_
  have hget : c.current? e.1 = some e.2 := (OrderedMap.mem_entries_iff h.distinct).mp he
  have hmem : e.1 ∈ agents := (h.mem_keys_iff e.1).mp (List.mem_map_of_mem he)
  rw [h.current, if_pos hmem] at hget
  exact congrArg f (Option.some.inj hget).symm

theorem exactSum (h : c.HasFleet agents fleet) (counter : Snapshot → UInt64) :
    Word.exactSum (c.current.values.map counter) = ∑ a ∈ agents, (counter (fleet a)).toNat := by
  calc Word.exactSum (c.current.values.map counter)
      = (c.current.values.map fun s => (counter s).toNat).sum := by
        rw [Word.exactSum_eq_sum, List.map_map]
        rfl
    _ = (c.current.keys.map fun a => (counter (fleet a)).toNat).sum := by rw [h.values_map]
    _ = ∑ a ∈ c.current.keys.toFinset, (counter (fleet a)).toNat :=
        (List.sum_toFinset _ h.distinct).symm
    _ = ∑ a ∈ agents, (counter (fleet a)).toNat := by rw [h.toFinset_keys]

theorem size (h : c.HasFleet agents fleet) : c.current.size = agents.card := by
  rw [← h.toFinset_keys, List.toFinset_card_of_nodup h.distinct, OrderedMap.keys, List.length_map]
  rfl

/-- **The line of a fleet is that of the set of its agents.** -/
theorem totals (h : c.HasFleet agents fleet) : c.summary.Totals agents fleet where
  agentCount := h.size
  totalMemory := by
    rw [← h.exactSum fun s => s.memory.total]
    exact Word.toNat_saturatingSum _
  usedMemory := by
    rw [← h.exactSum fun s => s.memory.used]
    exact Word.toNat_saturatingSum _
  memoryPercent := rfl

end HasFleet

/-! ### Every order occurs -/

/-- Agents report one after the other. -/
def reports (fleet : String → Snapshot) (order : List String) : List CacheEvent :=
  order.map fun a => .store (fleet a).timestamp a (fleet a)

theorem reports_concat (fleet : String → Snapshot) (order : List String) (a : String) :
    reports fleet (order ++ [a]) =
      reports fleet order ++ [.store (fleet a).timestamp a (fleet a)] := List.map_append

theorem logOf_reports {order : List String} (h : order.Nodup) (a : String) :
    logOf a (reports fleet order) = if a ∈ order then [fleet a] else [] := by
  induction order using List.reverseRecOn with
  | nil => rfl
  | append_singleton order b ih =>
    rw [← List.concat_eq_append, List.nodup_concat] at h
    obtain ⟨hb, horder⟩ := h
    rw [reports_concat, logOf_concat, ih horder]
    by_cases hab : b = a
    · subst hab
      rw [if_neg hb, if_pos (List.mem_append_right order (List.mem_singleton_self b))]
      exact if_pos rfl
    · -- the last report is of another agent and leaves the log alone
      have hother : (CacheEvent.store (fleet b).timestamp b (fleet b)).agent? ≠ some a :=
        fun hagent => hab (Option.some.inj hagent)
      rw [CacheEvent.extend_of_agent?_ne hother]
      simp only [List.mem_append, List.mem_singleton, Ne.symm hab, or_false]

theorem keys_run_reports (historyCapacity broadcastCapacity : Nat) {order : List String}
    (h : order.Nodup) :
    ((empty historyCapacity broadcastCapacity).run (reports fleet order)).current.keys = order := by
  induction order using List.reverseRecOn with
  | nil => rfl
  | append_singleton order b ih =>
    rw [← List.concat_eq_append, List.nodup_concat] at h
    obtain ⟨hb, horder⟩ := h
    rw [reports_concat, run_append]
    refine (OrderedMap.keys_upsert _ b _ _).trans ?_
    rw [ih horder, if_neg hb]

/-- **A fleet reports in any order**, and its cache holds the snapshots in that order. -/
theorem hasFleet_run_reports (historyCapacity broadcastCapacity : Nat) {order : List String}
    (h : order.Nodup) :
    ((empty historyCapacity broadcastCapacity).run (reports fleet order)).HasFleet
      order.toFinset fleet := by
  have hreads := reads_run historyCapacity broadcastCapacity (reports fleet order)
  refine ⟨hreads.nodupCurrent, fun a => ?_⟩
  refine (hreads.current a).trans ?_
  rw [logOf_reports h]
  simp only [List.mem_toFinset]
  split <;> rfl

/-- After any run a cache holds the last results of the agents whose logs are not empty. -/
theorem exists_hasFleet_run (historyCapacity broadcastCapacity : Nat) (events : List CacheEvent) :
    ∃ agents : Finset String, (∀ a, a ∈ agents ↔ logOf a events ≠ []) ∧
      ((empty historyCapacity broadcastCapacity).run events).HasFleet agents
        fun a => (logOf a events).getLast?.getD {} := by
  have hreads := reads_run historyCapacity broadcastCapacity events
  set c := (empty historyCapacity broadcastCapacity).run events
  have hmem : ∀ a, a ∈ c.current.keys.toFinset ↔ logOf a events ≠ [] := fun a => by
    rw [List.mem_toFinset, hreads.shows.known]
  refine ⟨c.current.keys.toFinset, hmem, hreads.nodupCurrent, fun a => ?_⟩
  refine (hreads.current a).trans ?_
  simp only [hmem]
  by_cases hnil : logOf a events = []
  · rw [if_neg (not_not.mpr hnil), hnil]
    rfl
  · obtain ⟨s, hs⟩ := Option.isSome_iff_exists.mp (List.getLast?_isSome.mpr hnil)
    rw [if_pos hnil, hs]
    rfl

end Cache

/-! ### Totals of hours and days -/

namespace Summary

variable {α : Type} {span : Span}

/-- The totals of a summary are the exact sums of some counters, held at the greatest counter. -/
structure Totals (sm : Summary α span) (rx tx : List UInt64) : Prop where
  netRxTotal : sm.netRxTotal.toNat = min (Word.exactSum rx) (Word.size64 - 1)
  netTxTotal : sm.netTxTotal.toNat = min (Word.exactSum tx) (Word.size64 - 1)

theorem Totals.perm {sm : Summary α span} {rx rx' tx tx' : List UInt64} (h : sm.Totals rx tx)
    (hrx : rx.Perm rx') (htx : tx.Perm tx') : sm.Totals rx' tx' :=
  ⟨Word.exactSum_perm hrx ▸ h.netRxTotal, Word.exactSum_perm htx ▸ h.netTxTotal⟩

theorem totalPoints_perm {hours hours' : List (Summary α span)} (h : hours.Perm hours') :
    totalPoints hours = totalPoints hours' := by
  induction h with
  | nil => rfl
  | cons sm _ ih => rw [totalPoints, totalPoints, ih]
  | swap sm sm' hours => simp only [totalPoints, Int.add_left_comm]
  | trans _ _ ih ih' => exact ih.trans ih'

variable [Gauge α]

/-- **The totals of an hour are the exact sums of its rows, held once.** -/
theorem totals_of_ofHour? {agentId : String} {start : Int} {rows : List (Record α)}
    {sm : Summary α .hour} (h : ofHour? agentId start rows = some sm) :
    sm.Totals (rows.map Record.netRxBps) (rows.map Record.netTxBps) := by
  obtain ⟨-, -, hrx, htx⟩ := ofHour?_eq_some h
  constructor
  · rw [hrx]
    exact Word.toNat_saturatingSum _
  · rw [htx]
    exact Word.toNat_saturatingSum _

/-- **The totals of a day are the exact sums of its hours, held once.** -/
theorem totals_of_ofDay? {agentId : String} {start : Int} {hours : List (Summary α .hour)}
    {sm : Summary α .day} (h : ofDay? agentId start hours = some sm) :
    sm.Totals (hours.map Summary.netRxTotal) (hours.map Summary.netTxTotal) := by
  obtain ⟨-, hrx, htx⟩ := ofDay?_eq_some h
  constructor
  · rw [hrx]
    exact Word.toNat_saturatingSum _
  · rw [htx]
    exact Word.toNat_saturatingSum _

/-! ### Rows in groups -/

/-- The hours that groups of rows are summarised as, each group under a start. A group without rows
has none. -/
def hoursOf (agentId : String) (groups : List (Int × List (Record α))) :
    List (Summary α .hour) :=
  groups.filterMap fun g => ofHour? agentId g.1 g.2

theorem hoursOf_cons (agentId : String) (g : Int × List (Record α))
    (groups : List (Int × List (Record α))) :
    hoursOf agentId (g :: groups) =
      (ofHour? agentId g.1 g.2).toList ++ hoursOf agentId groups := by
  rw [hoursOf, List.filterMap_cons]
  cases ofHour? agentId g.1 g.2 <;> rfl

theorem totalPoints_hoursOf (agentId : String) (groups : List (Int × List (Record α))) :
    totalPoints (hoursOf agentId groups) = (groups.flatMap Prod.snd).length := by
  induction groups with
  | nil => rfl
  | cons g groups ih =>
    rw [hoursOf_cons, List.flatMap_cons, List.length_append]
    cases hg : ofHour? agentId g.1 g.2 with
    | none =>
      rw [ofHour?_eq_none_iff.mp hg]
      simpa using ih
    | some sm =>
      obtain ⟨-, hpoints, -⟩ := ofHour?_eq_some hg
      show sm.dataPoints + totalPoints (hoursOf agentId groups) = _
      rw [ih, hpoints]
      omega

variable {agentId : String}

theorem exactSum_hoursOf {total : Summary α .hour → UInt64} {counter : Record α → UInt64}
    (htotal : ∀ {start : Int} {rows : List (Record α)} {sm : Summary α .hour},
      ofHour? agentId start rows = some sm → total sm = Word.saturatingSum (rows.map counter))
    (groups : List (Int × List (Record α))) :
    Word.exactSum ((hoursOf agentId groups).map total) =
      Word.exactSum (groups.map fun g => Word.saturatingSum (g.2.map counter)) := by
  induction groups with
  | nil => rfl
  | cons g groups ih =>
    rw [hoursOf_cons, List.map_append, Word.exactSum_append, ih, List.map_cons, Word.exactSum]
    cases hg : ofHour? agentId g.1 g.2 with
    | none =>
      -- a group without rows has no hour and adds nothing
      rw [ofHour?_eq_none_iff.mp hg]
      rfl
    | some sm =>
      rw [← htotal hg]
      rfl

/-- Totals that are held group by group add up as those of all rows, held once. -/
theorem min_exactSum_hoursOf {total : Summary α .hour → UInt64} {counter : Record α → UInt64}
    (htotal : ∀ {start : Int} {rows : List (Record α)} {sm : Summary α .hour},
      ofHour? agentId start rows = some sm → total sm = Word.saturatingSum (rows.map counter))
    (groups : List (Int × List (Record α))) :
    min (Word.exactSum ((hoursOf agentId groups).map total)) (Word.size64 - 1) =
      min (Word.exactSum ((groups.flatMap Prod.snd).map counter)) (Word.size64 - 1) := by
  calc min (Word.exactSum ((hoursOf agentId groups).map total)) (Word.size64 - 1)
      = min (Word.exactSum (groups.map fun g => Word.saturatingSum (g.2.map counter)))
          (Word.size64 - 1) := by rw [exactSum_hoursOf htotal]
    _ = min (Word.exactSum (groups.flatMap fun g => g.2.map counter)) (Word.size64 - 1) :=
        Word.min_exactSum_flatMap fun g _ => Word.toNat_saturatingSum (g.2.map counter)
    _ = min (Word.exactSum ((groups.flatMap Prod.snd).map counter)) (Word.size64 - 1) := by
        rw [List.map_flatMap]

variable {start : Int} {rows : List (Record α)}
  {groups : List (Int × List (Record α))} {hours : List (Summary α .hour)}

theorem totalPoints_of_hoursOf (hgroups : (groups.flatMap Prod.snd).Perm rows)
    (hhours : hours.Perm (hoursOf agentId groups)) : totalPoints hours = rows.length := by
  rw [totalPoints_perm hhours, totalPoints_hoursOf, hgroups.length_eq]

/-- **The totals of a day are those of the rows behind it, however they are grouped.** -/
theorem totals_of_hoursOf (hgroups : (groups.flatMap Prod.snd).Perm rows)
    (hhours : hours.Perm (hoursOf agentId groups)) {sm : Summary α .day}
    (h : ofDay? agentId start hours = some sm) :
    sm.Totals (rows.map Record.netRxBps) (rows.map Record.netTxBps) := by
  obtain ⟨hrx, htx⟩ := (totals_of_ofDay? h).perm (hhours.map _) (hhours.map _)
  -- first the hours give way to the groups that they were made from, then the groups to the rows
  rw [min_exactSum_hoursOf fun hsm => (ofHour?_eq_some hsm).2.2.1] at hrx
  rw [min_exactSum_hoursOf fun hsm => (ofHour?_eq_some hsm).2.2.2] at htx
  exact Totals.perm ⟨hrx, htx⟩ (hgroups.map _) (hgroups.map _)

end Summary

/-- **Totals do not depend on an order.** After any run a cache holds the last snapshots of the
agents that have reported since they were last removed. For every set of agents and every cache that
holds their snapshots, in whatever order, the line of the fleet counts the agents, and its totals
are the exact sums over the set, held once at the greatest counter; so all such caches give the same
percentage, and each order of the agents is that of a cache, one to which they report in it.

An hour has a summary just if it has rows, and a day just if rows are counted behind its hours; the
totals of either are the exact sums, held once, of what it is made of in any order. Rows that are
grouped into hours in any way, the hours taken in any order, have a day just if there are any, and
it counts all of them and has their totals. -/
theorem totals_anyOrder :
    (∀ (historyCapacity broadcastCapacity : Nat) (events : List CacheEvent),
      ∃ agents : Finset String, (∀ a, a ∈ agents ↔ logOf a events ≠ []) ∧
        ((Cache.empty historyCapacity broadcastCapacity).run events).HasFleet agents
          fun a => (logOf a events).getLast?.getD {}) ∧
    (∀ (agents : Finset String) (fleet : String → Snapshot),
      (∀ c : Cache, c.HasFleet agents fleet → c.summary.Totals agents fleet) ∧
      (∀ c c' : Cache, c.HasFleet agents fleet → c'.HasFleet agents fleet →
        c'.summary.memoryPercent = c.summary.memoryPercent) ∧
      ∀ order : List String, order.Nodup → order.toFinset = agents →
        ∀ historyCapacity broadcastCapacity : Nat,
          let c := (Cache.empty historyCapacity broadcastCapacity).run (Cache.reports fleet order)
          c.current.keys = order ∧ c.HasFleet agents fleet) ∧
    ∀ {α : Type} [Gauge α] (agentId : String) (start : Int),
      (∀ rows order : List (Record α), order.Perm rows →
        ((Summary.ofHour? agentId start order).isSome = true ↔ rows ≠ []) ∧
        ∀ sm ∈ Summary.ofHour? agentId start order,
          sm.Totals (rows.map Record.netRxBps) (rows.map Record.netTxBps)) ∧
      (∀ hours order : List (Summary α .hour), order.Perm hours →
        ((Summary.ofDay? agentId start order).isSome = true ↔ 0 < Summary.totalPoints hours) ∧
        ∀ sm ∈ Summary.ofDay? agentId start order,
          sm.Totals (hours.map Summary.netRxTotal) (hours.map Summary.netTxTotal)) ∧
      ∀ (rows : List (Record α)) (groups : List (Int × List (Record α)))
        (hours : List (Summary α .hour)), (groups.flatMap Prod.snd).Perm rows →
        hours.Perm (Summary.hoursOf agentId groups) →
        ((Summary.ofDay? agentId start hours).isSome = true ↔ rows ≠ []) ∧
        ∀ sm ∈ Summary.ofDay? agentId start hours, sm.dataPoints = rows.length ∧
          sm.Totals (rows.map Record.netRxBps) (rows.map Record.netTxBps) := by
  refine ⟨Cache.exists_hasFleet_run,
    fun agents fleet => ⟨fun c h => h.totals, fun c c' h h' => ?_, ?_⟩,
    fun agentId start => ⟨fun rows order horder => ?_, fun hours order horder => ?_,
      fun rows groups hours hgroups hhours => ?_⟩⟩
  · exact h.totals.memoryPercent_eq h'.totals
  · rintro order horder rfl historyCapacity broadcastCapacity
    exact ⟨Cache.keys_run_reports historyCapacity broadcastCapacity horder,
      Cache.hasFleet_run_reports historyCapacity broadcastCapacity horder⟩
  · refine ⟨?_, fun sm hsm =>
      (Summary.totals_of_ofHour? hsm).perm (horder.map _) (horder.map _)⟩
    rw [Option.isSome_iff_ne_none, ne_eq, Summary.ofHour?_eq_none_iff, ← List.length_eq_zero_iff,
      horder.length_eq, List.length_eq_zero_iff]
  · refine ⟨?_, fun sm hsm =>
      (Summary.totals_of_ofDay? hsm).perm (horder.map _) (horder.map _)⟩
    rw [Summary.ofDay?_isSome_iff, Summary.totalPoints_perm horder]
  · have hpoints := Summary.totalPoints_of_hoursOf hgroups hhours
    refine ⟨?_, fun sm hsm => ⟨?_, Summary.totals_of_hoursOf hgroups hhours hsm⟩⟩
    · rw [Summary.ofDay?_isSome_iff, hpoints, Int.natCast_pos, List.length_pos_iff]
    · rw [(Summary.ofDay?_eq_some hsm).1, hpoints]

/-- Three agents report in two orders, and their memory no longer fits at the second or at the last
of them. Rows of which the first fills a total alone come in two hours, the later hour first. -/
theorem totals_anyOrder_heldMidway :
    let fleet : String → Snapshot := fun a =>
      if a = "a" then { memory := { total := 0xffffffffffffffff, used := 1 } }
      else { memory := { total := 7, used := 2 } }
    let line (order : List String) : CacheSummary :=
      ((Cache.empty 1 1).run (Cache.reports fleet order)).summary
    let row (rx tx : UInt64) : Record Float :=
      { (default : Record Float) with netRxBps := rx, netTxBps := tx }
    let hour (rx tx : UInt64) : Summary Float .hour :=
      { (default : Summary Float .hour) with netRxTotal := rx, netTxTotal := tx, dataPoints := 1 }
    let groups := [(0, [row 0xffffffffffffffff 1]), (3600000, [row 1 2, row 7 3])]
    ((line ["a", "b", "c"]).agentCount = 3 ∧
      (line ["a", "b", "c"]).totalMemory.toNat = Word.size64 - 1 ∧
      (line ["c", "b", "a"]).totalMemory.toNat = Word.size64 - 1 ∧
      (line ["c", "b", "a"]).usedMemory.toNat = 5 ∧
      (line ["c", "b", "a"]).memoryPercent = (line ["a", "b", "c"]).memoryPercent) ∧
    (∃ sm ∈ Summary.ofHour? "a" 0 [row 7 3, row 0xffffffffffffffff 1],
      sm.netRxTotal.toNat = Word.size64 - 1 ∧ sm.netTxTotal.toNat = 4) ∧
    (∃ sm ∈ Summary.ofDay? "a" 0 [hour 7 3, hour 0xffffffffffffffff 1],
      sm.netRxTotal.toNat = Word.size64 - 1 ∧ sm.netTxTotal.toNat = 4) ∧
    ∃ sm ∈ Summary.ofDay? "a" 0 (Summary.hoursOf "a" groups).reverse,
      sm.dataPoints = 3 ∧ sm.netRxTotal.toNat = Word.size64 - 1 ∧ sm.netTxTotal.toNat = 6 := by
  intro fleet line row hour groups
  obtain ⟨-, hfleet, hrollup⟩ := totals_anyOrder
  obtain ⟨htotals, hsame, horders⟩ := hfleet ["a", "b", "c"].toFinset fleet
  obtain ⟨-, h⟩ := horders ["a", "b", "c"] (by decide) rfl 1 1
  obtain ⟨-, h'⟩ := horders ["c", "b", "a"] (by decide) (by decide) 1 1
  obtain ⟨hhour, hday, hgroups⟩ := hrollup (α := Float) "a" 0
  refine ⟨⟨(htotals _ h).agentCount.trans (by decide), (htotals _ h).totalMemory.trans (by decide),
    (htotals _ h').totalMemory.trans (by decide), (htotals _ h').usedMemory.trans (by decide),
    hsame _ _ h h'⟩, ?_, ?_, ?_⟩
  · obtain ⟨hsome, hheld⟩ := hhour [row 0xffffffffffffffff 1, row 7 3] _ (List.Perm.swap _ _ _)
    obtain ⟨sm, hsm⟩ := Option.isSome_iff_exists.mp (hsome.mpr (List.cons_ne_nil _ _))
    exact ⟨sm, hsm, (hheld sm hsm).netRxTotal.trans (by decide),
      (hheld sm hsm).netTxTotal.trans (by decide)⟩
  · obtain ⟨hsome, hheld⟩ := hday [hour 0xffffffffffffffff 1, hour 7 3] _ (List.Perm.swap _ _ _)
    obtain ⟨sm, hsm⟩ := Option.isSome_iff_exists.mp (hsome.mpr (by decide))
    exact ⟨sm, hsm, (hheld sm hsm).netRxTotal.trans (by decide),
      (hheld sm hsm).netTxTotal.trans (by decide)⟩
  · obtain ⟨hsome, hheld⟩ := hgroups _ groups _ (List.Perm.refl _) (List.reverse_perm _)
    obtain ⟨sm, hsm⟩ := Option.isSome_iff_exists.mp (hsome.mpr (List.cons_ne_nil _ _))
    obtain ⟨hpoints, htotals⟩ := hheld sm hsm
    exact ⟨sm, hsm, hpoints, htotals.netRxTotal.trans (by decide),
      htotals.netTxTotal.trans (by decide)⟩

end FleetTelemetry

/-
# A cache reads like the logs of its agents

Current snapshots and histories are kept in two maps, which every write and
every removal changes side by side. Behind both there is one log per agent, the
results of its writes since it was last removed (`logOf`): the current snapshot
is the end of it, the history is as much of its end as the cache has room for
(`Cache.reads_run`). Every read, and every answer to a write or a removal, goes
by the logs alone (`Cache.shows_run`), and an event of one agent is in the log
of no other.

Key definitions: `Cache.Reads`, `Cache.Shows`, `Cache.SameFor`.
Key theorems: `Cache.pushBounded_rtake`, `Cache.Reads.step`, `Cache.reads_run`,
`Cache.Reads.shows`, `Cache.shows_run`.
-/
import FleetTelemetry.Proofs.CacheRun
import Mathlib.Data.List.DropRight

namespace FleetTelemetry

theorem lastEntries_eq {β : Type} (limit : Nat) (entries : List β) :
    lastEntries limit entries = if limit = 0 then entries else entries.rtake limit := rfl

namespace Cache

/-- The bounded end of a log is kept by dropping what no longer fits. -/
theorem pushBounded_rtake (capacity : Nat) (log : List Snapshot) (s : Snapshot) :
    pushBounded capacity (log.rtake capacity) s = (log ++ [s]).rtake capacity := by
  have hlen : (log.rtake capacity).length = log.length - (log.length - capacity) := by
    rw [List.rtake, List.length_drop]
  have hsplit : log.rtake capacity ++ [s] = (log ++ [s]).drop (log.length - capacity) := by
    rw [List.rtake, List.drop_append_of_le_length (Nat.sub_le _ _)]
  rw [pushBounded, hsplit, hlen, List.drop_drop, List.rtake, List.length_append,
    List.length_singleton]
  congr 1
  omega

/-! ### The maps and the logs -/

/-- The two maps of a cache are the ends of some logs, one for each agent. -/
structure Reads (c : Cache) (log : String → List Snapshot) : Prop where
  current : ∀ a, c.current.get? a = (log a).getLast?
  history : ∀ a, c.history.get? a =
    if log a = [] then none else some ((log a).rtake c.historyCapacity)
  nodupCurrent : c.current.keys.Nodup
  nodupHistory : c.history.keys.Nodup

theorem reads_empty (historyCapacity broadcastCapacity : Nat) :
    (empty historyCapacity broadcastCapacity).Reads fun _ => [] :=
  ⟨fun _ => rfl, fun _ => rfl, List.nodup_nil, List.nodup_nil⟩

variable {c : Cache} {log : String → List Snapshot}

theorem Reads.congr (h : c.Reads log) {c' : Cache} (hcurrent : c'.current = c.current)
    (hhistory : c'.history = c.history) (hcapacity : c'.historyCapacity = c.historyCapacity) :
    c'.Reads log := by
  obtain ⟨h₁, h₂, h₃, h₄⟩ := h
  constructor
  · rwa [hcurrent]
  · rwa [hhistory, hcapacity]
  · rwa [hcurrent]
  · rwa [hhistory]

theorem Reads.historyOf (h : c.Reads log) (a : String) :
    (c.history.get? a).getD [] = (log a).rtake c.historyCapacity := by
  rw [h.history]
  split
  · next hnil => rw [hnil, List.rtake_nil, Option.getD_none]
  · rfl

theorem Reads.write (h : c.Reads log) (agentId : String) (s : Snapshot) :
    (c.write agentId s).Reads fun a => if agentId = a then log a ++ [s] else log a := by
  constructor
  · intro a
    show (c.current.insert agentId s).get? a = _
    rw [OrderedMap.get?_insert]
    by_cases ha : agentId = a
    · rw [if_pos ha.symm, if_pos ha, List.getLast?_concat]
    · rw [if_neg (Ne.symm ha), if_neg ha, h.current]
  · intro a
    show (c.history.insert agentId _).get? a = _
    rw [OrderedMap.get?_insert]
    by_cases ha : agentId = a
    · subst ha
      rw [if_pos rfl, if_pos rfl, if_neg (List.append_ne_nil_of_right_ne_nil _ (by simp)),
        h.historyOf, pushBounded_rtake]
      rfl
    · rw [if_neg (Ne.symm ha), if_neg ha, h.history]
      rfl
  · exact OrderedMap.nodup_keys_upsert h.nodupCurrent _ _ _
  · exact OrderedMap.nodup_keys_upsert h.nodupHistory _ _ _

theorem Reads.remove (h : c.Reads log) (agentId : String) :
    (c.remove agentId).1.Reads fun a => if agentId = a then [] else log a := by
  constructor
  · intro a
    show (c.current.erase agentId).get? a = _
    rw [OrderedMap.get?_erase]
    by_cases ha : agentId = a
    · rw [if_pos ha.symm, if_pos ha, List.getLast?_nil]
    · rw [if_neg (Ne.symm ha), if_neg ha, h.current]
  · intro a
    show (c.history.erase agentId).get? a = _
    rw [OrderedMap.get?_erase]
    by_cases ha : agentId = a
    · rw [if_pos ha.symm, if_pos ha, if_pos rfl]
    · rw [if_neg (Ne.symm ha), if_neg ha, h.history]
      rfl
  · exact OrderedMap.nodup_keys_erase h.nodupCurrent _
  · exact OrderedMap.nodup_keys_erase h.nodupHistory _

/-- **An event extends the logs as it should.** -/
theorem Reads.step (h : c.Reads log) (event : CacheEvent) :
    (c.step event).Reads fun a => event.extend a (log a) := by
  cases hagent : event.agent? with
  | none =>
    obtain ⟨hook, hstep⟩ := c.step_of_agent?_eq_none hagent
    have hlog : ∀ a, event.extend a (log a) = log a := fun a =>
      CacheEvent.extend_of_agent?_ne (by simp [hagent]) (log a)
    rw [hstep]
    simp only [hlog]
    exact h.congr rfl rfl rfl
  | some agentId =>
    cases event with
    | store now a s => exact h.write a (s.stamped now)
    | merge now a u =>
      have hwrite := h.write a ((u.apply ((c.current.get? a).getD {})).stamped now)
      refine (congrArg _ (funext fun b => ?_)).mpr hwrite
      show (if a = b then log b ++ [(u.apply ((log b).getLast?.getD {})).stamped now]
        else log b) = _
      -- what is merged into is the end of the log
      split
      · next hab => rw [← hab, h.current]
      · rfl
    | remove a => exact h.remove a
    | _ => cases hagent

/-- **After a run the maps are the ends of the logs of the run.** -/
theorem reads_run (historyCapacity broadcastCapacity : Nat) (events : List CacheEvent) :
    ((empty historyCapacity broadcastCapacity).run events).Reads fun a => logOf a events := by
  induction events using List.reverseRecOn with
  | nil => exact reads_empty historyCapacity broadcastCapacity
  | append_singleton events event ih =>
    rw [run_append]
    simp only [logOf_concat]
    exact ih.step event

/-! ### What is read -/

/-- Every read of a cache goes by some logs, and the reads of all agents agree with those of one. -/
structure Shows (c : Cache) (capacity : Nat) (log : String → List Snapshot) : Prop where
  current : ∀ a, c.current? a = (log a).getLast?
  history : ∀ a limit, c.historyOf a limit =
    let kept := (log a).rtake capacity
    if limit = 0 then kept else kept.rtake limit
  distinctCurrent : c.current.keys.Nodup
  known : ∀ a, a ∈ c.current.keys ↔ log a ≠ []
  allCurrent : ∀ a s, (a, s) ∈ c.current.entries ↔ c.current? a = some s
  distinctHistory : ∀ limit, ((c.allHistory limit).map Prod.fst).Nodup
  allHistory : ∀ limit a h, (a, h) ∈ c.allHistory limit ↔ log a ≠ [] ∧ h = c.historyOf a limit

theorem mem_allHistory (hnodup : c.history.keys.Nodup) (limit : Nat) (a : String)
    (h : List Snapshot) :
    (a, h) ∈ c.allHistory limit ↔
      ∃ ring, c.history.get? a = some ring ∧ h = lastEntries limit ring := by
  rw [allHistory, List.mem_map]
  constructor
  · rintro ⟨⟨a', ring⟩, hmem, heq⟩
    obtain ⟨rfl, rfl⟩ := Prod.mk.inj heq
    exact ⟨ring, (OrderedMap.mem_entries_iff hnodup).mp hmem, rfl⟩
  · rintro ⟨ring, hget, rfl⟩
    exact ⟨(a, ring), (OrderedMap.mem_entries_iff hnodup).mpr hget, rfl⟩

theorem Reads.shows (h : c.Reads log) : c.Shows c.historyCapacity log where
  current := h.current
  history a limit := by
    show lastEntries limit ((c.history.get? a).getD []) = _
    rw [h.historyOf, lastEntries_eq]
  distinctCurrent := h.nodupCurrent
  known a := by
    rw [OrderedMap.mem_keys_iff, h.current, List.getLast?_isSome]
  allCurrent a s := OrderedMap.mem_entries_iff h.nodupCurrent
  distinctHistory limit := by
    rw [allHistory, List.map_map]
    exact h.nodupHistory
  allHistory limit a entries := by
    rw [mem_allHistory h.nodupHistory, h.history, Cache.historyOf, h.historyOf]
    split
    · next hnil => simp [hnil]
    · next hne => simp [hne]

/-- Every read of an agent is answered alike by two caches. -/
structure SameFor (agentId : String) (c c' : Cache) : Prop where
  current : c'.current? agentId = c.current? agentId
  history : ∀ limit, c'.historyOf agentId limit = c.historyOf agentId limit
  allCurrent : ∀ s, (agentId, s) ∈ c'.current.entries ↔ (agentId, s) ∈ c.current.entries
  allHistory : ∀ limit h, (agentId, h) ∈ c'.allHistory limit ↔ (agentId, h) ∈ c.allHistory limit

theorem Shows.sameFor {capacity : Nat} (h : c.Shows capacity log) {c' : Cache}
    {log' : String → List Snapshot} (h' : c'.Shows capacity log') {agentId : String}
    (hlog : log' agentId = log agentId) : SameFor agentId c c' := by
  have hcurrent : c'.current? agentId = c.current? agentId := by
    rw [h'.current, h.current, hlog]
  have hhistory : ∀ limit, c'.historyOf agentId limit = c.historyOf agentId limit := fun limit => by
    rw [h'.history, h.history, hlog]
  refine ⟨hcurrent, hhistory, fun s => ?_, fun limit entries => ?_⟩
  · rw [h'.allCurrent, h.allCurrent, hcurrent]
  · rw [h'.allHistory, h.allHistory, hhistory, hlog]

/-- **A cache reads like the logs of its agents.** After any run the current snapshot of an agent is
the end of its log and its history the bounded end, read for one agent or for all. A write returns
what it appends to the log of its agent, a removal tells whether that log had anything in it, and
an event about one agent changes no read of another. -/
theorem shows_run (historyCapacity broadcastCapacity : Nat) (events : List CacheEvent) :
    let c := (empty historyCapacity broadcastCapacity).run events
    c.Shows (max historyCapacity 1) (fun a => logOf a events) ∧
    (∀ now a s, ∃ s', (c.perform (.store now a s)).2 = .wrote s' ∧
      logOf a (events ++ [.store now a s]) = logOf a events ++ [s']) ∧
    (∀ now a u, ∃ s', (c.perform (.merge now a u)).2 = .wrote s' ∧
      logOf a (events ++ [.merge now a u]) = logOf a events ++ [s']) ∧
    (∀ a, (c.perform (.remove a)).2 = .removed (!(logOf a events).isEmpty)) ∧
    ∀ event a, event.agent? ≠ some a → SameFor a c (c.step event) := by
  intro c
  have hreads : c.Reads fun a => logOf a events :=
    reads_run historyCapacity broadcastCapacity events
  have hcapacity : c.historyCapacity = max historyCapacity 1 := (run_capacities _ events).1
  have hshows := hreads.shows
  refine ⟨hcapacity ▸ hshows, fun now a s => ?_, fun now a u => ?_, fun a => ?_,
    fun event a ha => ?_⟩
  · refine ⟨_, rfl, ?_⟩
    rw [logOf_concat]
    exact if_pos rfl
  · refine ⟨_, rfl, ?_⟩
    rw [logOf_concat]
    refine (if_pos rfl).trans ?_
    show _ = logOf a events ++ [(u.apply ((c.current.get? a).getD {})).stamped now]
    rw [hreads.current]
  · show CacheAnswer.removed (c.current.contains a || c.history.contains a) = _
    rw [OrderedMap.contains, OrderedMap.contains, hreads.current, hreads.history]
    cases logOf a events <;> simp
  · have hafter := (hreads.step event).shows
    rw [(c.step_capacities event).1] at hafter
    exact hshows.sameFor hafter (CacheEvent.extend_of_agent?_ne ha _)

/-- A history of two snapshots has lost the first of three, and another agent is removed and comes
back beside it. -/
theorem shows_run_evicted :
    let c := (empty 2 0).run [.store 1 "a" {}, .subscribe, .merge 2 "b" (.periodic {}),
      .merge 3 "a" (.realtime {}), .remove "b", .store 4 "a" { timestamp := 9 }]
    (c.historyOf "a" 0).map Snapshot.timestamp = [3, 4] ∧
      ((c.step (.merge 5 "b" (.static {}))).historyOf "a" 1).map Snapshot.timestamp = [4] ∧
      (c.step (.merge 5 "b" (.static {}))).current? "a" = c.current? "a" := by
  obtain ⟨hshows, -, -, -, hother⟩ := shows_run 2 0 [.store 1 "a" {}, .subscribe,
    .merge 2 "b" (.periodic {}), .merge 3 "a" (.realtime {}), .remove "b",
    .store 4 "a" { timestamp := 9 }]
  have hsame := hother (.merge 5 "b" (.static {})) "a" (by decide)
  refine ⟨?_, ?_, hsame.current⟩
  · rw [hshows.history]
    rfl
  · rw [hsame.history, hshows.history]
    rfl

end Cache
end FleetTelemetry

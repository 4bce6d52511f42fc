/-
# Runs of a cache

Agents write to a cache or are removed from it, somebody subscribes, and from
then on a dispatcher takes frames and calls the hook, all of it in any order.
What the writes of an agent since its last removal led to is its log; it goes by
the events alone.

Key definitions: `CacheEvent`, `CacheAnswer`, `Cache.perform`, `Cache.run`,
`CacheEvent.extend`, `logOf`.
-/
import FleetTelemetry.Cache

namespace FleetTelemetry

/-- What can happen to a cache. -/
inductive CacheEvent where
  | store (now : Int) (agentId : String) (s : Snapshot)
  | merge (now : Int) (agentId : String) (u : Update)
  | remove (agentId : String)
  | subscribe
  /-- The dispatcher takes the next frame. -/
  | take
  /-- The call of the hook ends. -/
  | finish (outcome : HookOutcome)

/-- What a cache answers to an event. -/
inductive CacheAnswer where
  | wrote (s : Snapshot)
  | removed (known : Bool)
  | subscribed (first : Bool)
  | done

namespace CacheEvent

/-- The agent that an event is about. -/
def agent? : CacheEvent → Option String
  | .store _ agentId _ | .merge _ agentId _ | .remove agentId => some agentId
  | _ => none

/-- The log of an agent after an event. A merge goes by the last result in it, or by an empty
snapshot. -/
def extend (agentId : String) (log : List Snapshot) : CacheEvent → List Snapshot
  | .store now a s => if a = agentId then log ++ [s.stamped now] else log
  | .merge now a u =>
    if a = agentId then log ++ [(u.apply (log.getLast?.getD {})).stamped now] else log
  | .remove a => if a = agentId then [] else log
  | _ => log

theorem extend_of_agent?_ne {agentId : String} {event : CacheEvent}
    (h : event.agent? ≠ some agentId) (log : List Snapshot) : event.extend agentId log = log := by
  cases event with
  | store now a s => exact if_neg fun ha => h (congrArg some ha)
  | merge now a u => exact if_neg fun ha => h (congrArg some ha)
  | remove a => exact if_neg fun ha => h (congrArg some ha)
  | _ => rfl

end CacheEvent

/-- The results of the writes of an agent since it was last removed, oldest first. -/
def logOf (agentId : String) (events : List CacheEvent) : List Snapshot :=
  events.foldl (CacheEvent.extend agentId) []

theorem logOf_concat (agentId : String) (events : List CacheEvent) (event : CacheEvent) :
    logOf agentId (events ++ [event]) = event.extend agentId (logOf agentId events) := by
  rw [logOf, List.foldl_append]
  rfl

namespace Cache

/-- A cache after an event, and its answer. -/
def perform (c : Cache) : CacheEvent → Cache × CacheAnswer
  | .store now agentId s => ((c.store now agentId s).1, .wrote (c.store now agentId s).2)
  | .merge now agentId u => ((c.merge now agentId u).1, .wrote (c.merge now agentId u).2)
  | .remove agentId => ((c.remove agentId).1, .removed (c.remove agentId).2)
  | .subscribe => (c.subscribe.1, .subscribed c.subscribe.2)
  | .take => ({ c with hook := c.hook.map Broadcast.take }, .done)
  | .finish outcome => ({ c with hook := c.hook.map fun b => b.finish outcome }, .done)

/-- The cache after an event. -/
def step (c : Cache) (event : CacheEvent) : Cache := (c.perform event).1

/-- The cache after a run. -/
def run (c : Cache) (events : List CacheEvent) : Cache := events.foldl step c

@[simp] theorem run_nil (c : Cache) : c.run [] = c := rfl

@[simp] theorem run_cons (c : Cache) (event : CacheEvent) (events : List CacheEvent) :
    c.run (event :: events) = (c.step event).run events := rfl

@[simp] theorem run_append (c : Cache) (events events' : List CacheEvent) :
    c.run (events ++ events') = (c.run events).run events' := List.foldl_append

/-- An event that is about no agent changes nothing but the way to the subscriber. -/
theorem step_of_agent?_eq_none (c : Cache) {event : CacheEvent} (h : event.agent? = none) :
    ∃ hook, c.step event = { c with hook } := by
  cases event with
  | store | merge | remove => cases h
  | subscribe =>
    show ∃ hook, c.subscribe.1 = { c with hook }
    unfold subscribe
    split
    · exact ⟨c.hook, rfl⟩
    · exact ⟨_, rfl⟩
  | take | finish => exact ⟨_, rfl⟩

theorem step_capacities (c : Cache) (event : CacheEvent) :
    (c.step event).historyCapacity = c.historyCapacity ∧
      (c.step event).broadcastCapacity = c.broadcastCapacity := by
  cases h : event.agent? with
  | none =>
    obtain ⟨hook, hstep⟩ := c.step_of_agent?_eq_none h
    rw [hstep]
    exact ⟨rfl, rfl⟩
  | some a =>
    cases event with
    | store | merge | remove => exact ⟨rfl, rfl⟩
    | _ => cases h

theorem run_capacities (c : Cache) (events : List CacheEvent) :
    (c.run events).historyCapacity = c.historyCapacity ∧
      (c.run events).broadcastCapacity = c.broadcastCapacity := by
  induction events generalizing c with
  | nil => exact ⟨rfl, rfl⟩
  | cons event events ih =>
    obtain ⟨h₁, h₂⟩ := ih (c.step event)
    obtain ⟨h₃, h₄⟩ := c.step_capacities event
    exact ⟨h₁.trans h₃, h₂.trans h₄⟩

end Cache
end FleetTelemetry

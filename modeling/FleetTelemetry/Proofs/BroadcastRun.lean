/-
# Frames are delivered in the order of the writes

Every write after the subscription offers one frame to the queue, which carries
the snapshot that the write stored. At every moment the frames of the calls that
have ended, the one in flight and those in the queue are together the accepted
ones, in the order of their writes (`Cache.Conveys`). A write that finds the
queue full changes nothing of it but the count. What the dispatcher does never
reaches the cache: without a subscriber it would be the same
(`Cache.unheard_run`), and a call that fails differs from one that returns in
what is noted of its own frame (`Cache.allReturned_run`).

Key definitions: `Broadcast.frames`, `Cache.frame?`, `Cache.framesWhere`,
`Cache.Conveys`, `CacheEvent.returning`.
Key theorems: `Cache.Conveys.step`, `Cache.conveys_run`, `Cache.unheard_run`,
`Cache.allReturned_run`, `Cache.broadcasts_run`.
-/
import FleetTelemetry.Proofs.CacheRun
import FleetTelemetry.Proofs.Emitted

namespace FleetTelemetry

/-! ### The frames of a broadcast -/

namespace Broadcast

/-- The frames that a broadcast has taken on, oldest first. -/
def frames (b : Broadcast) : List Frame := b.ended.map Prod.fst ++ (b.inFlight.toList ++ b.queue)

/-- The same broadcast if no call had failed. -/
def allReturned (b : Broadcast) : Broadcast :=
  { b with ended := b.ended.map fun e => (e.1, .returned) }

variable (b : Broadcast)

theorem offer_of_room {b : Broadcast} (h : b.queue.length < b.capacity) (f : Frame) :
    b.offer f = { b with queue := b.queue ++ [f] } := if_pos h

theorem offer_of_full {b : Broadcast} (h : b.capacity ≤ b.queue.length) (f : Frame) :
    b.offer f = { b with dropped := b.dropped + 1 } := if_neg (Nat.not_lt.mpr h)

theorem take_eq : b.take = b ∨ ∃ f rest, b.inFlight = none ∧ b.queue = f :: rest ∧
    b.take = { b with queue := rest, inFlight := some f } := by
  unfold take
  split
  · next f rest hfree hqueue => exact Or.inr ⟨f, rest, hfree, hqueue, rfl⟩
  · exact Or.inl rfl

theorem finish_eq (outcome : HookOutcome) : b.finish outcome = b ∨ ∃ f, b.inFlight = some f ∧
    b.finish outcome = { b with inFlight := none, ended := b.ended ++ [(f, outcome)] } := by
  unfold finish
  split
  · next f hflight => exact Or.inr ⟨f, hflight, rfl⟩
  · exact Or.inl rfl

theorem frames_take : b.take.frames = b.frames := by
  rcases b.take_eq with h | ⟨f, rest, hfree, hqueue, h⟩
  · rw [h]
  · rw [h, frames, frames, hfree, hqueue]
    rfl

theorem frames_finish (outcome : HookOutcome) : (b.finish outcome).frames = b.frames := by
  rcases b.finish_eq outcome with h | ⟨f, hflight, h⟩
  · rw [h]
  · rw [h, frames, frames, hflight]
    simp

theorem offer_allReturned (f : Frame) : b.allReturned.offer f = (b.offer f).allReturned := by
  unfold offer allReturned
  dsimp only
  split <;> rfl

theorem take_allReturned : b.allReturned.take = b.take.allReturned := by
  unfold take allReturned
  dsimp only
  split <;> rfl

theorem finish_allReturned (outcome : HookOutcome) :
    b.allReturned.finish .returned = (b.finish outcome).allReturned := by
  unfold finish allReturned
  dsimp only
  split
  · simp
  · rfl

/-- If no call had failed, all frames that have ended would have been delivered. -/
theorem delivered_allReturned : b.allReturned.delivered = b.ended.map Prod.fst := by
  rw [delivered, allReturned, List.filter_eq_self.mpr, List.map_map]
  · rfl
  · intro e he
    obtain ⟨e', -, rfl⟩ := List.mem_map.mp he
    rfl

end Broadcast

/-- The same event, but a call that ends returns. -/
def CacheEvent.returning : CacheEvent → CacheEvent
  | .finish _ => .finish .returned
  | event => event

namespace Cache

/-! ### The frames of a run -/

/-- The frame of a write: its agent, and the snapshot that it returns. -/
def frame? (c : Cache) : CacheEvent → Option Frame
  | .store now agentId s => some ⟨agentId, (c.store now agentId s).2⟩
  | .merge now agentId u => some ⟨agentId, (c.merge now agentId u).2⟩
  | _ => none

/-- The frames of the writes of a run that find the cache in some condition, in their order. -/
def framesWhere (p : Cache → Bool) : Cache → List CacheEvent → List Frame :=
  emitted step fun c event => if p c then (c.frame? event).toList else []

/-- Whether somebody has subscribed. -/
def isHeard (c : Cache) : Bool := c.hook.isSome

/-- Whether somebody has subscribed and the queue has room. -/
def hasRoom (c : Cache) : Bool := c.hook.any fun b => decide (b.queue.length < b.capacity)

/-- Whether somebody has subscribed and the queue is full. -/
def isFull (c : Cache) : Bool := c.hook.any fun b => decide (b.capacity ≤ b.queue.length)

theorem framesWhere_cons (p : Cache → Bool) (c : Cache) (event : CacheEvent)
    (events : List CacheEvent) : framesWhere p c (event :: events) =
      (if p c then (c.frame? event).toList else []) ++ framesWhere p (c.step event) events := rfl

theorem length_framesWhere (c : Cache) (events : List CacheEvent) :
    (framesWhere hasRoom c events).length + (framesWhere isFull c events).length =
      (framesWhere isHeard c events).length := by
  induction events generalizing c with
  | nil => rfl
  | cons event events ih =>
    have hone : c.hasRoom = (c.isHeard && !c.isFull) := by
      unfold hasRoom isHeard isFull
      cases c.hook with
      | none => rfl
      | some b =>
        show decide (b.queue.length < b.capacity) = !decide (b.capacity ≤ b.queue.length)
        rw [← decide_not]
        exact decide_eq_decide.mpr Nat.not_le.symm
    have hfull : c.isFull = true → c.isHeard = true := by
      unfold isHeard isFull
      cases c.hook with
      | none => exact id
      | some b => exact fun _ => rfl
    have := ih (c.step event)
    simp only [framesWhere_cons, List.length_append, hone]
    cases hf : c.isFull with
    | true =>
      simp only [hfull hf, Bool.not_true, Bool.and_false, Bool.false_eq_true, if_false, if_true,
        List.length_nil]
      omega
    | false =>
      simp only [Bool.not_false, Bool.and_true, Bool.false_eq_true, if_false, List.length_nil]
      omega

variable {c : Cache} {event : CacheEvent}

/-- A write stores the snapshot of its frame, returns it and offers it. -/
theorem perform_of_frame? {f : Frame} (h : c.frame? event = some f) :
    c.perform event = (c.write f.agentId f.snapshot, .wrote f.snapshot) := by
  cases event with
  | store now agentId s =>
    obtain rfl := Option.some.inj h
    rfl
  | merge now agentId u =>
    obtain rfl := Option.some.inj h
    rfl
  | _ => cases h

/-! ### What a broadcast conveys -/

/-- What a cache has offered since the subscription is accepted or refused, and nothing before. -/
structure Conveys (c : Cache) (accepted refused : List Frame) : Prop where
  silent : c.hook = none → accepted = [] ∧ refused = []
  frames : ∀ b, c.hook = some b → b.frames = accepted
  dropped : ∀ b, c.hook = some b → b.dropped = refused.length
  bounded : ∀ b, c.hook = some b →
    b.capacity = c.broadcastCapacity ∧ b.queue.length ≤ b.capacity

variable {accepted refused : List Frame}

theorem Conveys.of_hook {b : Broadcast} (hb : c.hook = some b) (hframes : b.frames = accepted)
    (hdropped : b.dropped = refused.length) (hcapacity : b.capacity = c.broadcastCapacity)
    (hbounded : b.queue.length ≤ b.capacity) : c.Conveys accepted refused := by
  constructor
  · intro hnone
    rw [hb] at hnone
    cases hnone
  all_goals
    intro b' hb'
    obtain rfl := Option.some.inj (hb.symm.trans hb')
  · exact hframes
  · exact hdropped
  · exact ⟨hcapacity, hbounded⟩

theorem Conveys.write (h : c.Conveys accepted refused) (f : Frame) :
    (c.write f.agentId f.snapshot).Conveys (accepted ++ if c.hasRoom then [f] else [])
      (refused ++ if c.isFull then [f] else []) := by
  have hhook : (c.write f.agentId f.snapshot).hook = c.hook.map fun b => b.offer f := rfl
  unfold hasRoom isFull
  cases hb : c.hook with
  | none =>
    rw [hb] at hhook
    obtain ⟨haccepted, hrefused⟩ := h.silent hb
    rw [haccepted, hrefused]
    refine ⟨fun _ => ⟨rfl, rfl⟩, ?_, ?_, ?_⟩
    all_goals
      intro b hb'
      rw [hhook] at hb'
      cases hb'
  | some b =>
    rw [hb, Option.map_some] at hhook
    obtain ⟨hcapacity, hbounded⟩ := h.bounded b hb
    have hframes := h.frames b hb
    have hdropped := h.dropped b hb
    simp only [Option.any_some]
    by_cases hroom : b.queue.length < b.capacity
    · rw [Broadcast.offer_of_room hroom] at hhook
      rw [if_pos (decide_eq_true hroom), if_neg (by simpa using hroom), List.append_nil]
      refine .of_hook hhook ?_ hdropped hcapacity ?_
      · rw [← hframes]
        simp [Broadcast.frames]
      · rw [List.length_append, List.length_singleton]
        exact hroom
    · have hfull := Nat.le_of_not_lt hroom
      rw [Broadcast.offer_of_full hfull] at hhook
      rw [if_neg (by simpa using hroom), if_pos (decide_eq_true hfull), List.append_nil]
      refine .of_hook hhook hframes ?_ hcapacity hbounded
      rw [List.length_append, List.length_singleton, ← hdropped]

theorem Conveys.of_hook_eq (h : c.Conveys accepted refused) {c' : Cache} (hhook : c'.hook = c.hook)
    (hcapacity : c'.broadcastCapacity = c.broadcastCapacity) : c'.Conveys accepted refused := by
  obtain ⟨h₁, h₂, h₃, h₄⟩ := h
  constructor
  · rwa [hhook]
  · rwa [hhook]
  · rwa [hhook]
  · rwa [hhook, hcapacity]

/-- The dispatcher moves frames on, and the queue grows no longer by that. -/
theorem Conveys.dispatch (h : c.Conveys accepted refused) {move : Broadcast → Broadcast}
    (hframes : ∀ b, (move b).frames = b.frames) (hdropped : ∀ b, (move b).dropped = b.dropped)
    (hcapacity : ∀ b, (move b).capacity = b.capacity)
    (hqueue : ∀ b, (move b).queue.length ≤ b.queue.length) :
    Conveys { c with hook := c.hook.map move } accepted refused := by
  cases hb : c.hook with
  | none => exact h.of_hook_eq hb.symm rfl
  | some b =>
    obtain ⟨hc, hbounded⟩ := h.bounded b hb
    refine .of_hook rfl ((hframes b).trans (h.frames b hb)) ((hdropped b).trans (h.dropped b hb))
      ((hcapacity b).trans hc) ?_
    exact (hcapacity b).symm ▸ Nat.le_trans (hqueue b) hbounded

theorem Conveys.subscribe (h : c.Conveys accepted refused) :
    c.subscribe.1.Conveys accepted refused := by
  unfold Cache.subscribe
  split
  · exact h
  · next hnone =>
    obtain ⟨rfl, rfl⟩ := h.silent hnone
    exact .of_hook rfl rfl rfl rfl (Nat.zero_le _)

/-- **An event conveys its frame, if it has one.** -/
theorem Conveys.step (h : c.Conveys accepted refused) (event : CacheEvent) :
    (c.step event).Conveys (accepted ++ if c.hasRoom then (c.frame? event).toList else [])
      (refused ++ if c.isFull then (c.frame? event).toList else []) := by
  cases hf : c.frame? event with
  | some f =>
    rw [Cache.step, perform_of_frame? hf]
    exact h.write f
  | none =>
    simp only [Option.toList_none, ite_self, List.append_nil]
    cases event with
    | store | merge => cases hf
    | remove a => exact h.of_hook_eq rfl rfl
    | subscribe => exact h.subscribe
    | take =>
      refine h.dispatch Broadcast.frames_take ?_ ?_ ?_
      all_goals
        intro b
        rcases b.take_eq with h | ⟨f, rest, -, hqueue, h⟩ <;> simp [*]
    | finish outcome =>
      refine h.dispatch (fun b => b.frames_finish outcome) ?_ ?_ ?_
      all_goals
        intro b
        rcases b.finish_eq outcome with h | ⟨f, -, h⟩ <;> simp [h]

/-- **A run conveys the frames of its writes since the subscription.** -/
theorem conveys_run (historyCapacity broadcastCapacity : Nat) (events : List CacheEvent) :
    let c₀ := empty historyCapacity broadcastCapacity
    (c₀.run events).Conveys (framesWhere hasRoom c₀ events) (framesWhere isFull c₀ events) := by
  intro c₀
  induction events using List.reverseRecOn with
  | nil => exact ⟨fun _ => ⟨rfl, rfl⟩, nofun, nofun, nofun⟩
  | append_singleton events event ih =>
    rw [run_append, framesWhere, framesWhere, emitted_concat, emitted_concat]
    exact ih.step event

/-! ### What the subscriber never reaches -/

/-- The same cache without a subscriber. -/
def unheard (c : Cache) : Cache := { c with hook := none }

/-- The events of a run that are about an agent. -/
def agentEvents (events : List CacheEvent) : List CacheEvent :=
  events.filter fun e => e.agent?.isSome

theorem unheard_step (c : Cache) (event : CacheEvent) :
    (c.step event).unheard = if event.agent?.isSome then c.unheard.step event else c.unheard := by
  cases event with
  | subscribe =>
    show c.subscribe.1.unheard = c.unheard
    unfold Cache.subscribe
    split <;> rfl
  | _ => rfl

theorem frame?_unheard (c : Cache) (event : CacheEvent) :
    c.unheard.frame? event = c.frame? event := by
  cases event <;> rfl

theorem frame?_of_agent? {event : CacheEvent} (h : event.agent? = none) (c : Cache) :
    c.frame? event = none := by
  cases event with
  | store | merge => cases h
  | _ => rfl

/-- **Without a subscriber a cache would be the same, and return the same.** -/
theorem unheard_run (c : Cache) (events : List CacheEvent) :
    (c.run events).unheard = c.unheard.run (agentEvents events) ∧
      framesWhere (fun _ => true) c events =
        framesWhere (fun _ => true) c.unheard (agentEvents events) := by
  induction events generalizing c with
  | nil => exact ⟨rfl, rfl⟩
  | cons event events ih =>
    obtain ⟨hrun, hframes⟩ := ih (c.step event)
    rw [run_cons, hrun, framesWhere_cons, hframes, unheard_step]
    cases hagent : event.agent? with
    | some a =>
      have hkept : agentEvents (event :: events) = event :: agentEvents events :=
        List.filter_cons_of_pos (by rw [hagent]; rfl)
      rw [hkept, run_cons, framesWhere_cons, frame?_unheard]
      exact ⟨rfl, rfl⟩
    | none =>
      have hleft : agentEvents (event :: events) = agentEvents events :=
        List.filter_cons_of_neg (by simp [hagent])
      rw [hleft, frame?_of_agent? hagent]
      exact ⟨rfl, rfl⟩

/-- The same cache if no call of the hook had failed. -/
def allReturned (c : Cache) : Cache := { c with hook := c.hook.map Broadcast.allReturned }

theorem hook_allReturned (c : Cache) (move move' : Broadcast → Broadcast)
    (h : ∀ b, move b.allReturned = (move' b).allReturned) :
    c.allReturned.hook.map move = (c.hook.map move').map Broadcast.allReturned := by
  show (c.hook.map Broadcast.allReturned).map move = _
  rw [Option.map_map, Option.map_map]
  exact Option.map_congr fun b _ => h b

theorem write_allReturned (c : Cache) (agentId : String) (s : Snapshot) :
    c.allReturned.write agentId s = (c.write agentId s).allReturned :=
  congrArg (fun hook => { (c.write agentId s) with hook })
    (c.hook_allReturned _ _ fun b => b.offer_allReturned ⟨agentId, s⟩)

theorem allReturned_step (c : Cache) (event : CacheEvent) :
    c.allReturned.step event.returning = (c.step event).allReturned := by
  cases event with
  | store now a s => exact c.write_allReturned a _
  | merge now a u => exact c.write_allReturned a _
  | remove a => rfl
  | subscribe =>
    obtain ⟨historyCapacity, broadcastCapacity, current, history, hook⟩ := c
    cases hook <;> rfl
  | take =>
    exact congrArg (fun hook => { c with hook }) (c.hook_allReturned _ _ Broadcast.take_allReturned)
  | finish outcome =>
    exact congrArg (fun hook => { c with hook })
      (c.hook_allReturned (fun b => b.finish .returned) (fun b => b.finish outcome)
        fun b => b.finish_allReturned outcome)

/-- **A call that fails costs its own frame alone.** -/
theorem allReturned_run (c : Cache) (events : List CacheEvent) :
    c.allReturned.run (events.map CacheEvent.returning) = (c.run events).allReturned := by
  induction events generalizing c with
  | nil => rfl
  | cons event events ih => rw [List.map_cons, run_cons, allReturned_step, ih, run_cons]

/-- **Frames reach the subscriber in the order of their writes.** At any moment of any run, the
frames of the calls that have ended, the one in flight and those in the queue are those of the
writes that found room since the subscription, in the order of these writes. The queue is bounded,
and the writes that found it full are counted. A write returns the snapshot that it stores and that
its frame carries, and offers it once: with room the queue takes it, else only the count grows. If
no call had failed, nothing would differ but what is noted of the frames of the failed ones; without
a subscriber nothing would differ but the way to him. -/
theorem broadcasts_run (historyCapacity broadcastCapacity : Nat) (events : List CacheEvent)
    {b : Broadcast}
    (hb : ((empty historyCapacity broadcastCapacity).run events).hook = some b) :
    let c₀ := empty historyCapacity broadcastCapacity
    let c := c₀.run events
    b.ended.map Prod.fst ++ (b.inFlight.toList ++ b.queue) = framesWhere hasRoom c₀ events ∧
    b.queue.length ≤ max broadcastCapacity 1 ∧
    b.dropped = (framesWhere isFull c₀ events).length ∧
    (framesWhere hasRoom c₀ events).length + b.dropped = (framesWhere isHeard c₀ events).length ∧
    (∀ event f, c.frame? event = some f →
      (c.perform event).2 = .wrote f.snapshot ∧
      (c.step event).current? f.agentId = some f.snapshot ∧
      (c.step event).hook = some (if b.queue.length < max broadcastCapacity 1
        then { b with queue := b.queue ++ [f] } else { b with dropped := b.dropped + 1 })) ∧
    (c₀.run (events.map CacheEvent.returning) = { c with hook := some b.allReturned } ∧
      b.allReturned.delivered = b.ended.map Prod.fst) ∧
    c₀.run (agentEvents events) = { c with hook := none } ∧
    framesWhere (fun _ => true) c₀ (agentEvents events) =
      framesWhere (fun _ => true) c₀ events := by
  intro c₀ c
  have hconveys := conveys_run historyCapacity broadcastCapacity events
  have hdropped := hconveys.dropped b hb
  obtain ⟨hcapacity, hbounded⟩ := hconveys.bounded b hb
  have hmax : b.capacity = max broadcastCapacity 1 :=
    hcapacity.trans (run_capacities c₀ events).2
  obtain ⟨hquiet, hwritten⟩ := unheard_run c₀ events
  refine ⟨hconveys.frames b hb, hmax ▸ hbounded, hdropped, ?_, fun event f hf => ?_, ⟨?_, ?_⟩,
    ?_, ?_⟩
  · rw [hdropped]
    exact length_framesWhere c₀ events
  · rw [step, perform_of_frame? hf]
    refine ⟨rfl, (OrderedMap.get?_insert ..).trans (if_pos rfl), ?_⟩
    show c.hook.map (fun b => b.offer f) = _
    rw [hb, ← hmax]
    rfl
  · refine (allReturned_run c₀ events).trans ?_
    show { c with hook := c.hook.map Broadcast.allReturned } = _
    rw [hb]
    rfl
  · exact b.delivered_allReturned
  · exact hquiet.symm
  · exact hwritten.symm

/-- One frame is in flight and one queued when the third write finds the queue full; then the call
fails, and the second frame is taken. -/
theorem broadcasts_run_slow :
    let c := (empty 5 0).run [.store 1 "early" {}, .subscribe, .store 2 "a" {}, .take,
      .merge 3 "b" (.periodic {}), .store 4 "c" {}, .finish .failed, .take]
    ∃ b, c.hook = some b ∧
      (b.ended.map Prod.fst ++ (b.inFlight.toList ++ b.queue)).map Frame.agentId = ["a", "b"] ∧
      b.dropped = 1 ∧ b.delivered.map Frame.agentId = [] ∧
      b.allReturned.delivered.map Frame.agentId = ["a"] := by
  refine ⟨_, rfl, ?_⟩
  obtain ⟨hframes, -, hdropped, -, -, ⟨-, hdelivered⟩, -⟩ := broadcasts_run 5 0
    [.store 1 "early" {}, .subscribe, .store 2 "a" {}, .take, .merge 3 "b" (.periodic {}),
      .store 4 "c" {}, .finish .failed, .take] rfl
  rw [hframes, hdropped, hdelivered]
  exact ⟨rfl, rfl, rfl, rfl⟩

end Cache
end FleetTelemetry

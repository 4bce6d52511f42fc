/-
# Which agents are present

Of all requests only two kinds reach the cache: a report that is taken in, and a
request to forget an agent (`Service.handle_cases`). An agent is present after a
run if it has reported and has not been forgotten since (`present`). By that
alone go all the places where its presence shows: whether it is found, whether
it is among the agents and among the histories, whether its own history has
anything in it, and whether it can be forgotten (`Service.ShowsPresence`). They
are read from two maps, behind both of which there is one log per agent
(`Cache.Reads`).

A report is taken in when its body has been read. It is in the cache also if it
then has no answer, since its row does not fit.

Key definitions: `Request.report?`, `Request.dismissed?`, `Service.Visit`,
`Service.serve`, `present`, `Service.ShowsPresence`.
Key theorems: `Service.handle_cases`, `present_iff`, `Service.Keeps.handle`,
`Service.Keeps.shows`, `Service.presence_run`.
-/
import FleetTelemetry.Http.Handler
import FleetTelemetry.Proofs.AgentPath
import FleetTelemetry.Proofs.CacheLog

namespace FleetTelemetry

/-! ### What a request does to the cache -/

namespace Request

/-- The agent of a report that is taken in, and the report. -/
def report? (r : Request) : Option (String × Report) :=
  match r.method, Resource.ofPath? r.path with
  | .post, some (.report segment kind) =>
    match Percent.decode? segment, Service.announcesJson r, Service.reportOf r.body kind with
    | some agentId, true, .ok report => some (agentId, report)
    | _, _, _ => none
  | _, _ => none

/-- The agent that a report is about, if it is taken in. -/
def reported? (r : Request) : Option String := r.report?.map Prod.fst

/-- The agent that a request has forgotten. -/
def dismissed? (r : Request) : Option String :=
  match r.method, Resource.ofPath? r.path with
  | .delete, some (.agent segment) => Percent.decode? segment
  | _, _ => none

/-- Whether the number of snapshots that a request asks for can be read, if it asks for one. -/
def LimitReads (r : Request) : Prop :=
  (r.query.optional (Query.natural Word.size64) "limit").isSome = true

theorem isFor_of_report? {r : Request} {e : String × Report} (h : r.report? = some e) :
    ∃ segment kind, r.IsFor .post (.report segment kind) := by
  unfold report? at h
  split at h
  · next segment kind hm hp => exact ⟨segment, kind, hm, hp⟩
  · cases h

theorem dismissed?_of_report? {r : Request} {e : String × Report} (h : r.report? = some e) :
    r.dismissed? = none := by
  obtain ⟨segment, kind, hm, -⟩ := isFor_of_report? h
  unfold dismissed?
  rw [hm]

theorem isFor_of_dismissed? {r : Request} {agentId : String} (h : r.dismissed? = some agentId) :
    ∃ segment, r.IsFor .delete (.agent segment) := by
  unfold dismissed? at h
  split at h
  · next segment hm hp => exact ⟨segment, hm, hp⟩
  · cases h

theorem reported?_of_dismissed? {r : Request} {agentId : String} (h : r.dismissed? = some agentId) :
    r.reported? = none := by
  obtain ⟨segment, hm, -⟩ := isFor_of_dismissed? h
  unfold reported? report?
  rw [hm]
  rfl

end Request

namespace Service

/-- What a request does: it takes a report in, has an agent forgotten, or changes nothing. -/
inductive Handled (s : Service) (now : Int) (r : Request) : Service × Option Response → Prop where
  | reported (agentId : String) (report : Report) (hr : r.report? = some (agentId, report)) :
    Handled s now r ((s.receive now agentId report).1,
      (s.receive now agentId report).2.map fun snapshot => .ok (Wire.write snapshot))
  | dismissed (agentId : String) (hr : r.dismissed? = some agentId) :
    Handled s now r ((s.disconnect agentId).1,
      some (if (s.disconnect agentId).2 then .bare 204
        else (ApiError.agentNotFound agentId).response))
  | nothing (response : Response) (hreport : r.report? = none) (hdismissed : r.dismissed? = none) :
    Handled s now r (s, some response)

theorem accept_cases (s : Service) (now : Int) (r : Request) {segment : List Char}
    {kind : ReportKind} (hr : r.IsFor .post (.report segment kind)) :
    Handled s now r (s.accept now r segment kind) := by
  obtain ⟨hm, hp⟩ := hr
  have hdismissed : r.dismissed? = none := by
    unfold Request.dismissed?
    rw [hm]
  have hreport : r.report? =
      match Percent.decode? segment, announcesJson r, reportOf r.body kind with
      | some agentId, true, .ok report => some (agentId, report)
      | _, _, _ => none := by
    unfold Request.report?
    rw [hm, hp]
  unfold accept
  cases hid : Percent.decode? segment with
  | none => exact .nothing _ (by rw [hreport, hid]) hdismissed
  | some agentId =>
    dsimp only
    cases hjson : announcesJson r with
    | false => exact .nothing _ (by rw [hreport, hid, hjson]) hdismissed
    | true =>
      cases hbody : reportOf r.body kind with
      | error fault =>
        have hnone : r.report? = none := by rw [hreport, hid, hjson, hbody]
        cases fault <;> exact .nothing _ hnone hdismissed
      | ok report => exact .reported agentId report (by rw [hreport, hid, hjson, hbody])

theorem forget_cases (s : Service) (now : Int) (r : Request) {segment : List Char}
    (hr : r.IsFor .delete (.agent segment)) :
    Handled s now r ((s.forget segment).1, some (s.forget segment).2) := by
  obtain ⟨hm, hp⟩ := hr
  have hreport : r.report? = none := by
    unfold Request.report?
    rw [hm]
  have hdismissed : r.dismissed? = Percent.decode? segment := by
    unfold Request.dismissed?
    rw [hm, hp]
  unfold forget
  cases hid : Percent.decode? segment with
  | none => exact .nothing _ hreport (hdismissed.trans hid)
  | some agentId =>
    have hhandled : Handled s now r ((s.disconnect agentId).1, _) :=
      .dismissed agentId (hdismissed.trans hid)
    dsimp only
    cases hknown : s.disconnect agentId with
    | mk s' known =>
      rw [hknown] at hhandled
      cases known <;> exact hhandled

theorem handle_delete (s : Service) (now : Int) {r : Request} {segment : List Char}
    (hr : r.IsFor .delete (.agent segment)) :
    s.handle now r = ((s.forget segment).1, some (s.forget segment).2) := by
  unfold handle
  rw [hr.1, hr.2]
  rfl

/-- Any other request is answered from what is there. -/
theorem handle_readonly (s : Service) (now : Int) {r : Request}
    (hpost : ∀ segment kind, ¬ r.IsFor .post (.report segment kind))
    (hdelete : ∀ segment, ¬ r.IsFor .delete (.agent segment)) :
    ∃ response, s.handle now r = (s, some response) := by
  unfold handle
  split
  · exact ⟨_, rfl⟩
  · exact ⟨_, rfl⟩
  · split
    · exact ⟨_, rfl⟩
    · split
      · next segment kind hm hp _ => exact absurd ⟨hm, hp⟩ (hpost segment kind)
      · next segment hm hp _ => exact absurd ⟨hm, hp⟩ (hdelete segment)
      · exact ⟨_, rfl⟩
      · exact ⟨_, rfl⟩

/-- **Only reports and dismissals reach the cache.** -/
theorem handle_cases (s : Service) (now : Int) (r : Request) :
    Handled s now r (s.handle now r) := by
  by_cases hpost : ∃ segment kind, r.IsFor .post (.report segment kind)
  · obtain ⟨segment, kind, hr⟩ := hpost
    have hhandle : s.handle now r = s.accept now r segment kind := by
      unfold handle
      rw [hr.1, hr.2]
      rfl
    exact hhandle ▸ accept_cases s now r hr
  · by_cases hdelete : ∃ segment, r.IsFor .delete (.agent segment)
    · obtain ⟨segment, hr⟩ := hdelete
      exact s.handle_delete now hr ▸ forget_cases s now r hr
    · obtain ⟨response, hhandle⟩ := s.handle_readonly now
        (fun segment kind h => hpost ⟨segment, kind, h⟩) fun segment h => hdelete ⟨segment, h⟩
      rw [hhandle]
      refine .nothing response ?_ ?_
      · exact Option.eq_none_iff_forall_ne_some.mpr fun _ h => hpost (Request.isFor_of_report? h)
      · exact Option.eq_none_iff_forall_ne_some.mpr fun _ h =>
          hdelete (Request.isFor_of_dismissed? h)

/-- A request, the instant at which it is answered, and what is behind the cache by then: rows are
saved, rolled up and cleaned up in between, and the channel is drained. -/
structure Visit where
  now : Int
  request : Request
  store : Store Float := {}
  channel : Option (RecordChannel Float) := none

/-- A service as a request finds it. -/
def amid (s : Service) (store : Store Float) (channel : Option (RecordChannel Float)) : Service :=
  { s with store, channel }

/-- A service after some requests. -/
def serve (s : Service) (visits : List Visit) : Service :=
  visits.foldl (fun s v => ((s.amid v.store v.channel).handle v.now v.request).1) s

end Service

/-! ### Presence -/

/-- Whether an agent is present after a request. -/
def Request.leaves (r : Request) (agentId : String) (there : Bool) : Bool :=
  decide (r.reported? = some agentId) || (there && decide (r.dismissed? ≠ some agentId))

/-- Whether an agent is present after some requests. -/
def present (agentId : String) (requests : List Request) : Bool :=
  requests.foldl (fun there r => r.leaves agentId there) false

theorem present_concat (agentId : String) (requests : List Request) (r : Request) :
    present agentId (requests ++ [r]) = r.leaves agentId (present agentId requests) := by
  rw [present, List.foldl_append]
  rfl

/-- **An agent is present if it has reported and has not been dismissed since.** -/
theorem present_iff (agentId : String) (requests : List Request) :
    present agentId requests = true ↔ ∃ before r after, requests = before ++ r :: after ∧
      r.reported? = some agentId ∧ ∀ later ∈ after, later.dismissed? ≠ some agentId := by
  induction requests using List.reverseRecOn with
  | nil => simp [present]
  | append_singleton requests last ih =>
    rw [present_concat, Request.leaves, Bool.or_eq_true, decide_eq_true_eq, Bool.and_eq_true,
      decide_eq_true_eq, ih]
    constructor
    · rintro (hlast | ⟨⟨before, r, after, rfl, hr, hafter⟩, hkept⟩)
      · exact ⟨requests, last, [], rfl, hlast, fun _ h => by cases h⟩
      · refine ⟨before, r, after ++ [last], by simp, hr, fun later hlater => ?_⟩
        rcases List.mem_append.mp hlater with hlater | hlater
        · exact hafter later hlater
        · exact List.mem_singleton.mp hlater ▸ hkept
    · rintro ⟨before, r, after, heq, hr, hafter⟩
      rcases List.eq_nil_or_concat after with rfl | ⟨after, last', rfl⟩
      · obtain ⟨-, hlast⟩ := List.append_inj' heq rfl
        obtain rfl := List.singleton_inj.mp hlast
        exact .inl hr
      · rw [List.concat_eq_append, ← List.cons_append, ← List.append_assoc] at heq
        obtain ⟨rfl, hlast⟩ := List.append_inj' heq rfl
        obtain rfl := List.singleton_inj.mp hlast
        refine .inr ⟨⟨before, r, after, rfl, hr, fun later hlater => ?_⟩, ?_⟩
        · exact hafter later (by simp [hlater])
        · exact hafter last (by simp)

namespace Service

/-- The two maps of a service are the ends of logs, which are empty for those agents that are not
there. -/
structure Keeps (s : Service) (there : String → Bool) (log : String → List Snapshot) : Prop where
  reads : s.cache.Reads log
  logs : ∀ a, there a = (!(log a).isEmpty)
  capacity : 0 < s.cache.historyCapacity

theorem receive_cache (s : Service) (now : Int) (agentId : String) (report : Report) :
    (s.receive now agentId report).1.cache = s.cache.write agentId
      (cacheReport s.cache now agentId report).2 := by
  rw [← cacheReport_eq]
  unfold receive
  dsimp only
  split
  · rfl
  · split <;> rfl

variable {s : Service} {there : String → Bool} {log : String → List Snapshot}

/-- **Presence goes by what each request reports and dismisses.** -/
theorem Keeps.handle (h : s.Keeps there log) (now : Int) (r : Request) :
    ∃ log, (s.handle now r).1.Keeps (fun a => r.leaves a (there a)) log := by
  have hhandled := s.handle_cases now r
  generalize s.handle now r = result at hhandled
  cases hhandled with
  | reported agentId report hr =>
    have hreported : r.reported? = some agentId := congrArg (Option.map Prod.fst) hr
    have hdismissed := Request.dismissed?_of_report? hr
    have hcache := s.receive_cache now agentId report
    refine ⟨_, hcache ▸ h.reads.write agentId _, fun a => ?_, hcache ▸ h.capacity⟩
    rw [Request.leaves, hreported, hdismissed, h.logs]
    by_cases ha : agentId = a <;> simp [ha]
  | dismissed agentId hr =>
    have hreported := Request.reported?_of_dismissed? hr
    refine ⟨_, h.reads.remove agentId, fun a => ?_, h.capacity⟩
    rw [Request.leaves, hreported, hr, h.logs]
    by_cases ha : agentId = a <;> simp [ha]
  | nothing response hreport hdismissed =>
    refine ⟨log, h.reads, fun a => ?_, h.capacity⟩
    simp [Request.leaves, Request.reported?, hreport, hdismissed, h.logs]

theorem Keeps.amid (h : s.Keeps there log) (store : Store Float)
    (channel : Option (RecordChannel Float)) : (s.amid store channel).Keeps there log :=
  ⟨h.reads, h.logs, h.capacity⟩

theorem Keeps.serve (visits : List Visit) (h : s.Keeps (fun _ => false) log) :
    ∃ log, (s.serve visits).Keeps (fun a => present a (visits.map Visit.request)) log := by
  induction visits using List.reverseRecOn with
  | nil => exact ⟨log, h⟩
  | append_singleton visits v ih =>
    obtain ⟨log, ih⟩ := ih
    obtain ⟨log, hlast⟩ := (ih.amid v.store v.channel).handle v.now v.request
    refine ⟨log, ?_⟩
    simp only [List.map_append, List.map_cons, List.map_nil, present_concat]
    rw [Service.serve, List.foldl_append]
    exact hlast

/-! ### Where presence shows -/

/-- A request that may get a resource is answered with it. -/
theorem handle_get (s : Service) (now : Int) {r : Request} {resource : Resource}
    (hr : r.IsFor .get resource) (hallowed : resource.allows .get = true) :
    s.handle now r = (s, some (s.fetch r.query resource)) := by
  unfold handle
  rw [hr.1, hr.2]
  dsimp only
  rw [hallowed]
  rfl

/-- All the places where it shows whether an agent is present. -/
structure ShowsPresence (s : Service) (agentId : String) (there : Bool) : Prop where
  /-- It is found. -/
  found : ∀ now r segment, r.IsFor .get (.agent segment) → Percent.decode? segment = some agentId →
    (s.handle now r).2.map Response.status = some (if there then 200 else 404)
  /-- It is one of the agents. -/
  listed : ∀ now r, r.IsFor .get .agents →
    ∃ body, (s.handle now r).2 = some (.ok body) ∧ (body.member? agentId).isSome = there
  /-- Its history is one of the histories. -/
  inHistories : ∀ now r, r.IsFor .get .histories → r.LimitReads →
    ∃ body, (s.handle now r).2 = some (.ok body) ∧ (body.member? agentId).isSome = there
  /-- There is something in its history. -/
  inHistory : ∀ now r segment, r.IsFor .get (.view segment .history) →
    Percent.decode? segment = some agentId → r.LimitReads →
    ∃ items, (s.handle now r).2 = some (.ok (.arr items)) ∧ items.isEmpty = !there
  /-- It can be forgotten. -/
  forgotten : ∀ now r segment, r.IsFor .delete (.agent segment) →
    Percent.decode? segment = some agentId →
    (s.handle now r).2.map Response.status = some (if there then 204 else 404)

theorem member?_ofMembers {β : Type} (key : String) (entries : List (String × β)) (f : β → Json) :
    (Json.ofMembers (entries.map fun e => (e.1, f e.2))).member? key =
      (entries.lookup key).map f := by
  unfold Json.member? Json.ofMembers
  dsimp only
  induction entries with
  | nil => rfl
  | cons e entries ih =>
    obtain ⟨k, b⟩ := e
    by_cases hk : k = key
    · subst hk
      simp
    · have hne : (key == k) = false := beq_eq_false_iff_ne.mpr (Ne.symm hk)
      simp only [List.map_cons, List.lookup_cons, hne, ← ih]
      rw [List.find?_cons_of_neg (by simpa using hk)]

theorem lastEntries_isEmpty {β : Type} (limit : Nat) (entries : List β) :
    (lastEntries limit entries).isEmpty = entries.isEmpty := by
  unfold lastEntries
  split
  · rfl
  · next hlimit =>
    rw [Bool.eq_iff_iff, List.isEmpty_iff, List.isEmpty_iff, List.drop_eq_nil_iff]
    cases entries with
    | nil => simp
    | cons e entries => simp; omega

theorem Keeps.contains (h : s.Keeps there log) (agentId : String) :
    (s.cache.current.get? agentId).isSome = there agentId ∧
      (s.cache.history.get? agentId).isSome = there agentId := by
  rw [h.reads.current, h.reads.history, h.logs]
  constructor
  · cases log agentId with
    | nil => rfl
    | cons snapshot rest => rw [List.getLast?_cons]; rfl
  · split
    · next hnil => rw [hnil]; rfl
    · next hne => cases hlog : log agentId with
      | nil => exact absurd hlog hne
      | cons snapshot rest => rfl

theorem Keeps.historyOf_isEmpty (h : s.Keeps there log) (agentId : String) (limit : Nat) :
    (s.cache.historyOf agentId limit).isEmpty = !there agentId := by
  rw [Cache.historyOf, lastEntries_isEmpty, h.reads.historyOf, h.logs, Bool.not_not]
  have hcapacity := h.capacity
  rw [Bool.eq_iff_iff, List.isEmpty_iff, List.isEmpty_iff, List.rtake, List.drop_eq_nil_iff]
  constructor
  · intro hle
    exact List.length_eq_zero_iff.mp (by omega)
  · intro hnil
    rw [hnil]
    exact Nat.zero_le _

theorem Keeps.disconnect_known (h : s.Keeps there log) (agentId : String) :
    (s.disconnect agentId).2 = there agentId := by
  obtain ⟨hcurrent, hhistory⟩ := h.contains agentId
  show ((s.cache.current.get? agentId).isSome || (s.cache.history.get? agentId).isSome) = _
  rw [hcurrent, hhistory, Bool.or_self]

/-- **Presence shows in all places alike.** -/
theorem Keeps.shows (h : s.Keeps there log) (agentId : String) :
    s.ShowsPresence agentId (there agentId) where
  found now r segment hr hid := by
    rw [handle_get s now hr rfl]
    have hcurrent := (h.contains agentId).1
    simp only [fetch, hid, Cache.current?]
    cases hget : s.cache.current.get? agentId with
    | none =>
      rw [hget] at hcurrent
      rw [← hcurrent]
      rfl
    | some snapshot =>
      rw [hget] at hcurrent
      rw [← hcurrent]
      rfl
  listed now r hr := by
    rw [handle_get s now hr rfl]
    refine ⟨_, rfl, ?_⟩
    rw [member?_ofMembers, Option.isSome_map]
    exact (h.contains agentId).1
  inHistories now r hr hlimit := by
    obtain ⟨limit, hlimit⟩ := Option.isSome_iff_exists.mp hlimit
    rw [handle_get s now hr rfl]
    simp only [fetch, hlimit]
    refine ⟨_, rfl, ?_⟩
    rw [member?_ofMembers, Option.isSome_map, Cache.allHistory, OrderedMap.lookup_map_snd,
      Option.isSome_map]
    exact (h.contains agentId).2
  inHistory now r segment hr hid hlimit := by
    obtain ⟨limit, hlimit⟩ := Option.isSome_iff_exists.mp hlimit
    rw [handle_get s now hr rfl]
    simp only [fetch, hid, view, hlimit]
    refine ⟨_, rfl, ?_⟩
    rw [List.isEmpty_map]
    exact h.historyOf_isEmpty agentId _
  forgotten now r segment hr hid := by
    rw [s.handle_delete now hr, ← h.disconnect_known]
    simp only [forget, hid]
    rcases s.disconnect agentId with ⟨s', _ | _⟩ <;> rfl

/-- The agents that are there are counted, each once. -/
theorem Keeps.agentCount (h : s.Keeps there log) (now : Int) {r : Request}
    (hr : r.IsFor .get .summary) :
    ∃ (body : Json) (ids : List String), (s.handle now r).2 = some (.ok body) ∧ ids.Nodup ∧
      (∀ a, a ∈ ids ↔ there a = true) ∧ body.member? "agentCount" = some (.int ids.length) := by
  refine ⟨_, s.cache.current.keys, congrArg Prod.snd (handle_get s now hr rfl),
    h.reads.nodupCurrent, fun a => ?_, ?_⟩
  · rw [OrderedMap.mem_keys_iff, (h.contains a).1]
  · rw [OrderedMap.keys, List.length_map]
    rfl

/-- A request that is not granted changes the presence of none. -/
theorem Keeps.leaves_of_refused (h : s.Keeps there log) {now : Int} {r : Request}
    {response : Response} (hresponse : (s.handle now r).2 = some response)
    (hrefused : 400 ≤ response.status) (a : String) : r.leaves a (there a) = there a := by
  have hhandled := s.handle_cases now r
  generalize s.handle now r = result at hhandled hresponse
  cases hhandled with
  | reported agentId report hr =>
    obtain ⟨snapshot, -, rfl⟩ := Option.map_eq_some_iff.mp hresponse
    exact absurd (show 400 ≤ 200 from hrefused) (by decide)
  | dismissed agentId hr =>
    -- an agent that is not known was not there
    have hunknown : there agentId = false := by
      rw [← h.disconnect_known]
      cases hknown : (s.disconnect agentId).2 with
      | false => rfl
      | true =>
        rw [hknown, if_pos rfl] at hresponse
        rw [← Option.some.inj hresponse] at hrefused
        exact absurd hrefused (by decide)
    rw [Request.leaves, Request.reported?_of_dismissed? hr, hr]
    by_cases ha : agentId = a
    · subst ha
      simp [hunknown]
    · simp [ha]
  | nothing response hreport hdismissed =>
    simp [Request.leaves, Request.reported?, hreport, hdismissed]

/-- **Presence over any run of requests.** A service starts with an empty cache and answers any
requests, whatever is saved and cleaned up behind the cache meanwhile. After each of them every
agent is present in all places or in none: present if it has reported and has not been dismissed
since. The count of the agents is that of the present ones. What is not a report and dismisses
nobody changes nothing, a request that is refused changes the presence of nobody, and a request
about other agents does not change that of an agent. Every agent can be asked for and forgotten but
the one whose identifier is empty: it can report, yet no path names it there. -/
theorem presence_run (historyCapacity broadcastCapacity : Nat) (hook : Option Broadcast)
    (visits : List Visit) (store : Store Float) (channel : Option (RecordChannel Float)) :
    let cache := { Cache.empty historyCapacity broadcastCapacity with hook }
    let s := (({ cache } : Service).serve visits).amid store channel
    let rs := visits.map Visit.request
    (∀ id, s.ShowsPresence id (present id rs)) ∧
    (∀ id, present id rs = true ↔ ∃ before r after, rs = before ++ r :: after ∧
      r.reported? = some id ∧ ∀ later ∈ after, later.dismissed? ≠ some id) ∧
    (∀ now r, r.IsFor .get .summary →
      ∃ (body : Json) (ids : List String), (s.handle now r).2 = some (.ok body) ∧ ids.Nodup ∧
        (∀ id, id ∈ ids ↔ present id rs = true) ∧
        body.member? "agentCount" = some (.int ids.length)) ∧
    (∀ now r, r.method ≠ .post → r.method ≠ .delete → (s.handle now r).1 = s) ∧
    (∀ now r response, (s.handle now r).2 = some response → 400 ≤ response.status →
      ∀ id, present id (rs ++ [r]) = present id rs) ∧
    (∀ r id, r.reported? ≠ some id → r.dismissed? ≠ some id →
      present id (rs ++ [r]) = present id rs) ∧
    (∀ method id, (∃ (r : Request) (segment : List Char),
      r.IsFor method (.agent segment) ∧ Percent.decode? segment = some id) ↔ id ≠ "") ∧
    ∀ now r, r.path = "/api/agents/".toList → r.method ≠ .options →
      (s.handle now r).2.map Response.status = some 404 := by
  intro cache s rs
  have hempty : Keeps { cache } (fun _ => false) fun _ => [] :=
    ⟨(Cache.reads_empty historyCapacity broadcastCapacity).congr rfl rfl rfl, fun _ => rfl,
      Nat.le_max_right _ _⟩
  obtain ⟨log, hserved⟩ := hempty.serve visits
  have h : s.Keeps (fun a => present a rs) log := hserved.amid store channel
  refine ⟨h.shows, fun id => present_iff id rs, fun now r hr => h.agentCount now hr,
    fun now r hpost hdelete => ?_, fun now r response hresponse hrefused id => ?_,
    fun r id hreported hdismissed => ?_, Resource.exists_ofPath?_agent_iff, fun now r hp hm => ?_⟩
  · obtain ⟨response, hhandle⟩ := s.handle_readonly now (fun _ _ hr => hpost hr.1)
      fun _ hr => hdelete hr.1
    rw [hhandle]
  · rw [present_concat]
    exact h.leaves_of_refused hresponse hrefused id
  · rw [present_concat]
    simp [Request.leaves, hreported, hdismissed]
  · have hnowhere : Resource.ofPath? r.path = none := hp ▸ rfl
    unfold handle
    rw [hnowhere]
    cases hmethod : r.method with
    | options => exact absurd hmethod hm
    | _ => rfl

/-- The agent without an identifier reports and is listed, and is not found. -/
theorem emptyId_listed_notFound :
    let request (method : Method) (target : String) : Request :=
      { method, target, contentType := some "application/json", body := ⟨.obj [], true⟩ }
    let s := ({ cache := Cache.empty 1 1 } : Service).serve
      [{ now := 0, request := request .post "/api/agents//metrics" }]
    (∃ body, (s.handle 0 (request .get "/api/agents")).2 = some (.ok body) ∧
      (body.member? "").isSome = true) ∧
    (s.handle 0 (request .get "/api/agents/")).2.map Response.status = some 404 ∧
    (s.handle 0 (request .delete "/api/agents/")).2.map Response.status = some 404 := by
  exact ⟨⟨_, rfl, by decide +kernel⟩, by decide +kernel, by decide +kernel⟩

end Service
end FleetTelemetry

/-
# Answers to requests

A request is answered from the live cache or the store, or takes a report in.
What it asks for is looked at from left to right: the path, the method, the
agent, the query, the kind of the body, the body. Only a request in which all
of that is right has an effect.

Key definitions: `Response`, `ApiError`, `Service.handle`.
-/
import FleetTelemetry.Http.MediaType
import FleetTelemetry.Http.Route
import FleetTelemetry.Service
import FleetTelemetry.Store.Query
import FleetTelemetry.Wire.Record
import FleetTelemetry.Wire.Update

namespace FleetTelemetry

/-- A status with a JSON body, if there is one. -/
structure Response where
  status : Nat
  body : Option Json := none

/-- Why a request that was understood is not fulfilled. -/
inductive ApiError where
  | agentNotFound (agentId : String)
  | invalidRange (first last : Int)
  /-- The store failed; the answer does not say how. -/
  | internal

namespace ApiError

/-- The status that tells of an error. -/
def status : ApiError → Nat
  | agentNotFound _ => 404
  | invalidRange .. => 400
  | internal => 500

/-- What the answer says of an error, if anything. -/
def message? : ApiError → Option String
  | agentNotFound agentId => some ("agent " ++ agentId ++ " not found")
  | invalidRange first last =>
    some ("invalid range: start " ++ toString first ++ " is after end " ++ toString last)
  | internal => none

/-- The answer to a request that fails. -/
def response (e : ApiError) : Response where
  status := e.status
  body := e.message?.map fun m => .ofMembers [("error", .str m)]

end ApiError

namespace Response

/-- A success. -/
def ok (body : Json) : Response := ⟨200, some body⟩

/-- A status alone. -/
def bare (status : Nat) : Response := ⟨status, none⟩

/-- Only the status. -/
def withoutBody (r : Response) : Response := bare r.status

end Response

/-- The name and version of the program. -/
def programVersion : Json :=
  .ofMembers [("name", .str "fleetstat"), ("version", .str "0.1.0")]

namespace Service

/-- The answer of the store, or the failure of the server. -/
def storeAnswer {β : Type} [Wire β] : Except StoreError β → Response
  | .ok b => .ok (Wire.write b)
  | .error _ => ApiError.internal.response

/-- The window that a query asks for; its ends have to be there and in order. -/
def window (q : Query) (answer : Int → Int → Response) : Response :=
  match q.required Query.instant "start", q.required Query.instant "end" with
  | some first, some last =>
    if last < first then (ApiError.invalidRange first last).response else answer first last
  | _, _ => .bare 400

/-- What can be read of an agent. -/
def view (s : Service) (agentId : String) (q : Query) : AgentView → Response
  | .history =>
    match q.optional (Query.natural Word.size64) "limit" with
    | some limit => .ok (Wire.write (s.cache.historyOf agentId (limit.getD 0)))
    | none => .bare 400
  | .range =>
    match q.optional (Query.natural Word.size32) "limit" with
    | some limit =>
      window q fun first last => .ok (Wire.write (s.store.range agentId first last (limit.getD 0)))
    | none => .bare 400
  | .aggregated =>
    match q.optional Query.text "interval" with
    | some interval =>
      window q fun first last => .ok (Wire.write (s.store.aggregated agentId first last interval))
    | none => .bare 400
  | .hourly => window q fun first last => storeAnswer (s.store.hourly agentId first last)
  | .daily => window q fun first last => storeAnswer (s.store.daily agentId first last)

/-- What can be read. -/
def fetch (s : Service) (q : Query) : Resource → Response
  | .version => .ok programVersion
  | .summary => .ok s.cache.summary.toJson
  | .agents => .ok (.ofMembers (s.cache.current.entries.map fun e => (e.1, Wire.write e.2)))
  | .histories =>
    match q.optional (Query.natural Word.size64) "limit" with
    | some limit =>
      .ok (.ofMembers ((s.cache.allHistory (limit.getD 0)).map fun e => (e.1, Wire.write e.2)))
    | none => .bare 400
  | .agent segment =>
    match Percent.decode? segment with
    | none => .bare 400
    | some agentId =>
      match s.cache.current? agentId with
      | some snapshot => .ok (Wire.write snapshot)
      | none => (ApiError.agentNotFound agentId).response
  | .view segment v =>
    match Percent.decode? segment with
    | none => .bare 400
    | some agentId => s.view agentId q v
  | .report .. => .bare 405

/-- Forgets an agent. -/
def forget (s : Service) (segment : List Char) : Service × Response :=
  match Percent.decode? segment with
  | none => (s, .bare 400)
  | some agentId =>
    match s.disconnect agentId with
    | (s, true) => (s, .bare 204)
    | (s, false) => (s, (ApiError.agentNotFound agentId).response)

/-- The report in the body of a request. -/
def reportOf (body : Json.Document) : ReportKind → Except Json.Fault Report
  | .metrics => (Wire.ofDocument body).map .full
  | .realtime => (Wire.ofDocument body).map fun u => .update (.realtime u)
  | .static => (Wire.ofDocument body).map fun u => .update (.static u)
  | .periodic => (Wire.ofDocument body).map fun u => .update (.periodic u)

/-- Whether a request says that its body is JSON. -/
def announcesJson (r : Request) : Bool :=
  ((r.contentType.bind fun t => MediaType.ofChars? t.toList).map MediaType.isJson).getD false

/-- Takes the report of a request in. There is no answer if the report fails on the way. -/
def accept (s : Service) (now : Int) (r : Request) (segment : List Char) (kind : ReportKind) :
    Service × Option Response :=
  match Percent.decode? segment with
  | none => (s, some (.bare 400))
  | some agentId =>
    if !announcesJson r then (s, some (.bare 415))
    else
      match reportOf r.body kind with
      | .error .malformed => (s, some (.bare 400))
      | .error .mismatch => (s, some (.bare 422))
      | .ok report =>
        let (s, snapshot) := s.receive now agentId report
        (s, snapshot.map fun snapshot => .ok (Wire.write snapshot))

/-- Answers a request. Whoever asks for the options of anything may have them. -/
def handle (s : Service) (now : Int) (r : Request) : Service × Option Response :=
  match r.method, Resource.ofPath? r.path with
  | .options, _ => (s, some (.bare 200))
  | _, none => (s, some (.bare 404))
  | method, some resource =>
    if !resource.allows method then (s, some (.bare 405))
    else
      match method, resource with
      | .post, .report segment kind => s.accept now r segment kind
      | .delete, .agent segment =>
        let (s, response) := s.forget segment
        (s, some response)
      | .head, resource => (s, some (s.fetch r.query resource).withoutBody)
      | _, resource => (s, some (s.fetch r.query resource))

end Service
end FleetTelemetry

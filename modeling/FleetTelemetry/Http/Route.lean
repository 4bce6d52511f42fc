/-
# Routes

What a request is about follows from its path alone, and with its method what
it asks for. An agent is named by one segment of the path, which is decoded
after the path has been cut. The segment may be empty only if another follows.

Key definitions: `Method`, `Request`, `Resource`, `Resource.ofPath?`,
`Resource.allows`, `Request.path`, `Request.query`.
-/
import FleetTelemetry.Http.Query
import FleetTelemetry.Text.Json

namespace FleetTelemetry

/-- The methods of requests; `other` is one that nothing allows. -/
inductive Method where
  | get
  | head
  | post
  | delete
  | options
  | other
  deriving DecidableEq, Repr

/-- The method with a name. -/
def Method.ofName (name : String) : Method :=
  match name with
  | "GET" => .get
  | "HEAD" => .head
  | "POST" => .post
  | "DELETE" => .delete
  | "OPTIONS" => .options
  | _ => .other

/-- A request. The target is a path with a query behind a question mark. -/
structure Request where
  method : Method
  target : String
  contentType : Option String
  body : Json.Document

namespace Request

/-- The target without a fragment, cut at its question mark. -/
def targetParts (r : Request) : List Char × List Char :=
  Parts.cutAt '?' (r.target.toList.takeWhile (· ≠ '#'))

/-- The path of the target, still encoded. -/
def path (r : Request) : List Char := r.targetParts.1

/-- The parameters in the target. -/
def query (r : Request) : Query := .ofChars r.targetParts.2

end Request

/-- What of an agent can be read over a window or a number of snapshots. -/
inductive AgentView where
  | history
  | range
  | aggregated
  | hourly
  | daily
  deriving DecidableEq, Repr

/-- What an agent can send. -/
inductive ReportKind where
  | metrics
  | realtime
  | static
  | periodic
  deriving DecidableEq, Repr

/-- What a path names. The segment that names an agent is still encoded. -/
inductive Resource where
  | version
  | summary
  | agents
  | histories
  | agent (segment : List Char)
  | view (segment : List Char) (v : AgentView)
  | report (segment : List Char) (kind : ReportKind)
  deriving DecidableEq

namespace Resource

/-- What the last segment behind an agent names. -/
def ofAgentPart? (segment : List Char) (part : String) : Option Resource :=
  match part with
  | "history" => some (.view segment .history)
  | "range" => some (.view segment .range)
  | "aggregated" => some (.view segment .aggregated)
  | "hourly" => some (.view segment .hourly)
  | "daily" => some (.view segment .daily)
  | "metrics" => some (.report segment .metrics)
  | "realtime" => some (.report segment .realtime)
  | "static" => some (.report segment .static)
  | "periodic" => some (.report segment .periodic)
  | _ => none

/-- What the segments of a path name. -/
def ofSegments? : List (List Char) → Option Resource
  | [[], a] => if a = "version".toList then some .version else none
  | [[], api, a] =>
    if api ≠ "api".toList then none
    else
      match String.ofList a with
      | "summary" => some .summary
      | "agents" => some .agents
      | "history" => some .histories
      | _ => none
  | [[], api, fleet, segment] =>
    if api = "api".toList ∧ fleet = "agents".toList ∧ segment ≠ [] then some (.agent segment)
    else none
  | [[], api, fleet, segment, part] =>
    if api = "api".toList ∧ fleet = "agents".toList then ofAgentPart? segment (String.ofList part)
    else none
  | _ => none

/-- What a path names. -/
def ofPath? (path : List Char) : Option Resource := ofSegments? (Parts.splitAt '/' path)

/-- Whether a method can be used. What can be got can be asked for without its body. -/
def allows : Resource → Method → Bool
  | .report .., m => m == .post
  | .agent _, m => m == .get || m == .head || m == .delete
  | _, m => m == .get || m == .head

end Resource
end FleetTelemetry

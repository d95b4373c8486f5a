import ClusterSurvey.Collection.Collector
import ClusterSurvey.Net.Percent
import ClusterSurvey.Result.Route
import ClusterSurvey.Service.Request
import ClusterSurvey.Text.Split

/-!
# The collecting service

A request is answered by its path and method.  Results are posted to an address that spells their
key; the status can be looked at.  A mistake of the sender is answered by a number from 400 on, after
which there is no use in trying again, and a fault of the service by one from 500 on.

Specification: section 4.4, `AggregationServer`; section 10.6 for the routes and section 10.3 for the
numbers.
-/

namespace ClusterSurvey.Service

/-- What a path stands for, with the parts of a key as they are written in it. -/
inductive Resource where
  | clusterResult (resultType : String)
  | nodeResult (node resultType : String)
  | status
  deriving DecidableEq, Repr

/-- The parts of a path between its slashes. -/
def segments (path : String) : List String :=
  (Text.splitAt '/' path.toList).map String.ofList

/-- What a path stands for, if anything.  A key's parts are not empty. -/
def resource? (path : String) : Option Resource :=
  match segments path with
  | ["", "api", "v1", "status"] => some .status
  | ["", "api", "v1", "results", "global", t] => if t = "" then none else some (.clusterResult t)
  | ["", "api", "v1", "results", "by-node", n, t] =>
    if n = "" ∨ t = "" then none else some (.nodeResult n t)
  | _ => none

/-- The answer to a request. -/
structure Response where
  /-- Its number. -/
  status : Nat
  /-- The methods that would have done. -/
  allow : Option String
  /-- The media type of the body. -/
  mediaType : Option String
  /-- Its body. -/
  body : String
  deriving DecidableEq, Repr

/-- An answer without a body. -/
def Response.bare (status : Nat) : Response := ⟨status, none, none, ""⟩

/-- The answer to a method that the resource does not know. -/
def Response.wrongMethod (allow : String) : Response := ⟨405, some allow, none, ""⟩

/-- An answer that tells what went wrong. -/
structure ServiceError where
  /-- The number of the answer. -/
  status : Nat
  /-- What went wrong. -/
  message : String
  deriving DecidableEq, Repr

namespace ServiceError

/-- A fault of the service. -/
def internal (message : String) : ServiceError := ⟨500, message⟩

/-- A request that makes no sense. -/
def badRequest (message : String) : ServiceError := ⟨400, message⟩

/-- A result that the run does not take. -/
def forbidden (message : String) : ServiceError := ⟨403, message⟩

/-- The answer to a result that was not collected. -/
def ofCollectError (e : CollectError) : ServiceError :=
  match e with
  | .unexpected _ => forbidden e.message
  | .invalidKey _ => badRequest e.message
  | .persistence .. => internal e.message
  | .alreadyWaited => internal e.message

/-- The body of the answer. -/
def toJson (e : ServiceError) : Json :=
  .object [("error", .object [("message", .string e.message), ("status", .ofNat e.status)])]

/-- The answer that tells of an error. -/
def response (e : ServiceError) : Response :=
  ⟨e.status, none, some "application/json", e.toJson.render⟩

end ServiceError

/-- The answer to a path whose parameter is no text. -/
def badParameter (name : String) : Response :=
  ⟨400, none, some "text/plain; charset=utf-8", "Invalid URL: Invalid UTF-8 in `" ++ name ++ "`"⟩

/-- The key that a resource stands for, or the name of the first parameter that is no text. -/
def Resource.key? : Resource → Except String (Option ResultKey)
  | .status => .ok none
  | .clusterResult t =>
    match Net.percentText? t with
    | some t => .ok (some (.forCluster t))
    | none => .error "result_type"
  | .nodeResult n t =>
    match Net.percentText? n with
    | none => .error "node"
    | some n =>
      match Net.percentText? t with
      | some t => .ok (some ⟨n, t⟩)
      | none => .error "result_type"

/-- The answer to a delivery by its outcome. -/
def answer : Except CollectError Unit → Response
  | .ok () => .bare 200
  | .error e => (ServiceError.ofCollectError e).response

/-- Takes a posted result. -/
def takeResult (c : Collector) (key : ResultKey) (r : Request) : Collector × Response :=
  let c := c.deliver key r.pieces r.broken
  (c, match c.lastOutcome? with
    | some o => answer o
    | none => .bare 500)

/-- The answer that shows the run's status. -/
def showStatus (c : Collector) : Response :=
  ⟨200, none, some "application/json", c.ledger.status.toJson.render⟩

/-- Answers a request. -/
def handle (c : Collector) (r : Request) : Collector × Response :=
  match resource? r.path with
  | none => (c, .bare 404)
  | some .status =>
    if r.method = "GET" then (c, showStatus c)
    else if r.method = "HEAD" then (c, { showStatus c with body := "" })
    else (c, .wrongMethod "GET,HEAD")
  | some res =>
    if r.method ≠ "POST" then (c, .wrongMethod "POST")
    else
      match res.key? with
      | .error name => (c, badParameter name)
      | .ok (some key) => takeResult c key r
      | .ok none => (c, .bare 404)

/-- The service as logs show it. -/
def debugText (finished : Bool) : String :=
  "AggregationServer \x7b finished: " ++ (if finished then "true" else "false") ++ " \x7d"

end ClusterSurvey.Service

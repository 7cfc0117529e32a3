import LabelFilter.About
import LabelFilter.Filter.Request
import LabelFilter.Filter.Body
import LabelFilter.Http.Exchange
import LabelFilter.Http.Origin
import LabelFilter.Json.Writing
import LabelFilter.Settings.Resolution

/-!
# The service

The service tells its health at one path and compiles filters at another. Everything that can go
wrong with a filter is told as an object with the fields `error`, `code` and `message`, and the
first stage that fails decides: the delivery of the body, its length, its form, the number of
items, the name of the metric, the items.

Every response names the origin of the request again if it is one of the service's own, and a
request with the method `OPTIONS` is told what pages of other origins may do, whatever it is
about.

## Main definitions

* `Http.CompileError` — why a filter is not compiled
* `Http.Service`, `Http.Service.compile` — what the service knows, and what it does
* `Http.Route`, `Http.Service.answer`, `Http.Service.respond` — how it answers
-/

namespace LabelFilter.Http

open Json (objectText stringText)

/-! ### Compiling -/

/-- Why a filter is not compiled. -/
inductive CompileError where
  /-- The body breaks off. -/
  | broken (reason : String)
  | body (e : BodyError)
  | blankMetric
  | item (e : ItemError)
  deriving DecidableEq, Repr

namespace CompileError

/-- A body that is not delivered because of its length is too long for a filter. -/
def ofDelivery : DeliveryError → CompileError
  | .tooLong => .body (.tooLarge maxBodySize)
  | .broken reason => .broken reason

/-- The status of the response. -/
def status : CompileError → Nat
  | .body (.tooLarge _) => 413
  | _ => 400

/-- The kind of the error. -/
def kind (e : CompileError) : String :=
  if e.status = 413 then "payload_too_large" else "bad_request"

/-- The code that clients tell errors apart by. -/
def code : CompileError → String
  | .broken _ => "INVALID_REQUEST_BODY"
  | .body e => e.code
  | .blankMetric => "MISSING_METRIC_NAME"
  | .item e => e.code

/-- The wording of an error. -/
def message : CompileError → String
  | .broken reason => "Failed to buffer the request body: " ++ reason
  | .body e => e.message
  | .blankMetric => "metric_name must not be empty"
  | .item e => e.message

end CompileError

/-- A filter that has been compiled. -/
structure Compiled where
  predicate : String
  query : String
  deriving DecidableEq, Repr

/-- What the service knows. -/
structure Service where
  compiler : Compiler
  source : SeriesTable
  itemLimit : Nat
  /-- The origins of its own pages. -/
  origins : List String

namespace Service

/-- The greatest length of a body that the service takes delivery of, in octets. -/
def deliveryLimit : Nat := 262144

/-- The service that runs with some settings. -/
def ofSettings (s : Settings) : Service :=
  ⟨s.compiler, s.source, s.itemLimit, Origin.allowed s.host s.port⟩

/-- Compile the filter of a request that has been read. -/
def compileRequest (s : Service) (r : CompileRequest) : Except CompileError Compiled := do
  (r.filter.checkCount s.itemLimit).mapError .body
  if Text.trim r.metric = "" then .error .blankMetric
  else
    let predicate ← (s.compiler.predicate r.filter r.scope).mapError .item
    return ⟨predicate, s.compiler.select s.source predicate r.aggregation r.tags⟩

/-- Compile the filter in the body of a request. -/
def compile (s : Service) (delivery : Except DeliveryError ByteArray) :
    Except CompileError Compiled := do
  let body ← delivery.mapError .ofDelivery
  let request ← (decodeBody (CompileRequest.ofDoc Json.Doc.maxDepth) body).mapError .body
  s.compileRequest request

end Service

/-! ### Responses -/

/-- An error, as clients are told of it. -/
def errorBody (kind code message : String) : String :=
  objectText [("error", stringText kind), ("code", stringText code),
    ("message", stringText message)]

/-- The response to a request to compile a filter. -/
def Response.ofCompiled : Except CompileError Compiled → Response
  | .ok c =>
    .json 200 (objectText [("predicate", stringText c.predicate), ("query", stringText c.query)])
  | .error e => .json e.status (errorBody e.kind e.code e.message)

/-- The response that tells the health of the service. -/
def Response.health : Response :=
  .json 200 (objectText [("status", stringText "ok"), ("version", stringText programVersion)])

/-- The response to a request about something that is not there. -/
def Response.noRoute (path : String) : Response :=
  .json 404 (errorBody "not_found" "NOT_FOUND" ("No route for " ++ path))

/-- What pages of other origins may do. -/
def Response.permissions : Response where
  status := 200
  headers := [("access-control-allow-methods", "GET,POST,OPTIONS"),
    ("access-control-allow-headers", "content-type,accept,origin")]

/-- The header that names the origin whose pages may read a response. -/
def grantHeader : String := "access-control-allow-origin"

/-- A response that the pages of an origin may read. -/
def Response.grant (response : Response) : Option String → Response
  | some origin => response.withHeader grantHeader origin
  | none => response

/-! ### Routes -/

/-- What requests can be about. -/
inductive Route where
  | health
  | compile
  deriving DecidableEq, Repr

namespace Route

/-- The path of a route. -/
def path : Route → String
  | .health => "/api/v1/health"
  | .compile => "/api/v1/metrics/filter/compile"

/-- All routes. -/
def all : List Route := [.health, .compile]

/-- The route that a path leads to. -/
def ofPath? (p : String) : Option Route := all.find? fun r => r.path == p

/-- The methods of a route. -/
def methods : Route → List Method
  | .health => [.get, .head]
  | .compile => [.post]

/-- The methods of a route, as a client is told of them. -/
def allow (r : Route) : String := ",".intercalate (r.methods.map Method.token)

end Route

namespace Service

/-- The response to a request about a route, apart from what its origin may do. -/
def answer (s : Service) (route : Route) (r : Request) : Response :=
  if r.method = .options then Response.permissions.withHeader "allow" route.allow
  else if r.method ∈ route.methods then
    match route with
    | .health => .health
    | .compile => .ofCompiled (s.compile (r.deliver deliveryLimit))
  else Response.withHeader ⟨405, [], ""⟩ "allow" route.allow

/-- The response to a request that is about no route, apart from what its origin may do. -/
def answerElsewhere (r : Request) : Response :=
  if r.method = .options then .permissions else .noRoute r.path

/-- The origin of a request, if it is one of the service's own. -/
def grantedOrigin? (s : Service) (r : Request) : Option String :=
  (r.header? "origin").filter fun o => (Origin.headerValues s.origins).contains o

/-- The response to a request. A response to the method `HEAD` has no body. -/
def respond (s : Service) (r : Request) : Response :=
  let response :=
    match Route.ofPath? r.path with
    | some route => s.answer route r
    | none => answerElsewhere r
  let response := response.grant (s.grantedOrigin? r)
  if r.method = .head then response.withoutBody else response

end Service

end LabelFilter.Http

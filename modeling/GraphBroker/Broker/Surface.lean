import GraphBroker.Broker.Basic
import GraphBroker.Http.Cors
import GraphBroker.Http.MediaType
import GraphBroker.Http.Routes

/-!
# The broker over HTTP

What the broker serves beside its channel: registration and tokens, queries and
updates, and how the broker does.

## Main definitions

* `Broker.respond`: the response to a request.
-/

namespace GraphBroker.Broker

variable {ε : Type}

/-- The response to an action that may fail: what `respond` makes of its result, or the fault. -/
def answered {α : Type} (respond : α → Http.Response) : Outcome α → Http.Response
  | .ok a => respond a
  | .error fault => .ofFault fault

/-- The version that the broker reports. -/
def version : String := "0.1.0"

/-! ### Bodies -/

/-- The body of `request`, unless it is longer than a message may be. -/
def sized (config : GateConfig) (request : Http.Request) : Except Http.Response (List UInt8) :=
  if config.maxMessageSize < request.body.length then
    .error (.ofText 413 "Failed to buffer the request body: length limit exceeded")
  else .ok request.body

/-- The body of `request` as text. -/
def bodyText (config : GateConfig) (request : Http.Request) : Except Http.Response String := do
  match Utf8.decode (← sized config request) with
  | .ok text => return text
  | .error fault =>
    throw (.ofText 400 ("Request body didn't contain valid UTF-8: " ++ fault.message))

/-- The body of `request` as what its JSON spells, read by `decoder`. -/
def bodyJson {α : Type} (config : GateConfig) (decoder : Json.Decoder α)
    (request : Http.Request) : Except Http.Response α := do
  let mediaType := (request.header? "content-type").bind Http.MediaType.ofString?
  if !(mediaType.any Http.MediaType.isJson) then
    throw (.ofText 415 "Expected request with `Content-Type: application/json`")
  match decoder.run (← sized config request) with
  | .ok a => return a
  | .error .shape =>
    throw (.ofText 422 "Failed to deserialize the JSON body into the target type")
  | .error .spelling => throw (.ofText 400 "Failed to parse the request body as JSON")

/-- The content types of queries, updates and results. -/
def queryType : String := "application/sparql-query"

@[inherit_doc queryType]
def updateType : String := "application/sparql-update"

@[inherit_doc queryType]
def resultsType : String := "application/sparql-results+json"

/-- The text of `request`, which has to have the content type `expected`. -/
def sparql (config : GateConfig) (expected : String) (request : Http.Request) :
    Except Http.Response String := do
  let text ← bodyText config request
  let given := (request.header? "content-type").getD ""
  if (Http.essence given).toLower = expected then return text
  else throw (.ofFault
    (.protocol ("Expected content type " ++ expected ++ ", got '" ++ given ++ "'")))

/-! ### Actions -/

/-- Registers a client. -/
def register (b : Broker ε) (request : RegistrationRequest) : Http.Response × Broker ε :=
  if request.grants.contains clientCredentialsGrant then
    let (outcome, authority) := b.world.authority.register request.identity b.supply.secret
    let done := { b with supply := b.supply.rest }.setWorld { b.world with authority }
    (answered (fun credentials => .ofJson 201 credentials.toJson) outcome, done)
  else
    (.ofFault ((Fault.protocol "Only the client_credentials grant is supported").withCode
      .unsupportedGrantType), b)

/-- Hands out a token. -/
def token (b : Broker ε) (request : Http.Request) : Http.Response × Broker ε :=
  match request.header? "authorization" with
  | none => (.ofFault (.security "Missing basic credentials"), b)
  | some header =>
    let (outcome, authority) :=
      b.world.authority.requestToken b.world.now header b.supply.uuid.toString
    let done := { b with supply := b.supply.rest }.setWorld { b.world with authority }
    (answered (fun grant => .ofJson 200 grant.toJson) outcome, done)

variable [QueryEngine ε]

/-- How the broker does. -/
def health (b : Broker ε) : Http.Response × Broker ε :=
  let (answer, engine) := QueryEngine.health b.world.engine
  let reachable := match answer with
    | .given (.ok well) => well
    | _ => false
  (.ofJson 200 (.object [("status", .text (if reachable then "ok" else "degraded")),
      ("version", .text version), ("engine", .text (QueryEngine.name engine)),
      ("engine_reachable", .bool reachable), ("gates", .int b.world.gates.size),
      ("subscriptions", .int b.scheduler.table.size)]),
    b.setWorld { b.world with engine })

/-- Carries out `action`, for which `request` has asked. -/
def perform (b : Broker ε) (action : Http.Action) (request : Http.Request) :
    Http.Response × Broker ε :=
  let authorization := request.header? "authorization"
  match action with
  | .register =>
    match bodyJson b.gateConfig RegistrationRequest.decoder request with
    | .ok asked => b.register asked
    | .error refusal => (refusal, b)
  | .token => b.token request
  | .query =>
    match sparql b.gateConfig queryType request with
    | .ok text =>
      let (outcome, scheduler) := b.scheduler.query ⟨text, ∅⟩ authorization
      (answered (fun results => .ofJson 200 results.toJson resultsType) outcome,
        { b with scheduler })
    | .error refusal => (refusal, b)
  | .update =>
    match sparql b.gateConfig updateType request with
    | .ok text =>
      let (outcome, scheduler) := b.scheduler.update text authorization
      (answered (fun _ => .ofJson 200 (.object [("status", .text "ok")])) outcome,
        { b with scheduler })
    | .error refusal => (refusal, b)
  | .health => b.health
  | .metrics => (.ofJson 200 b.scheduler.metrics.toJson, b)
  | .reset =>
    let done := b.record Metrics.reset
    (.ofJson 200 done.scheduler.metrics.toJson, done)
  | .channel => (.ofFault (wrongPath request.path b.gateConfig.path), b)

/-- The response to a request. A browser that asks before it calls is told what is allowed,
and nothing is done. A request to open a channel that comes without a connection to take over
is on the wrong path. -/
def respond (cors : CorsConfig) (b : Broker ε) (request : Http.Request) :
    Http.Response × Broker ε :=
  let served := Http.routes b.gateConfig.path request.path
  let allow : Http.Headers := if served.isEmpty then [] else [("allow", Http.allowed served)]
  let (response, b) :=
    if request.method = "OPTIONS" then (cors.preflight.withHeaders allow, b)
    else if served.isEmpty then b.perform .channel request
    else match Http.action? served request.method with
      | some action => b.perform action request
      | none => (⟨405, allow, .empty⟩, b)
  let named := response.withHeaders (cors.allowOrigin request)
  (if request.method = "HEAD" then named.bare else named, b)

end GraphBroker.Broker

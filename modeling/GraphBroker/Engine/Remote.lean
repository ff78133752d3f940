import GraphBroker.Access.Header
import GraphBroker.Config.Basic
import GraphBroker.Engine.Basic
import GraphBroker.Http.Network
import GraphBroker.Http.Status
import GraphBroker.Json.Reader

/-!
# An engine elsewhere

An engine that forwards queries and updates to an endpoint on a network.

## Main definitions

* `Remote`: the engine.
* `Remote.ofConfig`: the engine that the settings describe.
-/

namespace GraphBroker

/-- An engine that forwards what it is asked. -/
structure Remote (ν : Type) where
  /-- The network. -/
  network : ν
  /-- Where queries go to. -/
  queryUrl : String
  /-- Where updates go to. -/
  updateUrl : String
  /-- Who asks, if the endpoint wants to know. -/
  authorization : Option String := none

namespace Remote

variable {ν : Type}

/-- The engine that the settings describe. The endpoint is told who asks only where both a user
and a password are given. -/
def ofConfig (config : EngineConfig) (network : ν) : Outcome (Remote ν) :=
  if config.queryUrl.isEmpty || config.updateUrl.isEmpty then
    .error (.configuration "Remote engine needs engine.query_url and engine.update_url")
  else .ok {
    network
    queryUrl := config.queryUrl
    updateUrl := config.updateUrl
    authorization := match config.username, config.password with
      | some user, some password => some (Header.ofPair user password)
      | _, _ => none }

/-- What the endpoint at `url` makes of a request: the body of its reply, if the reply says that the
request succeeded. -/
def accepted (url : String) : Option Reply → Outcome (List UInt8)
  | none => .error (.transport ("SPARQL endpoint " ++ url ++ " unreachable"))
  | some reply =>
    if Http.isSuccess reply.status then .ok reply.body
    else .error (.execution
      ("SPARQL endpoint returned " ++ Http.statusLine reply.status ++ ": " ++ reply.text))

/-- The results that an endpoint sends. -/
def resultsOf (body : List UInt8) : Outcome ResultSet :=
  match ((Utf8.decode body).toOption.bind Json.read?).bind (ResultSet.ofJson? .outermost) with
  | some results => .ok results
  | none => .error (.transport "Malformed SPARQL results")

variable [Network ν]

/-- Sends the text `body` to the endpoint at `url`. -/
def post (url contentType body : String) (engine : Remote ν) :
    Outcome (List UInt8) × Remote ν :=
  let (reply, network) := Network.exchange {
    url, body
    contentType := some contentType
    accept := some "application/sparql-results+json"
    authorization := engine.authorization } engine.network
  (accepted url reply, { engine with network })

/-- The result of the query `text`. -/
def query (text : String) (engine : Remote ν) : Outcome ResultSet × Remote ν :=
  let (outcome, engine) := post engine.queryUrl "application/sparql-query" text engine
  (outcome.bind resultsOf, engine)

/-- Applies the update `text`. -/
def update (text : String) (engine : Remote ν) : Outcome Unit × Remote ν :=
  let (outcome, engine) := post engine.updateUrl "application/sparql-update" text engine
  (outcome.map fun _ => (), engine)

/-- Whether the endpoint answers a query. One that refuses it is not well either, but is there. -/
def health (engine : Remote ν) : Outcome Bool × Remote ν :=
  match engine.query "SELECT * WHERE \x7b ?s ?p ?o \x7d LIMIT 1" with
  | (.ok _, engine) => (.ok true, engine)
  | (.error fault, engine) =>
    (if fault.kind = .transport then .ok false else .error fault, engine)

instance : QueryEngine (Remote ν) where
  name _ := "remote"
  health engine := engine.health.map .given id
  query text engine := (engine.query text).map .given id
  update text engine := (engine.update text).map .given id

end Remote

end GraphBroker

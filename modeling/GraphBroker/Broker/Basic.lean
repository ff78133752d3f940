import GraphBroker.Access.Supply
import GraphBroker.Broker.World
import GraphBroker.Text.Utf8

/-!
# The broker

A broker opens a gate for each connection, puts the fragments that arrive on it
together, checks and reads the messages, and leaves the requests to the worker of
the gate, which hands them to the scheduler one at a time. A gate that has been
closed is no longer known to the broker, but its worker may have requests left.

## Main definitions

* `Broker`: the scheduler with the gates, and what is drawn on.
* `Broker.openGate`, `Broker.frame`, `Broker.binaryFrame`, `Broker.closeGate`: what a
  connection does.
* `Broker.work`: one step of the worker of a gate.
* `Broker.take`, `Broker.drain`: the writer of a connection takes one message, or all.
* `Broker.shutdown`: the end.
-/

namespace GraphBroker

open Std

/-- A broker with its gates. -/
structure Broker (ε : Type) where
  /-- What holds for every gate. -/
  gateConfig : GateConfig
  /-- The scheduler. Its world holds the gates that are known. -/
  scheduler : Scheduler (World ε)
  /-- The gates that have been closed. -/
  departed : ExtTreeMap GateId Gate := ∅
  /-- What fresh names and secrets are drawn from. -/
  supply : Supply := ⟨0⟩
  /-- Whether the end has been signalled. -/
  signalled : Bool := false

namespace Broker

variable {ε : Type}

/-- A broker with the given `engine`, as the settings `config` describe it. -/
def ofConfig (config : BrokerConfig) (engine : ε) (now : Int) (supply : Supply) :
    Outcome (Broker ε) := do
  let authority ← Authority.ofConfig config.auth
  return {
    gateConfig := config.gate
    scheduler := {
      limit := config.scheduler.maxSubscriptionsPerGate
      world := { engine, timeoutMs := config.engine.timeoutMs, authority, now, gates := ∅ } }
    supply }

/-- The world of the scheduler. -/
def world (b : Broker ε) : World ε := b.scheduler.world

/-- The broker in another world. -/
def setWorld (b : Broker ε) (world : World ε) : Broker ε :=
  { b with scheduler := { b.scheduler with world } }

/-- One more of what is counted. -/
def count (b : Broker ε) (counter : Counter) : Broker ε :=
  { b with scheduler := b.scheduler.count counter }

/-- The broker after a change of what is counted. -/
def record (b : Broker ε) (change : Metrics → Metrics) : Broker ε :=
  { b with scheduler := { b.scheduler with metrics := change b.scheduler.metrics } }

/-- The gate of the name `id`, if it has not been closed. -/
def gate? (b : Broker ε) (id : GateId) : Option Gate :=
  b.world.gate? id

/-- The broker with `gate` in the place of `id`, or added. -/
def putGate (b : Broker ε) (id : GateId) (gate : Gate) : Broker ε :=
  b.setWorld (b.world.putGate id gate)

/-- The names of the gates that have not been closed. -/
def gateIds (b : Broker ε) : List GateId :=
  b.world.gates.toList.map Prod.fst

/-! ### Connections -/

/-- Opens a gate for a connection on `path`, under a fresh name. -/
def openGate (b : Broker ε) (path : String) : GateId × Broker ε :=
  let id : GateId := ⟨b.supply.uuid⟩
  let opened := { b with supply := b.supply.rest }
  (id, (opened.putGate id (.ofConfig path b.gateConfig)).record Metrics.opened)

/-- Refuses a message on the gate `id` and tells the gate why, which is `fault`. -/
def reject (b : Broker ε) (id : GateId) (fault : Fault) : Broker ε :=
  let refused := b.count .errors
  let (delivery, world) := refused.world.dispatch id (.ofFault fault)
  let told := refused.setWorld world
  if delivery = .delivered then told.count .errorResponses else told

/-- The fault of a connection on the path `given`, which is not `served`. -/
def wrongPath (given served : String) : Fault :=
  .notFound ("Bad resource descriptor: " ++ given ++ " Use: " ++ served)

/-- The request that the message `text` on `gate` makes. -/
def accept (config : GateConfig) (gate : Gate) (text : String) : Outcome Request := do
  if gate.path ≠ config.path then throw (wrongPath gate.path config.path)
  Request.admissible config.maxMessageSize text
  Request.read text

/-- Takes the whole message `text` on the gate `id`: leaves its request to the worker. -/
def message (b : Broker ε) (id : GateId) (gate : Gate) (text : String) : Broker ε :=
  let counted := b.count .messages
  match accept b.gateConfig gate text with
  | .error fault => counted.reject id fault
  | .ok request =>
    match gate.forward request with
    | (.error fault, _) => counted.reject id fault
    | (.ok (), gate) => counted.putGate id gate

/-- Takes the fragment `chunk` of a message on the gate `id`. Nothing is done for a gate that is not
known. -/
def frame (b : Broker ε) (id : GateId) (chunk : String) (isLast : Bool) : Broker ε :=
  match b.gate? id with
  | none => b
  | some gate =>
    let counted := if isLast then b else b.count .fragmented
    match gate.pushFragment chunk isLast with
    | (.error fault, gate) => (counted.putGate id gate).reject id fault
    | (.ok none, gate) => counted.putGate id gate
    | (.ok (some text), gate) => (counted.putGate id gate).message id gate text

/-- The fault of bytes that spell no text. -/
def notUtf8 (fault : Utf8.Fault) : Fault :=
  .protocol ("Parsing failed: binary frame is not UTF-8 (" ++ fault.message ++ ")")

/-- Takes a fragment of a message as `bytes`. -/
def binaryFrame (b : Broker ε) (id : GateId) (bytes : List UInt8) (isLast : Bool) : Broker ε :=
  match Utf8.decode bytes with
  | .ok chunk => b.frame id chunk isLast
  | .error fault =>
    match b.gate? id with
    | none => b
    | some _ => (b.count .messages).reject id (notUtf8 fault)

/-- Closes the gate `id` and ends its subscriptions. Answers whether the gate was known. -/
def closeGate (b : Broker ε) (id : GateId) : Bool × Broker ε :=
  match b.gate? id with
  | none => (false, b)
  | some gate =>
    let world := { b.world with gates := b.world.gates.erase id }
    let (_, scheduler) := ((b.setWorld world).scheduler).unregisterGate id
    let gone := { b with
      scheduler
      departed := b.departed.insert id gate.beginClose.2.finishClose }
    (true, gone.record Metrics.closed)

/-- Closes all gates. -/
def closeAll (b : Broker ε) : Broker ε :=
  b.gateIds.foldl (fun b id => (b.closeGate id).2) b

/-- Nobody takes the messages of the gate `id` any more. -/
def dropWriter (b : Broker ε) (id : GateId) : Broker ε :=
  match b.gate? id with
  | some gate => b.putGate id gate.dropWriter
  | none => b

/-- Takes the oldest message for the connection of the gate `id`. -/
def take (b : Broker ε) (id : GateId) : Gate.Received × Broker ε :=
  match b.gate? id with
  | some gate =>
    let (received, gate) := gate.receive
    (received, b.putGate id gate)
  | none => (.ended, b)

/-- Takes messages for the connection of a gate, at most so many, as long as there are any. -/
def takeUpTo : Nat → Broker ε → GateId → List Message × Broker ε
  | 0, b, _ => ([], b)
  | n + 1, b, id =>
    match b.take id with
    | (.message m, b) =>
      let (others, b) := takeUpTo n b id
      (m :: others, b)
    | (_, b) => ([], b)

/-- Takes all messages for the connection of the gate `id`, as its writer does. -/
def drain (b : Broker ε) (id : GateId) : List Message × Broker ε :=
  takeUpTo (((b.gate? id).map (·.outbound.length)).getD 0) b id

/-! ### Workers -/

/-- The gate of the name `id`, closed or not. -/
def anyGate? (b : Broker ε) (id : GateId) : Option Gate :=
  (b.gate? id).or b.departed[id]?

/-- The broker after a change of the gate `id`, closed or not, to `gate`. -/
def replaceGate (b : Broker ε) (id : GateId) (gate : Gate) : Broker ε :=
  if (b.gate? id).isSome then b.putGate id gate
  else { b with departed := b.departed.insert id gate }

/-- What the worker of a gate does next. -/
inductive Work where
  /-- It has been told to stop. -/
  | stop
  /-- It waits for a request. -/
  | wait
  /-- It carries out the oldest `request`; `rest` is the gate without it. -/
  | next (request : Request) (rest : Gate)

/-- What the worker of `gate` does next. -/
def Work.of (gate : Gate) : Work :=
  if gate.cancelled then .stop
  else match gate.takeRequest? with
    | some (request, rest) => .next request rest
    | none => .wait

/-- One step of the worker of the gate `id`. Answers whether a request was carried out. -/
def work [QueryEngine ε] (b : Broker ε) (id : GateId) : Bool × Broker ε :=
  match (b.anyGate? id).map Work.of with
  | some (.next request rest) =>
    let taken := { b.replaceGate id rest with supply := b.supply.rest }
    (true, { taken with scheduler := taken.scheduler.process ⟨b.supply.uuid⟩ id request })
  | _ => (false, b)

/-- The steps of the worker of a gate, at most so many, until no request is left. -/
def workOff [QueryEngine ε] : Nat → Broker ε → GateId → Broker ε
  | 0, b, _ => b
  | n + 1, b, id =>
    match b.work id with
    | (true, b) => workOff n b id
    | (false, b) => b

/-- The workers carry out all requests that wait. A request brings about no further ones. -/
def settle [QueryEngine ε] (b : Broker ε) : Broker ε :=
  b.gateIds.foldl
    (fun b id => workOff (((b.gate? id).map (·.requests.length)).getD 0) b id) b

/-- The broker on one line. -/
def shown (b : Broker ε) : String :=
  "RealtimeEngine \x7b gates: " ++ toString b.world.gates.size ++ ", subscriptions: " ++
    toString b.scheduler.table.size ++ " \x7d"

/-! ### The end -/

/-- Signals the end, closes all gates, ends all subscriptions and forgets all tokens. -/
def shutdown [QueryEngine ε] (b : Broker ε) : Broker ε :=
  let closed := { b with signalled := true }.closeAll
  let ended := { closed with scheduler := closed.scheduler.shutdown }
  let authority := ended.world.authority
  ended.setWorld
    { ended.world with authority := { authority with registry := authority.registry.shutdown } }

end Broker

end GraphBroker

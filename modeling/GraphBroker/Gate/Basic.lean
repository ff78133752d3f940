import GraphBroker.Channel.Fragments
import GraphBroker.Channel.Message
import GraphBroker.Channel.Request
import GraphBroker.Config.Basic
import GraphBroker.Gate.State

/-!
# Gates

A gate is the broker's side of one connection. It has a queue of messages for
the client, a queue of requests for the broker, and what has arrived of a message
in fragments.

## Main definitions

* `Gate`: a gate with its queues.
* `Gate.send`, `Gate.receive`: messages to the client.
* `Gate.forward`, `Gate.takeRequest`: requests of the client.
* `Gate.beginClose`, `Gate.finishClose`: the end of the connection.
-/

namespace GraphBroker

/-- What comes of handing a message to a gate. -/
inductive Delivery where
  /-- It waits for the client. -/
  | delivered
  /-- The gate is not open or not known. -/
  | gateClosed
  /-- Too many messages are waiting. -/
  | busy
deriving DecidableEq, Repr

/-- The outcome as one word. -/
def Delivery.name : Delivery → String
  | delivered => "Delivered"
  | gateClosed => "GateClosed"
  | busy => "Busy"

/-- The broker's side of a connection. -/
structure Gate where
  /-- The path on which the connection was opened. -/
  path : String
  /-- The state. -/
  state : GateState := .opened
  /-- The messages that wait for the client, the oldest first. -/
  outbound : List Message := []
  /-- How many messages may wait. -/
  outboundCapacity : Nat
  /-- Whether someone takes the messages. -/
  hasWriter : Bool := true
  /-- The requests that wait for the broker, the oldest first. -/
  requests : List Request := []
  /-- How many requests may wait. -/
  requestCapacity : Nat
  /-- Whether someone takes the requests. -/
  hasWorker : Bool := true
  /-- What has arrived of a message. -/
  fragments : Fragments
  /-- Whether those who take messages and requests have been told to stop. -/
  cancelled : Bool := false
deriving DecidableEq

namespace Gate

/-- A gate on `path` that has just been opened. At least one message and one request may wait. -/
def ofConfig (path : String) (config : GateConfig) : Gate where
  path
  outboundCapacity := max config.outboundSize 1
  requestCapacity := max config.inboundSize 1
  fragments := { maxSize := config.maxMessageSize }

/-- Whether the gate is open. -/
def isOpen (g : Gate) : Bool :=
  g.state == .opened

/-! ### Messages -/

/-- Puts `message` into the queue for the client, if the gate is open and has room and a writer. -/
def send (g : Gate) (message : Message) : Delivery × Gate :=
  if !g.isOpen then (.gateClosed, g)
  else if !g.hasWriter then (.gateClosed, { g with state := g.state.advance .closing })
  else if g.outbound.length < g.outboundCapacity then
    (.delivered, { g with outbound := g.outbound ++ [message] })
  else (.busy, g)

/-- What one finds who takes a message for the client. -/
inductive Received where
  /-- There will be no more messages. -/
  | ended
  /-- No message is there yet. -/
  | waiting
  /-- The oldest message. -/
  | message (m : Message)
deriving DecidableEq

/-- Takes the oldest message for the client. Once the gate is not open, none is handed out. -/
def receive (g : Gate) : Received × Gate :=
  if g.cancelled then (.ended, g)
  else match g.outbound with
    | [] => (.waiting, g)
    | m :: rest =>
      (if g.isOpen then .message m else .ended, { g with outbound := rest })

/-- Nobody takes messages any more. -/
def dropWriter (g : Gate) : Gate :=
  { g with hasWriter := false, outbound := [] }

/-! ### Requests -/

/-- The fault of a request on a gate that takes no more. -/
def closedFault : Fault := .transport "Gate is closed"

/-- Puts `request` into the queue for the broker. -/
def forward (g : Gate) (request : Request) : Outcome Unit × Gate :=
  if !g.isOpen || !g.hasWorker then (.error closedFault, g)
  else if g.requests.length < g.requestCapacity then
    (.ok (), { g with requests := g.requests ++ [request] })
  else (.error (.protocol "Too many pending requests on this connection"), g)

/-- Takes the oldest request. -/
def takeRequest? (g : Gate) : Option (Request × Gate) :=
  match g.requests with
  | [] => none
  | request :: rest => some (request, { g with requests := rest })

/-- Nobody takes requests any more. -/
def dropWorker (g : Gate) : Gate :=
  { g with hasWorker := false, requests := [] }

/-- Takes the fragment `chunk` of a message. -/
def pushFragment (g : Gate) (chunk : String) (isLast : Bool) : Outcome (Option String) × Gate :=
  let (outcome, fragments) := g.fragments.push chunk isLast
  (outcome, { g with fragments })

/-! ### The end -/

/-- Starts to close the gate. If it was open, those who take messages and requests are told to stop,
and what has arrived in fragments is forgotten. The answer is whether it was open. -/
def beginClose (g : Gate) : Bool × Gate :=
  if g.isOpen then
    (true, { g with state := .closing, cancelled := true, fragments := g.fragments.clear })
  else (false, g)

/-- The gate is closed. -/
def finishClose (g : Gate) : Gate :=
  { g with state := g.state.advance .closed }

end Gate

end GraphBroker

import GraphBroker.Gate.Basic
import GraphBroker.Metrics
import GraphBroker.Subscription.Table

/-!
# The scheduler

The scheduler admits the requests of gates. It asks the query engine, keeps the
table of subscriptions, and after each update tells every gate what has changed
in the results of its subscriptions. What is told is kept in the table only if
it was handed over, so that a gate that could not be told is told later of
everything at once.

## Main definitions

* `Surroundings`: what the scheduler calls on: the authority, the engine and the gates.
* `Scheduler`: the table and the counters, in their surroundings.
* `Scheduler.subscribe`, `Scheduler.unsubscribe`, `Scheduler.update`, `Scheduler.query`: the
  requests.
* `Scheduler.process`: a request of a gate with its reply.
-/

namespace GraphBroker

/-- What a scheduler calls on, as a state of type `ω`. -/
class Surroundings (ω : Type) where
  /-- Whether a request with this authorization may go ahead. -/
  authorize : Option String → ω → Outcome Unit
  /-- The results of a query. -/
  execute : Sparql.Pattern → ω → Outcome ResultSet × ω
  /-- Applies an update. -/
  update : String → ω → Outcome Unit × ω
  /-- Hands a message to a gate. -/
  dispatch : GateId → Message → ω → Delivery × ω
  /-- The order in which the subscriptions are gone through. -/
  arrange : ω → List Subscription → List Subscription
  /-- Each subscription is gone through once. -/
  arrange_perm : ∀ w subscriptions, (arrange w subscriptions).Perm subscriptions

/-- A scheduler in its surroundings. -/
structure Scheduler (ω : Type) where
  /-- How many subscriptions a gate may have. -/
  limit : Nat
  /-- The subscriptions. -/
  table : SubscriptionTable := ∅
  /-- What has happened. -/
  metrics : Metrics := {}
  /-- The surroundings. -/
  world : ω

namespace Scheduler

variable {ω : Type} [Surroundings ω]

/-! ### Calling on the surroundings -/

/-- One more of what is counted. -/
def count (s : Scheduler ω) (counter : Counter) : Scheduler ω :=
  { s with metrics := s.metrics.count counter }

/-- Hands `message` to `gate`. -/
def dispatch (s : Scheduler ω) (gate : GateId) (message : Message) : Delivery × Scheduler ω :=
  let (delivery, world) := Surroundings.dispatch gate message s.world
  (delivery, { s with world })

/-- The results of the query `pattern`. -/
def execute (s : Scheduler ω) (pattern : Sparql.Pattern) : Outcome ResultSet × Scheduler ω :=
  let (results, world) := Surroundings.execute pattern s.world
  (results, { s with world })

/-! ### Subscriptions -/

/-- The fault of a gate that has `limit` subscriptions. -/
def limitReached (limit : Nat) : Fault :=
  .protocol ("Subscription limit of " ++ toString limit ++ " reached for this connection")

/-- The fault of a subscription whose first results could not be handed over, as `delivery` says. -/
def notDelivered (delivery : Delivery) : Fault :=
  .transport ("Subscribe response not delivered (" ++ delivery.name ++ ")")

/-- Enters `subscription` and hands its first results over; if they are not taken, it is removed. -/
def enter (s : Scheduler ω) (subscription : Subscription) :
    Outcome SubscriptionId × Scheduler ω :=
  let entered := { s with table := s.table.insert subscription }
  match entered.dispatch subscription.gate
      (.subscribed subscription.id subscription.label subscription.last) with
  | (.delivered, told) => (.ok subscription.id, told.count .subscribeResponses)
  | (delivery, told) =>
    (.error (notDelivered delivery), { told with table := (told.table.remove subscription.id).2 })

/-- Makes a subscription of `gate` under the fresh name `id`. -/
def subscribe (s : Scheduler ω) (id : SubscriptionId) (gate : GateId) (pattern : Sparql.Pattern)
    (label authorization : Option String) : Outcome SubscriptionId × Scheduler ω :=
  match Surroundings.authorize authorization s.world with
  | .error fault => (.error fault, s)
  | .ok () =>
    if s.limit ≤ s.table.countFor gate then (.error (limitReached s.limit), s)
    else match s.execute pattern with
      | (.error fault, asked) => (.error fault, asked)
      | (.ok initial, asked) => asked.enter { id, gate, pattern, label, last := initial }

/-- Ends the subscription `id` of `gate`. One that is not there or belongs to another gate is let
be. No authorization is needed. -/
def unsubscribe (s : Scheduler ω) (gate : GateId) (id : SubscriptionId) : Scheduler ω :=
  { s with table := (s.table.removeOwned gate id).2 }

/-- Ends all subscriptions of `gate` and answers with their number. -/
def unregisterGate (s : Scheduler ω) (gate : GateId) : Nat × Scheduler ω :=
  let (ids, table) := s.table.removeGate gate
  (ids.length, { s with table })

/-- Ends all subscriptions. -/
def shutdown (s : Scheduler ω) : Scheduler ω :=
  { s with table := s.table.snapshot.foldl (fun table entry => (table.remove entry.id).2) s.table }

/-! ### Queries and updates -/

/-- The results of the query `pattern` once. -/
def query (s : Scheduler ω) (pattern : Sparql.Pattern) (authorization : Option String) :
    Outcome ResultSet × Scheduler ω :=
  match Surroundings.authorize authorization s.world with
  | .error fault => (.error fault, s)
  | .ok () => s.execute pattern

/-- The results of each subscription now. -/
def evaluate (s : Scheduler ω) :
    List Subscription → List (Subscription × Outcome ResultSet) × Scheduler ω
  | [] => ([], s)
  | subscription :: rest =>
    let (results, asked) := s.execute subscription.pattern
    let (others, done) := asked.evaluate rest
    ((subscription, results) :: others, done)

/-- Tells the gate of `subscription` what has changed, now that it has `results`. What is told is
kept. If the gate is closed the subscription is removed, and if it is busy nothing is kept. -/
def tell (s : Scheduler ω) (subscription : Subscription) (results : ResultSet) : Scheduler ω :=
  let change := subscription.last.diff results
  if change.isEmpty then s
  else
    let sequence := subscription.sequence + 1
    match s.dispatch subscription.gate (.notification ⟨subscription.id, sequence, change⟩) with
    | (.delivered, told) =>
      match told.table.commit subscription.id results sequence with
      | (true, table) => { told with table }.count .notifications
      | (false, _) => told
    | (.gateClosed, told) => { told with table := (told.table.remove subscription.id).2 }
    | (.busy, told) => told

/-- Tells the gate of the subscription in `entry` what has changed, if its results could be
found. -/
def tellIfFound (s : Scheduler ω) (entry : Subscription × Outcome ResultSet) : Scheduler ω :=
  match entry.2 with
  | .ok results => s.tell entry.1 results
  | .error _ => s

/-- Finds the results of all subscriptions and tells their gates what has changed. -/
def reevaluate (s : Scheduler ω) : Scheduler ω :=
  let (found, asked) := s.evaluate (Surroundings.arrange s.world s.table.snapshot)
  found.foldl tellIfFound asked

/-- Applies the update `sparql` and tells the gates what has changed. -/
def update (s : Scheduler ω) (sparql : String) (authorization : Option String) :
    Outcome Unit × Scheduler ω :=
  match Surroundings.authorize authorization s.world with
  | .error fault => (.error fault, s)
  | .ok () =>
    match Surroundings.update sparql s.world with
    | (.error fault, world) => (.error fault, { s with world })
    | (.ok (), world) => (.ok (), { s with world }.reevaluate)

/-! ### Requests of gates -/

/-- Hands the reply `message` to `gate`; the `counter` counts those that are taken. -/
def reply (s : Scheduler ω) (gate : GateId) (message : Message) (counter : Option Counter) :
    Scheduler ω :=
  match s.dispatch gate message, counter with
  | (.delivered, told), some counter => told.count counter
  | (_, told), _ => told

/-- Tells `gate` of `fault`. -/
def replyFault (s : Scheduler ω) (gate : GateId) (fault : Fault) : Scheduler ω :=
  s.reply gate (.ofFault fault) (some .errorResponses)

/-- Carries out `request` of `gate` and hands the reply over. A subscription is made under the fresh
name `id`, and its reply carries its first results. -/
def process (s : Scheduler ω) (id : SubscriptionId) (gate : GateId) (request : Request) :
    Scheduler ω :=
  match request with
  | .subscribe pattern label _ =>
    match s.subscribe id gate pattern label request.bearer? with
    | (.ok _, done) => done
    | (.error fault, done) => done.replyFault gate fault
  | .unsubscribe other _ =>
    (s.unsubscribe gate other).reply gate (.unsubscribed other) (some .unsubscribeResponses)
  | .update sparql _ =>
    match s.update sparql request.bearer? with
    | (.ok (), done) => done.reply gate .updated none
    | (.error fault, done) => done.replyFault gate fault
  | .query pattern _ =>
    match s.query pattern request.bearer? with
    | (.ok results, done) => done.reply gate (.results results) none
    | (.error fault, done) => done.replyFault gate fault

end Scheduler

end GraphBroker

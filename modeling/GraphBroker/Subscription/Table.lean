import GraphBroker.Rdf.ResultsJson
import GraphBroker.Sparql.Forced
import GraphBroker.Uuid
import Std.Data.ExtTreeMap
import Std.Data.ExtTreeSet

/-!
# The table of subscriptions

The table keeps the subscriptions by their names, and for each gate the names of
its subscriptions.

## Main definitions

* `Subscription`: a query of a gate with the results last told to it.
* `SubscriptionTable`, with `insert`, `remove`, `removeOwned`, `removeGate`, `commit`,
  `snapshot` and `countFor`.
-/

namespace GraphBroker

open Std

/-- A query whose results a gate is told of. -/
structure Subscription where
  /-- Its name. -/
  id : SubscriptionId
  /-- The gate. -/
  gate : GateId
  /-- The query. -/
  pattern : Sparql.Pattern
  /-- What the client calls it. -/
  label : Option String
  /-- The results last told. -/
  last : ResultSet
  /-- The number of notifications told. -/
  sequence : Nat := 0
deriving DecidableEq

/-- The subscription as JSON. -/
def Subscription.toJson (s : Subscription) : Json :=
  .object [("spuid", s.id.toJson), ("gate", s.gate.toJson), ("pattern", s.pattern.toJson),
    ("alias", Json.ofText? s.label), ("last", s.last.toJson), ("sequence", .int s.sequence)]

/-- The subscriptions by their names, and their names by gate. -/
structure SubscriptionTable where
  /-- The subscriptions. -/
  entries : ExtTreeMap SubscriptionId Subscription
  /-- The names of the subscriptions of each gate that has any. -/
  byGate : ExtTreeMap GateId (ExtTreeSet SubscriptionId)
deriving DecidableEq

namespace SubscriptionTable

/-- No subscription. -/
def empty : SubscriptionTable := ⟨∅, ∅⟩

instance : EmptyCollection SubscriptionTable := ⟨empty⟩

instance : Inhabited SubscriptionTable := ⟨∅⟩

/-- The names of the subscriptions of `gate`. -/
def owned (t : SubscriptionTable) (gate : GateId) : ExtTreeSet SubscriptionId :=
  t.byGate.getD gate ∅

/-- The subscription of the name `id`. -/
def get? (t : SubscriptionTable) (id : SubscriptionId) : Option Subscription :=
  t.entries[id]?

/-- The number of subscriptions. -/
def size (t : SubscriptionTable) : Nat := t.entries.size

/-- Whether there is no subscription. -/
def isEmpty (t : SubscriptionTable) : Bool := t.entries.isEmpty

/-- The number of subscriptions of `gate`. -/
def countFor (t : SubscriptionTable) (gate : GateId) : Nat :=
  (t.owned gate).size

/-- All subscriptions. -/
def snapshot (t : SubscriptionTable) : List Subscription :=
  t.entries.toList.map Prod.snd

/-- The table with the subscription `s` entered. -/
def insert (t : SubscriptionTable) (s : Subscription) : SubscriptionTable where
  entries := t.entries.insert s.id s
  byGate := t.byGate.insert s.gate ((t.owned s.gate).insert s.id)

/-- The index without the name `id` of `gate`; a gate without names is not kept. -/
def unindex (t : SubscriptionTable) (gate : GateId) (id : SubscriptionId) :
    ExtTreeMap GateId (ExtTreeSet SubscriptionId) :=
  let rest := (t.owned gate).erase id
  if rest.isEmpty then t.byGate.erase gate else t.byGate.insert gate rest

/-- Removes the subscription `id` and answers with it. -/
def remove (t : SubscriptionTable) (id : SubscriptionId) :
    Option Subscription × SubscriptionTable :=
  match t.get? id with
  | some s => (some s, ⟨t.entries.erase id, t.unindex s.gate id⟩)
  | none => (none, t)

/-- Removes the subscription `id` if it is one of `gate`. One of another gate stays. -/
def removeOwned (t : SubscriptionTable) (gate : GateId) (id : SubscriptionId) :
    Bool × SubscriptionTable :=
  match t.get? id with
  | some s => if s.gate = gate then (true, (t.remove id).2) else (false, t)
  | none => (false, t)

/-- Removes all subscriptions of `gate` and answers with their names. -/
def removeGate (t : SubscriptionTable) (gate : GateId) :
    List SubscriptionId × SubscriptionTable :=
  let ids := (t.owned gate).toList
  (ids.filter (t.entries.contains ·),
    ⟨ids.foldl (fun entries id => entries.erase id) t.entries, t.byGate.erase gate⟩)

/-- Keeps the `results` last told of the subscription `id`, if it is still there. -/
def commit (t : SubscriptionTable) (id : SubscriptionId) (results : ResultSet) (sequence : Nat) :
    Bool × SubscriptionTable :=
  match t.get? id with
  | some s => (true, { t with entries := t.entries.insert id { s with last := results, sequence } })
  | none => (false, t)

end SubscriptionTable

end GraphBroker

import GraphBroker.Rdf.ResultsJson
import GraphBroker.Uuid

/-!
# Notifications

What a subscriber is told when the results of its query have changed.

## Main definitions

* `Notification`: a numbered change of a subscription, with its JSON.
-/

namespace GraphBroker

/-- A change of the results of a subscription. -/
structure Notification where
  /-- The subscription. -/
  subscription : SubscriptionId
  /-- The number of the notification; the first one of a subscription is 1. -/
  sequence : Nat
  /-- What has come and gone. -/
  change : ResultDiff
deriving DecidableEq

namespace Notification

/-- The members of the notification. -/
def members (n : Notification) : List (String × Json) :=
  [("spuid", n.subscription.toJson), ("sequence", .int n.sequence),
    ("added", n.change.added.toJson), ("removed", n.change.removed.toJson)]

/-- The notification that a JSON value inside a message spells. -/
def ofJson? (json : Json) : Option Notification := do
  let fields ← json.fields? ["spuid", "sequence", "added", "removed"]
  return {
    subscription := ← fields.required? "spuid" SubscriptionId.ofJson?
    sequence := ← fields.required? "sequence" (Json.nat? 64)
    change := {
      added := ← fields.required? "added" (ResultSet.ofJson? .kept)
      removed := ← fields.required? "removed" (ResultSet.ofJson? .kept) } }

end Notification

end GraphBroker

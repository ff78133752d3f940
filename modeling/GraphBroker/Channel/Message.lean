import GraphBroker.Channel.Notification
import GraphBroker.Fault.Response

/-!
# Messages on the channel

What the broker tells a client over its channel: the replies to its requests,
in their order, and notifications between them.

## Main definitions

* `Message`: a reply or a notification.
* `Message.toJson`, `Message.ofJson?`.
-/

namespace GraphBroker

/-- What the broker tells a client. -/
inductive Message where
  /-- The subscription `id` is made; `initial` has its results so far. -/
  | subscribed (id : SubscriptionId) (label : Option String) (initial : ResultSet)
  /-- The subscription `id` is no more. -/
  | unsubscribed (id : SubscriptionId)
  /-- The results of a subscription have changed. -/
  | notification (n : Notification)
  /-- An update has been applied. -/
  | updated
  /-- The results of a query. -/
  | results (r : ResultSet)
  /-- A request has failed. -/
  | error (response : ErrorResponse)
deriving DecidableEq

namespace Message

/-- The message that tells of `fault`. -/
def ofFault (fault : Fault) : Message :=
  error fault.response

/-- Whether the message tells of an error. -/
def isError : Message → Bool
  | error _ => true
  | _ => false

/-- The kind of message as one word. -/
def kind : Message → String
  | subscribed .. => "subscribe_response"
  | unsubscribed _ => "unsubscribe_response"
  | notification _ => "notification"
  | updated => "update_response"
  | results _ => "query_response"
  | error _ => "error"

/-- The message as JSON. -/
def toJson (message : Message) : Json :=
  .object (("type", .text message.kind) ::
    match message with
    | subscribed id label initial =>
      ("spuid", id.toJson) :: Json.member? "alias" (label.map .text) ++
        [("initial_results", initial.toJson)]
    | unsubscribed id => [("spuid", id.toJson)]
    | notification n => n.members
    | updated => []
    | results r => [("results", r.toJson)]
    | error response => response.members)

/-- The message that `json` spells. -/
def ofJson? (json : Json) : Option Message := do
  match ← json.variant? .outermost with
  | ("subscribe_response", rest) =>
    let fields ← rest.fields? ["spuid", "alias", "initial_results"]
    return subscribed (← fields.required? "spuid" SubscriptionId.ofJson?)
      (← fields.defaulted? "alias" none (Json.nullable? Json.text?))
      (← fields.required? "initial_results" (ResultSet.ofJson? .kept))
  | ("unsubscribe_response", rest) =>
    let fields ← rest.fields? ["spuid"]
    return unsubscribed (← fields.required? "spuid" SubscriptionId.ofJson?)
  | ("notification", rest) => return notification (← Notification.ofJson? rest)
  | ("update_response", rest) =>
    let _ ← rest.fields? []
    return updated
  | ("query_response", rest) =>
    let fields ← rest.fields? ["results"]
    return results (← fields.required? "results" (ResultSet.ofJson? .kept))
  | ("error", rest) => return error (← ErrorResponse.ofJson? rest)
  | _ => none

end Message

end GraphBroker

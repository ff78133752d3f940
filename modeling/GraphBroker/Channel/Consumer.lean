import GraphBroker.Channel.Message

/-!
# Consumers

A client hands each message it receives to a consumer as one or more events. A
consumer that forwards messages sends each on as it came.

## Main definitions

* `Event`: what a consumer is told.
* `Message.events`: the events of a message, in their order.
* `Event.forwarded?`: the message that a forwarding consumer makes of an event.
-/

namespace GraphBroker

/-- What a consumer is told. -/
inductive Event where
  /-- A subscription is made. -/
  | subscribed (id : SubscriptionId) (label : Option String) (initial : ResultSet)
  /-- The results of a subscription have changed. -/
  | changed (n : Notification)
  /-- These solutions have come. -/
  | added (id : SubscriptionId) (rows : ResultSet)
  /-- These solutions have gone. -/
  | removed (id : SubscriptionId) (rows : ResultSet)
  /-- A subscription is no more. -/
  | unsubscribed (id : SubscriptionId)
  /-- A request has failed. -/
  | failed (response : ErrorResponse)
  /-- An update or a query has been answered. -/
  | answered (message : Message)
deriving DecidableEq

/-- The events of a message: a notification is told as a whole first, then what has come and
what has gone, if anything has. -/
def Message.events : Message → List Event
  | subscribed id label initial => [.subscribed id label initial]
  | notification n =>
    .changed n ::
      ((if n.change.added.isEmpty then [] else [.added n.subscription n.change.added]) ++
        if n.change.removed.isEmpty then [] else [.removed n.subscription n.change.removed])
  | unsubscribed id => [.unsubscribed id]
  | error response => [.failed response]
  | updated => [.answered updated]
  | results r => [.answered (results r)]

/-- An event as JSON: what is called, and with what. -/
def Event.toJson (event : Event) : Json :=
  let call (name : String) (members : List (String × Json)) : Json :=
    .object (("call", .text name) :: members)
  match event with
  | subscribed id label initial => call "on_subscribe"
    [("spuid", id.toJson), ("alias", Json.ofText? label), ("initial", initial.toJson)]
  | changed n => call "on_results" [("notification", .object n.members)]
  | added id rows => call "on_added" [("spuid", id.toJson), ("added", rows.toJson)]
  | removed id rows => call "on_removed" [("spuid", id.toJson), ("removed", rows.toJson)]
  | unsubscribed id => call "on_unsubscribe" [("spuid", id.toJson)]
  | failed response => call "on_error" [("error", response.toJson)]
  | answered message => call "on_response" [("message", message.toJson)]

/-- The message that a forwarding consumer sends on for an event. -/
def Event.forwarded? : Event → Option Message
  | subscribed id label initial => some (.subscribed id label initial)
  | changed n => some (.notification n)
  | unsubscribed id => some (.unsubscribed id)
  | failed response => some (.error response)
  | answered message => some message
  | added .. | removed .. => none

/-- What a forwarding consumer sends on for a message. -/
def Message.forwarded (message : Message) : List Message :=
  message.events.filterMap Event.forwarded?

end GraphBroker

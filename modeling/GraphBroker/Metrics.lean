import GraphBroker.Json.Basic

/-!
# Metrics

What has happened on the gates of a broker, counted.

## Main definitions

* `Counter`, `Metrics`: the counters and their values.
* `Metrics.count`, `Metrics.opened`, `Metrics.closed`, `Metrics.reset`.
-/

namespace GraphBroker

/-- What is counted one by one. -/
inductive Counter where
  /-- Messages received. -/
  | messages
  /-- Fragments received before the last one of a message. -/
  | fragmented
  /-- Messages refused. -/
  | errors
  /-- Replies to subscriptions that were handed over. -/
  | subscribeResponses
  /-- Replies to the end of a subscription that were handed over. -/
  | unsubscribeResponses
  /-- Notifications that were handed over. -/
  | notifications
  /-- Errors that were handed over. -/
  | errorResponses
deriving DecidableEq, Repr

/-- All counters. -/
def Counter.all : List Counter :=
  [.messages, .fragmented, .errors, .subscribeResponses, .unsubscribeResponses, .notifications,
    .errorResponses]

/-- The name of a counter. -/
def Counter.name : Counter → String
  | messages => "messages"
  | fragmented => "fragmented"
  | errors => "errors"
  | subscribeResponses => "subscribe_responses"
  | unsubscribeResponses => "unsubscribe_responses"
  | notifications => "notifications"
  | errorResponses => "error_responses"

/-- What has happened on the gates. -/
structure Metrics where
  /-- Gates that are open now. -/
  active : Nat := 0
  /-- Gates that have been opened. -/
  openedGates : Nat := 0
  /-- Gates that have been closed. -/
  closedGates : Nat := 0
  /-- Messages received. -/
  messages : Nat := 0
  /-- Fragments received before the last one of a message. -/
  fragmented : Nat := 0
  /-- Messages refused. -/
  errors : Nat := 0
  /-- Replies to subscriptions that were handed over. -/
  subscribeResponses : Nat := 0
  /-- Replies to the end of a subscription that were handed over. -/
  unsubscribeResponses : Nat := 0
  /-- Notifications that were handed over. -/
  notifications : Nat := 0
  /-- Errors that were handed over. -/
  errorResponses : Nat := 0
deriving DecidableEq, Repr

namespace Metrics

/-- One more of what is counted. -/
def count (m : Metrics) : Counter → Metrics
  | .messages => { m with messages := m.messages + 1 }
  | .fragmented => { m with fragmented := m.fragmented + 1 }
  | .errors => { m with errors := m.errors + 1 }
  | .subscribeResponses => { m with subscribeResponses := m.subscribeResponses + 1 }
  | .unsubscribeResponses => { m with unsubscribeResponses := m.unsubscribeResponses + 1 }
  | .notifications => { m with notifications := m.notifications + 1 }
  | .errorResponses => { m with errorResponses := m.errorResponses + 1 }

/-- A gate has been opened. -/
def opened (m : Metrics) : Metrics :=
  { m with active := m.active + 1, openedGates := m.openedGates + 1 }

/-- A gate has been closed. -/
def closed (m : Metrics) : Metrics :=
  { m with active := m.active - 1, closedGates := m.closedGates + 1 }

/-- All counters but those of gates start again. -/
def reset (m : Metrics) : Metrics where
  active := m.active
  openedGates := m.openedGates
  closedGates := m.closedGates

/-- The counters as JSON. -/
def toJson (m : Metrics) : Json :=
  .object [("gates_opened", .int m.openedGates), ("gates_closed", .int m.closedGates),
    ("active_gates", .int m.active), ("messages", .int m.messages),
    ("fragmented", .int m.fragmented), ("errors", .int m.errors),
    ("subscribe_responses", .int m.subscribeResponses),
    ("unsubscribe_responses", .int m.unsubscribeResponses),
    ("notifications", .int m.notifications), ("error_responses", .int m.errorResponses)]

end Metrics

end GraphBroker

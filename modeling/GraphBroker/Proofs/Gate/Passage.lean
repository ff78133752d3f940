import GraphBroker.Proofs.Gate.Calls

/-!
# Calls on a gate that overlap

Senders, the writer and those who close a gate do not wait for each other. A sender first looks
whether the gate is open and then tries to place its message in the queue. The writer first looks
whether it has been told to stop, then takes the oldest message, and then looks whether the gate is
still open. Who closes the gate first moves its state and then tells those who hold it to stop.
Between two stages of one call others may go on with theirs. There is one writer, and any number of
senders and of those who close.

## Main definitions

* `Gate.place`, `Gate.takeOldest?`, `Gate.startClosing`, `Gate.tellToStop`: the stages of calls.
* `Passage`: a gate with the calls that are under way.
* `Passage.Step`: a stage of a call.
* `Log`, `Passage.Run`: what is noted of the stages, and what any stages in a row lead to.

## Main statements

* `send_eq_stages`, `receive_eq_stages`, `beginClose_eq_stages`: a call is its stages one after
  another.
-/

namespace GraphBroker

namespace Gate

/-! ### Stages -/

/-- Places `message` in the queue of `g`, which has been found open. -/
def place (g : Gate) (message : Message) : Delivery × Gate :=
  if !g.hasWriter then (.gateClosed, { g with state := g.state.advance .closing })
  else if g.outbound.length < g.outboundCapacity then
    (.delivered, { g with outbound := g.outbound ++ [message] })
  else (.busy, g)

/-- Takes the oldest message out of the queue of `g`. -/
def takeOldest? (g : Gate) : Option (Message × Gate) :=
  match g.outbound with
  | [] => none
  | message :: rest => some (message, { g with outbound := rest })

/-- The gate `g`, which is not open any more. -/
def startClosing (g : Gate) : Gate :=
  { g with state := g.state.advance .closing }

/-- Those who hold the gate are told to stop, and what has arrived in fragments is forgotten. -/
def tellToStop (g : Gate) : Gate :=
  { g with cancelled := true, fragments := g.fragments.clear }

variable {g : Gate} {message : Message}

theorem isOpen_startClosing : g.startClosing.isOpen = false := by
  obtain ⟨_, state⟩ := g
  cases state <;> rfl

theorem isOpen_finishClose : g.finishClose.isOpen = false := by
  obtain ⟨_, state⟩ := g
  cases state <;> rfl

theorem startClosing_of_not_isOpen (shut : g.isOpen = false) : g.startClosing = g := by
  obtain ⟨_, state⟩ := g
  cases state
  · cases shut
  · rfl
  · rfl

theorem send_eq_stages (g : Gate) (message : Message) :
    g.send message = if g.isOpen then g.place message else (.gateClosed, g) := by
  rw [send, place]
  cases g.isOpen <;> rfl

theorem receive_eq_stages (g : Gate) : g.receive =
    if g.cancelled then (.ended, g)
    else match g.takeOldest? with
      | none => (.waiting, g)
      | some (message, rest) => (if rest.isOpen then .message message else .ended, rest) := by
  rw [receive, takeOldest?]
  cases g.outbound <;> rfl

theorem beginClose_eq_stages (g : Gate) : g.beginClose =
    if g.isOpen then (true, g.startClosing.tellToStop) else (false, g.startClosing) := by
  rw [beginClose]
  cases opened : g.isOpen with
  | true =>
    have state := isOpen_iff.1 opened
    simp only [if_true, startClosing, tellToStop, state]
    rfl
  | false =>
    rw [startClosing_of_not_isOpen opened]
    rfl

/-- A `message` finds a place in the queue, or there is none. -/
theorem place_of_hasWriter (writer : g.hasWriter) : g.place message =
    if g.outbound.length < g.outboundCapacity then
      (.delivered, { g with outbound := g.outbound ++ [message] })
    else (.busy, g) := by
  rw [place, writer]
  rfl

theorem takeOldest?_eq_none_iff : g.takeOldest? = none ↔ g.outbound = [] := by
  rw [takeOldest?]
  cases g.outbound <;> simp

theorem takeOldest?_eq_some_iff {rest : Gate} : g.takeOldest? = some (message, rest) ↔
    g.outbound = message :: rest.outbound ∧ rest = { g with outbound := rest.outbound } := by
  rw [takeOldest?]
  cases g.outbound with
  | nil => simp
  | cons first others =>
    simp only [Option.some.injEq, Prod.mk.injEq, List.cons.injEq]
    constructor
    · rintro ⟨rfl, rfl⟩
      exact ⟨⟨rfl, rfl⟩, rfl⟩
    · rintro ⟨⟨rfl, others⟩, same⟩
      exact ⟨rfl, by rw [same, others]⟩

end Gate

/-! ### Calls under way -/

/-- How far the writer has come. -/
inductive Reading where
  /-- It is about to look whether it has been told to stop. -/
  | idle
  /-- It has not been told to stop. -/
  | looking
  /-- It has taken `message`. -/
  | holding (message : Message)

/-- The message that the writer has taken and not yet returned. -/
def Reading.held : Reading → List Message
  | holding message => [message]
  | idle | looking => []

/-- A gate with the calls that are under way. -/
structure Passage where
  /-- The gate. -/
  gate : Gate
  /-- The messages of those who have found the gate open. -/
  sending : List Message := []
  /-- How far the writer has come. -/
  reading : Reading := .idle
  /-- Whether someone who has found the gate open when closing it is about to tell those who hold
  it to stop. -/
  telling : Bool := false

namespace Passage

/-- A stage of a call, with the answer if the call ends there. -/
inductive Event where
  /-- A sender finds that the gate is not open, and is answered so. Its `message` is dropped. -/
  | refused (message : Message)
  /-- The sender of `message` finds the gate open. -/
  | admitted (message : Message)
  /-- A sender tries to place `message` in the queue, and gets this `answer`. -/
  | placed (message : Message) (answer : Delivery)
  /-- The writer finds that it has not been told to stop. -/
  | looked
  /-- The writer finds no message. It starts again when there is one, or when it is told to
  stop. -/
  | waited
  /-- The writer takes the oldest message, which is `message`. -/
  | took (message : Message)
  /-- The call of the writer ends with this `answer`, which is a message or none. -/
  | returned (answer : Option Message)
  /-- Someone who closes the gate moves its state, and finds whether it was open. -/
  | closing (wasOpen : Bool)
  /-- Those who hold the gate are told to stop. -/
  | told
  /-- The gate is closed. -/
  | closed

/-- What may happen next. The gate is closed only after someone has started to close it, so that
it is not open any more. -/
inductive Step : Passage → Event → Passage → Prop where
  /-- The sender of `message` comes to a gate that is not open. -/
  | refuse {p : Passage} (message : Message) (shut : p.gate.isOpen = false) :
    Step p (.refused message) p
  /-- The sender of `message` comes to an open gate. -/
  | approach {p : Passage} (message : Message) (opened : p.gate.isOpen) :
    Step p (.admitted message) { p with sending := message :: p.sending }
  /-- The sender of `message`, which has found the gate open, goes on. -/
  | place {p : Passage} {message : Message} (underWay : message ∈ p.sending) :
    Step p (.placed message (p.gate.place message).1)
      { p with gate := (p.gate.place message).2, sending := p.sending.erase message }
  /-- The writer starts and has been told to stop. -/
  | stop {p : Passage} (idle : p.reading = .idle) (told : p.gate.cancelled) :
    Step p (.returned none) p
  /-- The writer starts and has not been told to stop. -/
  | look {p : Passage} (idle : p.reading = .idle) (untold : p.gate.cancelled = false) :
    Step p .looked { p with reading := .looking }
  /-- The writer goes on and finds no message. -/
  | wait {p : Passage} (looking : p.reading = .looking) (empty : p.gate.takeOldest? = none) :
    Step p .waited { p with reading := .idle }
  /-- The writer goes on and takes the oldest message, which is `message`. -/
  | take {p : Passage} {message : Message} {rest : Gate} (looking : p.reading = .looking)
    (found : p.gate.takeOldest? = some (message, rest)) :
    Step p (.took message) { p with gate := rest, reading := .holding message }
  /-- The writer returns the `message` that it has taken, unless the gate is not open any more. -/
  | hand {p : Passage} {message : Message} (holding : p.reading = .holding message) :
    Step p (.returned (if p.gate.isOpen then some message else none))
      { p with reading := .idle }
  /-- Someone starts to close the gate. -/
  | begin {p : Passage} : Step p (.closing p.gate.isOpen)
      { p with gate := p.gate.startClosing, telling := p.telling || p.gate.isOpen }
  /-- Who has found the gate open when closing it goes on. -/
  | tell {p : Passage} (telling : p.telling) :
    Step p .told { p with gate := p.gate.tellToStop, telling := false }
  /-- Someone closes the gate. -/
  | finish {p : Passage} (shut : p.gate.isOpen = false) :
    Step p .closed { p with gate := p.gate.finishClose }

end Passage

/-- What is noted of the stages of calls. -/
structure Log where
  /-- The messages whose senders were answered that they are delivered. -/
  delivered : List Message := []
  /-- The messages that the writer has taken. -/
  taken : List Message := []
  /-- The messages that the writer has returned. -/
  received : List Message := []
  /-- Whether someone has started to close the gate. -/
  closing : Bool := false
  /-- Whether those who hold the gate have been told to stop. -/
  told : Bool := false

/-- Notes one more stage in `log`. -/
def Log.note (log : Log) : Passage.Event → Log
  | .placed message .delivered => { log with delivered := log.delivered ++ [message] }
  | .took message => { log with taken := log.taken ++ [message] }
  | .returned (some message) => { log with received := log.received ++ [message] }
  | .closing _ => { log with closing := true }
  | .told => { log with told := true }
  | _ => log

/-- What any stages of calls in a row lead to from a gate that has just been opened on `path`, and
what is noted of them. -/
inductive Passage.Run (path : String) (config : GateConfig) : Log → Passage → Prop where
  /-- The gate has just been opened. -/
  | opened : Run path config {} { gate := .ofConfig path config }
  /-- One more stage. -/
  | step {log : Log} {p q : Passage} {event : Event} (run : Run path config log p)
    (step : Step p event q) : Run path config (log.note event) q

end GraphBroker

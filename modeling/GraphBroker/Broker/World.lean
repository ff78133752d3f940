import GraphBroker.Access.Authority
import GraphBroker.Engine.Basic
import GraphBroker.Scheduler.Basic

/-!
# The world of a broker

The surroundings in which the scheduler of a broker works: a query engine, the
authority with its clock, and the gates that are open to it.

## Main definitions

* `World`: the engine, the authority and the gates.
-/

namespace GraphBroker

open Std

/-- The surroundings of the scheduler of a broker. -/
structure World (ε : Type) where
  /-- The query engine. -/
  engine : ε
  /-- For how many milliseconds its answer is waited for. -/
  timeoutMs : Nat
  /-- Who may use the broker. -/
  authority : Authority
  /-- The second that it is now. -/
  now : Int
  /-- The gates that messages can be handed to. -/
  gates : ExtTreeMap GateId Gate

namespace World

variable {ε : Type}

/-- The gate of the name `id`. -/
def gate? (w : World ε) (id : GateId) : Option Gate :=
  w.gates[id]?

/-- The world with `gate` in the place of `id`, or added. -/
def putGate (w : World ε) (id : GateId) (gate : Gate) : World ε :=
  { w with gates := w.gates.insert id gate }

/-- Hands `message` to the gate `id`. One that is not there is as good as closed. -/
def dispatch (w : World ε) (id : GateId) (message : Message) : Delivery × World ε :=
  match w.gate? id with
  | none => (.gateClosed, w)
  | some gate =>
    let (delivery, gate) := gate.send message
    (delivery, w.putGate id gate)

instance [QueryEngine ε] : Surroundings (World ε) where
  authorize header w := (w.authority.authorize w.now header).map fun _ => ()
  execute pattern w :=
    let (answer, engine) := QueryEngine.execute pattern w.engine
    (answer.within w.timeoutMs, { w with engine })
  update text w :=
    let (answer, engine) := QueryEngine.update text w.engine
    (answer.within w.timeoutMs, { w with engine })
  dispatch id message w := w.dispatch id message
  arrange _ subscriptions := subscriptions
  arrange_perm _ _ := .refl _

end World

end GraphBroker

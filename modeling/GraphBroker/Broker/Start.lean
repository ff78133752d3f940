import GraphBroker.Broker.Basic
import GraphBroker.Config.Layers
import GraphBroker.Engine.Provided
import GraphBroker.Http.Routes

/-!
# Starting a broker

A broker is started with files and variables, from which its settings come. It
ends at once if they make no broker, or if it cannot listen where they tell it to.

## Main definitions

* `Broker.Start`: what comes of a start.
* `Broker.start`: starts a broker.
-/

namespace GraphBroker.Broker

/-- What comes of a start. -/
inductive Start where
  /-- The broker ends at once, with a status and a line that says why. -/
  | ended (status : Nat) (line : String)
  /-- The broker listens. -/
  | listening
deriving DecidableEq, Repr

/-- The name of the place where a broker runs, which one of `vars` may give. -/
def place (vars : List (String × String)) : String :=
  (vars.lookup "BROKER_ENV").getD "development"

/-- Starts a broker. Only what is wrong with the settings themselves is told; a path on which
the channel cannot be served is noticed last. -/
def start {ν : Type} [Network ν] (files vars : List (String × String)) (now : Int)
    (supply : Supply) (network : ν) : Start :=
  match BrokerConfig.load files (place vars) vars with
  | .error fault => .ended 1 ("Failed to load configuration: " ++ fault.line)
  | .ok config =>
    match (Provided.ofConfig config.engine network).bind (ofConfig config · now supply) with
    | .error _ => .ended 1 ""
    | .ok _ =>
      if !Network.binds config.server.host network then .ended 1 ""
      else if !Http.isServable config.gate.path then .ended 101 ""
      else .listening

end GraphBroker.Broker

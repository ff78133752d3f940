import GraphBroker.Engine.Memory
import GraphBroker.Engine.Remote

/-!
# The engine of a broker

The settings name the kind of engine.

## Main definitions

* `Provided`: an engine of either kind.
* `Provided.ofConfig`: the engine that the settings describe.
-/

namespace GraphBroker

/-- An engine of one of the kinds that the settings can name. -/
inductive Provided (ν : Type) where
  /-- In memory. -/
  | memory (engine : Memory)
  /-- Elsewhere. -/
  | remote (engine : Remote ν)

namespace Provided

variable {ν : Type}

/-- The engine that the settings describe. -/
def ofConfig (config : EngineConfig) (network : ν) : Outcome (Provided ν) :=
  if config.provider = "memory" then .ok (.memory {})
  else if config.provider = "remote" then (Remote.ofConfig config network).map .remote
  else .error (.configuration ("Unknown engine provider '" ++ config.provider ++ "'"))

instance [Network ν] : QueryEngine (Provided ν) where
  name
    | .memory engine => QueryEngine.name engine
    | .remote engine => QueryEngine.name engine
  health
    | .memory engine => (QueryEngine.health engine).map id .memory
    | .remote engine => (QueryEngine.health engine).map id .remote
  query text
    | .memory engine => (QueryEngine.query text engine).map id .memory
    | .remote engine => (QueryEngine.query text engine).map id .remote
  update text
    | .memory engine => (QueryEngine.update text engine).map id .memory
    | .remote engine => (QueryEngine.update text engine).map id .remote

end Provided

end GraphBroker

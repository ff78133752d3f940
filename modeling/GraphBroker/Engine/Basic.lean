import GraphBroker.Fault.Basic
import GraphBroker.Sparql.Forced

/-!
# Query engines

An engine answers queries and applies updates. It may answer with a fault, and it
may not answer at all.

## Main definitions

* `Answer`: what an engine answers, or its silence.
* `Answer.within`: an answer that is waited for only so long.
* `QueryEngine`: the engines whose states are of a given type.
-/

namespace GraphBroker

/-- What an engine answers. -/
inductive Answer (α : Type) where
  /-- It never answers. -/
  | silent
  /-- It answers with a value or a fault. -/
  | given (outcome : Outcome α)

namespace Answer

/-- The fault of an engine that has not answered within `limit` milliseconds. -/
def late (limit : Nat) : Fault :=
  .transport ("Query engine did not answer within " ++ toString limit ++ " ms")

/-- An answer that is waited for at most `limit` milliseconds. -/
def within {α : Type} (limit : Nat) : Answer α → Outcome α
  | silent => .error (late limit)
  | given outcome => outcome

end Answer

/-- Engines whose states are of the type `ε`. Each call may change the state. -/
class QueryEngine (ε : Type) where
  /-- The name of the kind of engine. -/
  name : ε → String
  /-- Whether the engine can be reached. -/
  health : ε → Answer Bool × ε
  /-- The result of a query. -/
  query : String → ε → Answer ResultSet × ε
  /-- Applies an update. -/
  update : String → ε → Answer Unit × ε

/-- The result of `pattern`, a query with forced bindings. -/
def QueryEngine.execute {ε : Type} [QueryEngine ε] (pattern : Sparql.Pattern) (engine : ε) :
    Answer ResultSet × ε :=
  query pattern.render engine

end GraphBroker

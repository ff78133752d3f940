import GraphBroker.Engine.Basic
import GraphBroker.Sparql.Apply
import GraphBroker.Sparql.Parser

/-!
# The engine in memory

An engine that keeps one graph. A text is read to its end before anything is
done, so that a request that cannot be read leaves the graph as it is.

## Main definitions

* `Graph.query`, `Graph.update`: what a text asks of a graph.
* `Memory`: the engine.
-/

namespace GraphBroker

open Sparql

/-- What was read, with the syntax error of a text as a fault. -/
def readable {α : Type} (read : Except SyntaxError α) : Outcome α :=
  read.mapError SyntaxError.toFault

/-- The result of the query `text` on `g`. -/
def Graph.query (g : Graph) (text : String) : Outcome ResultSet :=
  (readable (Query.parse text)).map (·.select g)

/-- The graph after the update `text` of `g`. -/
def Graph.update (g : Graph) (text : String) : Outcome Graph :=
  (readable (Operation.parseList text)).map (applyAll g)

/-- The result of `pattern`, a query with forced bindings, on `g`. -/
def Graph.execute (g : Graph) (pattern : Pattern) : Outcome ResultSet :=
  g.query pattern.render

/-- The engine that keeps a graph in memory. -/
structure Memory where
  /-- The graph. -/
  graph : Graph := ∅
deriving DecidableEq, Inhabited

/-- The engine after the update `text`: unchanged if this cannot be read. -/
def Memory.update (text : String) (engine : Memory) : Outcome Unit × Memory :=
  match engine.graph.update text with
  | .ok g => (.ok (), ⟨g⟩)
  | .error fault => (.error fault, engine)

instance : QueryEngine Memory where
  name _ := "memory"
  health engine := (.given (.ok true), engine)
  query text engine := (.given (engine.graph.query text), engine)
  update text engine := (engine.update text).map .given id

end GraphBroker

import GraphBroker.Sparql.Operation
import GraphBroker.Sparql.Solve

/-!
# Applying updates

What an operation makes of a graph. Solutions are taken in the graph before the
operation, and what it removes goes before what it adds.

## Main definitions

* `Operation.apply`: the graph after one operation.
* `Sparql.applyAll`: the graph after a list of operations.
-/

namespace GraphBroker.Sparql

/-- The graph after an operation. -/
def Operation.apply (g : Graph) : Operation → Graph
  | insertData triples => g.insertMany triples
  | deleteData triples => g.eraseMany triples
  | deleteWhere pattern => g.eraseMany (instances pattern (solve g pattern))
  | modify delete insert pattern =>
    let solutions := solve g pattern
    (g.eraseMany (instances delete solutions)).insertMany (instances insert solutions)
  | clear => ∅

/-- The graph `g` after the operations `ops`, one after another. -/
def applyAll (g : Graph) (ops : List Operation) : Graph :=
  ops.foldl Operation.apply g

end GraphBroker.Sparql

import GraphBroker.Sparql.Query

/-!
# Updates

An update is a list of operations on a graph.

## Main definitions

* `Sparql.Operation`: one operation.
-/

namespace GraphBroker.Sparql

/-- One operation of an update. -/
inductive Operation where
  /-- Adds triples. -/
  | insertData (triples : List Triple)
  /-- Removes triples. -/
  | deleteData (triples : List Triple)
  /-- Removes the instances of the patterns under all their solutions. -/
  | deleteWhere (pattern : List TriplePattern)
  /-- Removes the instances of one template and adds those of another, under all solutions of
  a pattern. -/
  | modify (delete insert pattern : List TriplePattern)
  /-- Removes all triples. -/
  | clear
deriving DecidableEq, Repr

end GraphBroker.Sparql

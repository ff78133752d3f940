import GraphBroker.Rdf.ResultSet
import GraphBroker.Sparql.Query

/-!
# Solutions

Which bindings turn a list of patterns into triples of a graph, and what a query
makes of them.

## Main definitions

* `TriplePattern.match?`: a binding extended so that a pattern becomes a given triple.
* `Sparql.solve`: all solutions of a list of patterns.
* `TriplePattern.instantiate?`: the triple that a pattern becomes under a binding.
* `Query.select`: the result of a query.
-/

namespace GraphBroker.Sparql

/-- The binding `b` extended so that `place` holds the term `t`, if it can be. -/
def PatternTerm.match? (place : PatternTerm) (t : Term) (b : Binding) : Option Binding :=
  match place with
  | term s => if s = t then some b else none
  | var name =>
    match b.get? name with
    | some s => if s = t then some b else none
    | none => some (b.insert name t)

/-- The binding `b` extended so that the pattern `p` becomes the triple `t`, if it can be. -/
def TriplePattern.match? (p : TriplePattern) (t : Triple) (b : Binding) : Option Binding := do
  let b ← p.subject.match? t.subject b
  let b ← p.predicate.match? t.predicate b
  p.object.match? t.object b

/-- The solutions of one more pattern `p` that extend given `solutions`. -/
def extend (g : Graph) (solutions : List Binding) (p : TriplePattern) : List Binding :=
  solutions.flatMap fun b => g.triples.filterMap fun t => p.match? t b

/-- The solutions of `patterns` on `g`. -/
def solve (g : Graph) (patterns : List TriplePattern) : List Binding :=
  patterns.foldl (extend g) [∅]

/-- The term that stands in the place under a binding. -/
def PatternTerm.resolve? (b : Binding) : PatternTerm → Option Term
  | term t => some t
  | var name => b.get? name

/-- The triple that the pattern `p` becomes under `b`, if all its variables are bound. -/
def TriplePattern.instantiate? (p : TriplePattern) (b : Binding) : Option Triple := do
  return ⟨← p.subject.resolve? b, ← p.predicate.resolve? b, ← p.object.resolve? b⟩

/-- All triples that the `templates` become under the `solutions`. -/
def instances (templates : List TriplePattern) (solutions : List Binding) : List Triple :=
  solutions.flatMap fun b => templates.filterMap (·.instantiate? b)

/-- Adds rows to `r` until there are as many as `limit` allows. -/
def collect (limit : Option Nat) (r : ResultSet) : List Binding → ResultSet
  | [] => r
  | b :: rows => if limit.any (· ≤ r.size) then r else collect limit (r.insert b) rows

/-- The result of `q` on `g`: its solutions on the variables asked for, as many as the limit
allows. -/
def Query.select (q : Query) (g : Graph) : ResultSet :=
  collect q.limit (.empty q.variables) ((solve g q.pattern).map (·.project q.variables))

end GraphBroker.Sparql

import GraphBroker.Rdf.Graph

/-!
# Queries

A query asks for the values of variables in the solutions of a list of triple
patterns.

## Main definitions

* `Sparql.PatternTerm`, `Sparql.TriplePattern`: a term or a variable, and three of them.
* `Sparql.Query`: projection, pattern and limit.
* `Query.variables`: the variables that the result is about.
-/

namespace GraphBroker.Sparql

/-- A place in a triple pattern. -/
inductive PatternTerm where
  /-- A fixed term. -/
  | term (t : Term)
  /-- A variable. -/
  | var (name : String)
deriving DecidableEq, Repr, Inhabited

/-- The variable that stands in the place, if one does. -/
def PatternTerm.var? : PatternTerm → Option String
  | term _ => none
  | var name => some name

/-- The term that stands in the place, if one does. -/
def PatternTerm.term? : PatternTerm → Option Term
  | term t => some t
  | var _ => none

/-- A triple with variables. -/
structure TriplePattern where
  /-- The subject. -/
  subject : PatternTerm
  /-- The predicate. -/
  predicate : PatternTerm
  /-- The object. -/
  object : PatternTerm
deriving DecidableEq, Repr, Inhabited

namespace TriplePattern

/-- The three places in their order. -/
def places (p : TriplePattern) : List PatternTerm :=
  [p.subject, p.predicate, p.object]

/-- The variables in the order of their places. -/
def vars (p : TriplePattern) : List String :=
  p.places.filterMap PatternTerm.var?

/-- The triple that the pattern is if it has no variable. -/
def ground? (p : TriplePattern) : Option Triple := do
  return ⟨← p.subject.term?, ← p.predicate.term?, ← p.object.term?⟩

/-- The pattern that is a given triple. -/
def ofTriple (t : Triple) : TriplePattern :=
  ⟨.term t.subject, .term t.predicate, .term t.object⟩

end TriplePattern

/-- The variables of the patterns in the order of their first appearance. -/
def patternVars (patterns : List TriplePattern) : List String :=
  (patterns.flatMap TriplePattern.vars).foldl
    (fun seen name => if seen.contains name then seen else seen ++ [name]) []

/-- A query. -/
structure Query where
  /-- The variables asked for; all of them if missing. -/
  projection : Option (List String)
  /-- The patterns that a solution has to match. -/
  pattern : List TriplePattern
  /-- The greatest number of rows, if there is one. -/
  limit : Option Nat
deriving DecidableEq, Repr

/-- The variables that the result is about. -/
def Query.variables (q : Query) : List String :=
  q.projection.getD (patternVars q.pattern)

end GraphBroker.Sparql

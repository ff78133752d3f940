import GraphBroker.Sparql.Operation

/-!
# Writing queries and updates

A query or an update as text, with single blanks between its parts: variables with
a question mark, terms as they are written in queries, points between triples and
semicolons between operations.

## Main definitions

* `Query.print`: a query as text.
* `Operation.printList`: an update as text.
-/

namespace GraphBroker.Sparql

/-- The characters of a place. -/
def PatternTerm.chars : PatternTerm → List Char
  | .term t => t.sparqlChars
  | .var name => '?' :: name.toList

/-- The characters of a triple with variables. -/
def TriplePattern.chars (p : TriplePattern) : List Char :=
  [' '].intercalate (p.places.map PatternTerm.chars)

/-- The characters of a group of triples. -/
def groupChars : List TriplePattern → List Char
  | [] => "\x7b \x7d".toList
  | patterns =>
    "\x7b ".toList ++ " . ".toList.intercalate (patterns.map TriplePattern.chars) ++ " \x7d".toList

/-- The characters of a projection: the variables, or a star for all of them. -/
def projectionChars : Option (List String) → List Char
  | none => ['*']
  | some names => [' '].intercalate (names.map fun name => '?' :: name.toList)

namespace Query

/-- The characters of a query. -/
def chars (q : Query) : List Char :=
  "SELECT ".toList ++ projectionChars q.projection ++ " WHERE ".toList ++ groupChars q.pattern ++
    match q.limit with
    | some n => " LIMIT ".toList ++ Nat.toDigits 10 n
    | none => []

/-- The text of a query. -/
def print (q : Query) : String :=
  String.ofList q.chars

end Query

namespace Operation

/-- The characters of an operation. -/
def chars : Operation → List Char
  | insertData triples => "INSERT DATA ".toList ++ groupChars (triples.map .ofTriple)
  | deleteData triples => "DELETE DATA ".toList ++ groupChars (triples.map .ofTriple)
  | deleteWhere pattern => "DELETE WHERE ".toList ++ groupChars pattern
  | modify delete insert pattern =>
    "DELETE ".toList ++ groupChars delete ++ " INSERT ".toList ++ groupChars insert ++
      " WHERE ".toList ++ groupChars pattern
  | clear => "CLEAR ALL".toList

/-- The text of an update. -/
def printList (operations : List Operation) : String :=
  String.ofList (" ; ".toList.intercalate (operations.map chars))

end Operation

end GraphBroker.Sparql

import GraphBroker.Json.Basic
import GraphBroker.Rdf.ResultsJson
import GraphBroker.Sparql.Operation
import GraphBroker.Sparql.Token

/-!
# Outlines

What was read of a text as JSON, for those who want to look at it: each token and
each operation names its kind.

## Main definitions

* `Token.toJson`, `Query.toJson`, `Operation.toJson`.
-/

namespace GraphBroker.Sparql

/-- A token as an array of its kind and its parts. -/
def Token.toJson : Token → Json
  | .iri v => Json.ofTexts ["Iri", v]
  | .prefixedName label rest => Json.ofTexts ["PrefixedName", label, rest]
  | .var v => Json.ofTexts ["Var", v]
  | .string v => Json.ofTexts ["String", v]
  | .langTag v => Json.ofTexts ["LangTag", v]
  | .datatypeMarker => Json.ofTexts ["DatatypeMarker"]
  | .integer v => Json.ofTexts ["Integer", v]
  | .decimal v => Json.ofTexts ["Decimal", v]
  | .blankNode v => Json.ofTexts ["BlankNode", v]
  | .word v => Json.ofTexts ["Word", v]
  | .lbrace => Json.ofTexts ["LBrace"]
  | .rbrace => Json.ofTexts ["RBrace"]
  | .dot => Json.ofTexts ["Dot"]
  | .semicolon => Json.ofTexts ["Semicolon"]
  | .comma => Json.ofTexts ["Comma"]
  | .star => Json.ofTexts ["Star"]

/-- A place as its term, or as the name of its variable. -/
def PatternTerm.toJson : PatternTerm → Json
  | .term t => t.toJson
  | .var name => .object [("var", .text name)]

/-- A pattern as an array of its places. -/
def TriplePattern.toJson (p : TriplePattern) : Json :=
  .array (p.places.map PatternTerm.toJson)

/-- Patterns as an array. -/
def outline (patterns : List TriplePattern) : Json :=
  .array (patterns.map TriplePattern.toJson)

/-- A query with its variables, and which of its patterns have none. -/
def Query.toJson (q : Query) : Json :=
  .object [("projection", (q.projection.map Json.ofTexts).getD .null),
    ("pattern", outline q.pattern),
    ("limit", (q.limit.map fun n => Json.int n).getD .null),
    ("variables", Json.ofTexts q.variables),
    ("ground", .array (q.pattern.map fun p => .bool p.ground?.isSome))]

/-- An operation as an object whose member names its kind. -/
def Operation.toJson : Operation → Json
  | .insertData ts => .object [("insert_data", outline (ts.map .ofTriple))]
  | .deleteData ts => .object [("delete_data", outline (ts.map .ofTriple))]
  | .deleteWhere ps => .object [("delete_where", outline ps)]
  | .modify delete insert pattern =>
    .object [("modify", .object [("delete", outline delete), ("insert", outline insert),
      ("where", outline pattern)])]
  | .clear => .object [("clear", .bool true)]

end GraphBroker.Sparql

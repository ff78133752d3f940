import GraphBroker.Json.Basic
import GraphBroker.Rdf.ResultSet

/-!
# Terms, bindings and result sets as JSON

The format of query results: a term is an object that names its kind, a binding
is an object from variable names to terms, and a result set holds its variables
under `head` and its solutions under `results`.

## Main definitions

* `Term.toJson`, `Term.ofJson?`, and the same for `Binding` and `ResultSet`.

A decoder takes the place of the value, since a term is kept whole while its kind
is being looked up and may not be nested too deep.
-/

namespace GraphBroker

/-- The term as JSON. -/
def Term.toJson : Term → Json
  | iri value => .object [("type", .text "uri"), ("value", .text value)]
  | literal value datatype language =>
    .object ([("type", .text "literal"), ("value", .text value)] ++
      Json.member? "datatype" (datatype.map .text) ++
      Json.member? "xml:lang" (language.map .text))
  | blank value => .object [("type", .text "bnode"), ("value", .text value)]

/-- The term that a JSON value spells. The kinds are numbered from 0. -/
def Term.ofJson? (place : Json.Place) (json : Json) : Option Term := do
  match ← json.variant? place ["uri", "literal", "bnode"] with
  | ("uri", rest) =>
    let fields ← rest.fields? ["value"]
    return .iri (← fields.required? "value" Json.text?)
  | ("literal", rest) | ("typed-literal", rest) =>
    let fields ← rest.fields? ["value", "datatype", "xml:lang"]
    return .literal (← fields.required? "value" Json.text?)
      (← fields.defaulted? "datatype" none (Json.nullable? Json.text?))
      (← fields.defaulted? "xml:lang" none (Json.nullable? Json.text?))
  | ("bnode", rest) =>
    let fields ← rest.fields? ["value"]
    return .blank (← fields.required? "value" Json.text?)
  | _ => none

/-- The binding as JSON. -/
def Binding.toJson (b : Binding) : Json :=
  .object (b.toList.map fun entry => (entry.1, entry.2.toJson))

/-- The binding that a JSON value spells. Of a name given twice the last term counts. -/
def Binding.ofJson? (place : Json.Place) : Json → Option Binding
  | .object members =>
    (members.mapM fun member => (Term.ofJson? (place.inside 1) member.2).map (member.1, ·)).map
      Binding.ofList
  | _ => none

/-- The result set as JSON. -/
def ResultSet.toJson (r : ResultSet) : Json :=
  .object [("head", .object [("vars", Json.ofTexts r.vars)]),
    ("results", .object [("bindings", .array (r.toList.map Binding.toJson))])]

/-- The result set that a JSON value spells. -/
def ResultSet.ofJson? (place : Json.Place) (json : Json) : Option ResultSet := do
  let fields ← json.fields? ["head", "results"]
  let vars ← fields.defaulted? "head" [] fun head => do
    (← head.fields? ["vars"]).defaulted? "vars" [] (Json.list? Json.text?)
  let rows ← fields.defaulted? "results" [] fun results => do
    (← results.fields? ["bindings"]).defaulted? "bindings" []
      (Json.list? (Binding.ofJson? (place.inside 3)))
  return .ofList vars rows

end GraphBroker

import Std.Data.ExtTreeMap

/-!
# RDF terms

IRIs, literals and blank nodes, with the order in which they are listed and the
text that stands for them in a query.

## Main definitions

* `Term`: an RDF term.
* `Term.order`: IRIs before literals before blank nodes, then by value, datatype and
  language; a missing datatype or language comes first.
* `Term.toSparql`: the term as it is written in a query.

## Main statements

* the order is transitive and equates only equal terms, so that sorted sets and maps of
  terms can be built on it.
-/

namespace GraphBroker

/-- An RDF term. -/
inductive Term where
  /-- An IRI. -/
  | iri (value : String)
  /-- A literal with an optional datatype and an optional language tag. -/
  | literal (value : String) (datatype language : Option String)
  /-- A blank node. -/
  | blank (value : String)
deriving DecidableEq, Repr, Inhabited

namespace Term

/-- A literal with neither datatype nor language. -/
def plain (value : String) : Term :=
  literal value none none

/-- A literal of a datatype. -/
def typed (value datatype : String) : Term :=
  literal value (some datatype) none

/-- A literal in a language. -/
def tagged (value language : String) : Term :=
  literal value none (some language)

/-- The text that the term is about: the IRI, the lexical form or the label. -/
def value : Term → String
  | iri value | literal value _ _ | blank value => value

/-- The datatype of a literal that has one. -/
def datatype? : Term → Option String
  | literal _ datatype _ => datatype
  | _ => none

/-- The language of a literal that has one. -/
def language? : Term → Option String
  | literal _ _ language => language
  | _ => none

/-! ### Order -/

/-- The place of the kind of term among the three. -/
def rank : Term → Nat
  | iri _ => 0
  | literal .. => 1
  | blank _ => 2

/-- IRIs, then literals, then blank nodes; within a kind by value, datatype and language. -/
def order : Term → Term → Ordering :=
  compareLex (compareOn rank) <| compareLex (compareOn value) <|
    compareLex (compareOn datatype?) (compareOn language?)

instance : Ord Term := ⟨order⟩

instance : Std.TransOrd Term :=
  inferInstanceAs (Std.TransCmp (compareLex (compareOn rank) <| compareLex (compareOn value) <|
    compareLex (compareOn datatype?) (compareOn language?)))

instance : Std.LawfulEqOrd Term where
  eq_of_compare {s t} h := by
    obtain ⟨hr, h⟩ := compareLex_eq_eq.1 (show order s t = .eq from h)
    obtain ⟨hv, h⟩ := compareLex_eq_eq.1 h
    obtain ⟨hd, hl⟩ := compareLex_eq_eq.1 h
    replace hr : s.rank = t.rank := Std.compare_eq_iff_eq.1 hr
    replace hv : s.value = t.value := Std.compare_eq_iff_eq.1 hv
    replace hd : s.datatype? = t.datatype? := Std.compare_eq_iff_eq.1 hd
    replace hl : s.language? = t.language? := Std.compare_eq_iff_eq.1 hl
    cases s <;> cases t <;> simp_all [rank, value, datatype?, language?]

/-! ### Text -/

/-- What stands for a character inside the quotes of a literal. -/
def escaped (c : Char) : List Char :=
  if c = '\\' then ['\\', '\\']
  else if c = '"' then ['\\', '"']
  else if c = '\n' then ['\\', 'n']
  else if c = '\r' then ['\\', 'r']
  else if c = '\t' then ['\\', 't']
  else [c]

/-- The characters that stand for the term in a query. A language tag hides a datatype. -/
def sparqlChars : Term → List Char
  | iri value => '<' :: (value.toList ++ ['>'])
  | blank value => '_' :: ':' :: value.toList
  | literal value datatype language =>
    '"' :: (value.toList.flatMap escaped ++ '"' ::
      match datatype, language with
      | _, some tag => '@' :: tag.toList
      | some name, none => '^' :: '^' :: '<' :: (name.toList ++ ['>'])
      | none, none => [])

/-- The term as it is written in a query. -/
def toSparql (term : Term) : String :=
  String.ofList term.sparqlChars

instance : ToString Term := ⟨toSparql⟩

end Term

end GraphBroker

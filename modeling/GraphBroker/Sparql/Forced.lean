import GraphBroker.Rdf.ResultsJson
import GraphBroker.Sparql.Lexer

/-!
# Queries with forced bindings

A request may fix some variables of its text to terms. The fixed variables are
replaced in the text before it is parsed. Texts in quotes and IRIs are left as
they are. Before the first brace a fixed variable outside parentheses is dropped,
since nothing is left to ask for; when nothing else is asked for, an asterisk
stands in its place.

## Main definitions

* `Sparql.Pattern`: a text with forced bindings.
* `Sparql.Piece`: a text is cut into quoted texts, IRIs, variables and single characters.
* `Pattern.render`: the text with the forced variables replaced.
-/

namespace GraphBroker.Sparql

open Text

/-- The text of a query or an update, with variables forced to terms. -/
structure Pattern where
  /-- The text. -/
  sparql : String
  /-- The forced variables. -/
  bindings : Binding := ∅
deriving DecidableEq

/-- A piece of a text. -/
inductive Piece where
  /-- A quoted text or an IRI, which is left as it is. -/
  | verbatim (cs : List Char)
  /-- A variable with its mark. -/
  | var (mark : Char) (name : List Char)
  /-- Any other character. -/
  | char (c : Char)
deriving DecidableEq, Repr

/-- Whether the character may stand in the name of a variable to be replaced. -/
def isVarChar (c : Char) : Bool :=
  isAlphanumeric c || c == '_'

/-- The characters up to the closing quotes and these, and what follows. Without closing
quotes everything belongs to the text. -/
def quotedPart (quote : Char) (long : Bool) : List Char → List Char × List Char
  | [] => ([], [])
  | ['\\'] => (['\\'], [])
  | '\\' :: e :: rest =>
    (quotedPart quote long rest).map ('\\' :: e :: ·) id
  | c :: rest =>
    if c = quote then
      match closing? quote long rest with
      | some tail => (c :: rest.take (rest.length - tail.length), tail)
      | none => (quotedPart quote long rest).map (c :: ·) id
    else (quotedPart quote long rest).map (c :: ·) id

/-- The quoted text after the opening `quote`, and what follows it. -/
def quotedText (quote : Char) (cs : List Char) : List Char × List Char :=
  match cs with
  | c :: d :: rest =>
    if c = quote ∧ d = quote then
      let r := quotedPart quote true rest
      (c :: d :: r.1, r.2)
    else quotedPart quote false cs
  | _ => quotedPart quote false cs

/-- Whether an angle bracket with this rest opens an IRI: it is not the start of a comparison,
and a closing bracket comes before any blank. -/
def opensIri (cs : List Char) : Bool :=
  cs.head? != some '=' && (cs.dropWhile fun c => c != '>' && !isBlank c).head? == some '>'

theorem length_quotedPart_le (quote : Char) (long : Bool) (cs : List Char) :
    (quotedPart quote long cs).2.length ≤ cs.length := by
  fun_induction quotedPart quote long cs with
  | case1 | case2 => simp
  | case3 _ _ ih => simp only [List.length_cons, Prod.map_snd, id]; omega
  | case4 =>
    rename_i hclosing _ _
    exact Nat.le_succ_of_le (length_closing?_le hclosing)
  | case5 | case6 =>
    rename_i ih
    exact Nat.le_succ_of_le ih

theorem length_quotedText_le (quote : Char) (cs : List Char) :
    (quotedText quote cs).2.length ≤ cs.length := by
  unfold quotedText
  split
  · rename_i _ _ _ rest
    split
    · have := length_quotedPart_le quote true rest
      simp only [List.length_cons]
      omega
    · exact length_quotedPart_le quote false _
  · exact length_quotedPart_le quote false _

/-- The pieces of a text. -/
def pieces : List Char → List Piece
  | [] => []
  | c :: cs =>
    if c = '"' ∨ c = '\'' then
      have := Nat.lt_succ_of_le (length_quotedText_le c cs)
      .verbatim (c :: (quotedText c cs).1) :: pieces (quotedText c cs).2
    else if c = '<' ∧ opensIri cs then
      have := length_dropWhile_le (· != '>') cs
      .verbatim (c :: (cs.takeWhile (· != '>') ++ ['>'])) ::
        pieces ((cs.dropWhile (· != '>')).drop 1)
    else if c = '?' ∨ c = '$' then
      have := Nat.lt_succ_of_le (length_dropWhile_le isVarChar cs)
      .var c (cs.takeWhile isVarChar) :: pieces (cs.dropWhile isVarChar)
    else .char c :: pieces cs
termination_by cs => cs.length
decreasing_by all_goals simp only [List.length_cons, List.length_drop]; omega

/-- The term that `b` forces a variable to. No variable has an empty name. -/
def forced? (b : Binding) (name : List Char) : Option Term :=
  if name.isEmpty then none else b.get? (String.ofList name)

/-- The characters of a piece after the first brace. -/
def Piece.inBody (b : Binding) : Piece → List Char
  | verbatim cs => cs
  | char c => [c]
  | var mark name =>
    match forced? b name with
    | some t => t.sparqlChars
    | none => mark :: name

/-- What becomes of a piece before the first brace. -/
inductive HeaderItem where
  /-- It stands, and something is asked for. -/
  | asked (cs : List Char)
  /-- It stands. -/
  | stands (cs : List Char)
  /-- It is a variable that need not be asked for. -/
  | dropped
deriving DecidableEq, Repr

/-- What becomes of the pieces before the first brace, inside `depth` parentheses. -/
def headerItems (b : Binding) : Nat → List Piece → List HeaderItem
  | _, [] => []
  | depth, .verbatim cs :: rest => .stands cs :: headerItems b depth rest
  | depth, .var mark name :: rest =>
    let item : HeaderItem :=
      match forced? b name, depth with
      | some _, 0 => .dropped
      | some t, _ + 1 => .stands t.sparqlChars
      | none, 0 => .asked (mark :: name)
      | none, _ + 1 => .stands (mark :: name)
    item :: headerItems b depth rest
  | depth, .char c :: rest =>
    if c = '(' then
      (if depth = 0 then .asked [c] else .stands [c]) :: headerItems b (depth + 1) rest
    else if c = ')' then .stands [c] :: headerItems b (depth - 1) rest
    else if c = '*' ∧ depth = 0 then .asked [c] :: headerItems b depth rest
    else .stands [c] :: headerItems b depth rest

/-- Whether the item asks for something. -/
def HeaderItem.isAsked : HeaderItem → Bool
  | asked _ => true
  | _ => false

/-- The characters of the items, with `star` in the place of the first one dropped. -/
def headerChars (star : List Char) : List HeaderItem → List Char
  | [] => []
  | .asked cs :: rest | .stands cs :: rest => cs ++ headerChars star rest
  | .dropped :: rest => star ++ headerChars [] rest

/-- The characters `cs` with the variables of `b` replaced. -/
def substitute (b : Binding) (cs : List Char) : List Char :=
  let isBrace := (· == Piece.char '\x7b')
  let header := headerItems b 0 ((pieces cs).takeWhile (!isBrace ·))
  let body := (pieces cs).dropWhile (!isBrace ·)
  let star := if body.isEmpty || header.any HeaderItem.isAsked then [] else ['*']
  headerChars star header ++ body.flatMap (Piece.inBody b)

/-- The text of `p` with the forced variables replaced. -/
def Pattern.render (p : Pattern) : String :=
  if p.bindings.isEmpty then p.sparql
  else String.ofList (substitute p.bindings p.sparql.toList)

/-! ### JSON -/

/-- The members of the pattern; no forced variables are left out. -/
def Pattern.members (p : Pattern) : List (String × Json) :=
  ("sparql", .text p.sparql) ::
    Json.member? "bindings" (if p.bindings.isEmpty then none else some p.bindings.toJson)

/-- The pattern as JSON. -/
def Pattern.toJson (p : Pattern) : Json :=
  .object p.members

/-- The pattern that a JSON value spells. -/
def Pattern.ofJson? (place : Json.Place) (json : Json) : Option Pattern := do
  let fields ← json.fields? ["sparql", "bindings"]
  return {
    sparql := ← fields.required? "sparql" Json.text?
    bindings := ← fields.defaulted? "bindings" ∅ (Binding.ofJson? (place.inside 1)) }

end GraphBroker.Sparql

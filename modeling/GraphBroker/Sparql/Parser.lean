import GraphBroker.Sparql.Lexer
import GraphBroker.Sparql.Operation
import GraphBroker.Text.Digits

/-!
# Reading queries and updates

Reads the parts of a query or an update from a list of tokens. Each reader
returns what it read and the tokens that follow, which are fewer than it was
given.

## Main definitions

* `Sparql.Prefixes`: the prefixes declared so far.
* `Sparql.term`, `Sparql.group`, `Sparql.selection`, `Sparql.operation`: readers of the parts.
* `Query.parse`, `Operation.parseList`: the query, or the operations, that a text spells.

## Main statements

* `length_of_term`, `length_of_group` and their like: what a reader leaves is shorter.
-/

namespace GraphBroker.Sparql

/-- The IRIs that prefixes stand for, the latest declaration first. -/
abbrev Prefixes := List (String × String)

/-- What a reader returns: what it read and the tokens that follow, or why it could not. -/
abbrev Parsed (α : Type) := Except SyntaxError (α × List Token)

/-- The predicate that the word `a` stands for. -/
def rdfType : String := "http://www.w3.org/1999/02/22-rdf-syntax-ns#type"

/-- A datatype of XML Schema. -/
def xsd (name : String) : String := "http://www.w3.org/2001/XMLSchema#" ++ name

/-- The IRI that a prefixed name of `label` and `suffix` stands for. -/
def Prefixes.expand (prefixes : Prefixes) (label suffix : String) : Except SyntaxError String :=
  match prefixes.lookup label with
  | some iri => .ok (iri ++ suffix)
  | none => .error (.undeclaredPrefix label)

/-- Whether `word` is the `keyword`, in letters of either case. -/
def isKeyword (keyword word : String) : Bool :=
  word.toList.map Char.toUpper == keyword.toList

/-- The tokens after a keyword, if it comes first. -/
def keyword? (keyword : String) : List Token → Option (List Token)
  | .word w :: rest => if isKeyword keyword w then some rest else none
  | _ => none

/-- The tokens after a keyword that has to come first. -/
def expectKeyword (keyword : String) (ts : List Token) : Except SyntaxError (List Token) :=
  match keyword? keyword ts with
  | some rest => .ok rest
  | none => .error (.expectedKeyword keyword ts.head?)

/-- The tokens after a keyword that may come first. -/
def skipKeyword (keyword : String) (ts : List Token) : List Token :=
  (keyword? keyword ts).getD ts

/-! ### Terms -/

/-- The literal with the text `value`, whose language or datatype may follow. -/
def literal (prefixes : Prefixes) (value : String) : List Token → Parsed Term
  | .langTag tag :: rest => .ok (.tagged value tag, rest)
  | .datatypeMarker :: .iri iri :: rest => .ok (.typed value iri, rest)
  | .datatypeMarker :: .prefixedName label suffix :: rest =>
    (prefixes.expand label suffix).map fun iri => (.typed value iri, rest)
  | .datatypeMarker :: rest => .error (.badDatatype rest.head?)
  | rest => .ok (.plain value, rest)

/-- A term, or a variable where `allowVars` says that they are allowed. -/
def term (allowVars : Bool) (prefixes : Prefixes) : List Token → Parsed PatternTerm
  | [] => .error .endOfInput
  | .var name :: rest =>
    if allowVars then .ok (.var name, rest) else .error (.variableNotAllowed name)
  | .iri iri :: rest => .ok (.term (.iri iri), rest)
  | .prefixedName label suffix :: rest =>
    (prefixes.expand label suffix).map fun iri => (.term (.iri iri), rest)
  | .blankNode label :: rest => .ok (.term (.blank label), rest)
  | .integer digits :: rest => .ok (.term (.typed digits (xsd "integer")), rest)
  | .decimal digits :: rest => .ok (.term (.typed digits (xsd "decimal")), rest)
  | .word w :: rest =>
    if w = "true" ∨ w = "false" then .ok (.term (.typed w (xsd "boolean")), rest)
    else .error (.unexpectedToken (.word w))
  | .string value :: rest => (literal prefixes value rest).map fun r => (.term r.1, r.2)
  | t :: _ => .error (.unexpectedToken t)

/-- A term in the place of a predicate, where the word `a` may stand. -/
def predicate (allowVars : Bool) (prefixes : Prefixes) (ts : List Token) : Parsed PatternTerm :=
  match ts with
  | .word "a" :: rest => .ok (.term (.iri rdfType), rest)
  | _ => term allowVars prefixes ts

theorem length_of_literal {prefixes : Prefixes} {value : String} {ts rest : List Token} {t : Term}
    (h : literal prefixes value ts = .ok (t, rest)) : rest.length ≤ ts.length := by
  unfold literal at h
  split at h
  · cases h; simp
  · cases h; simp; omega
  · obtain ⟨_, _, h⟩ := map_eq_ok_iff.1 h
    cases h; simp; omega
  · cases h
  · cases h; exact Nat.le_refl _

theorem length_of_term {allowVars : Bool} {prefixes : Prefixes} {ts rest : List Token}
    {t : PatternTerm} (h : term allowVars prefixes ts = .ok (t, rest)) :
    rest.length < ts.length := by
  unfold term at h
  split at h
  · cases h
  · split at h <;> cases h; simp
  · cases h; simp
  · obtain ⟨_, _, h⟩ := map_eq_ok_iff.1 h
    cases h; simp
  · cases h; simp
  · cases h; simp
  · cases h; simp
  · split at h <;> cases h; simp
  · obtain ⟨r, hr, h⟩ := map_eq_ok_iff.1 h
    cases h
    exact Nat.lt_succ_of_le (length_of_literal hr)
  · cases h

theorem length_of_predicate {allowVars : Bool} {prefixes : Prefixes} {ts rest : List Token}
    {t : PatternTerm} (h : predicate allowVars prefixes ts = .ok (t, rest)) :
    rest.length < ts.length := by
  unfold predicate at h
  split at h
  · cases h; simp
  · exact length_of_term h

/-! ### Groups -/

/-- One or more objects with commas between them, each in a pattern with the subject `s` and the
predicate `p`. -/
def objects (allowVars : Bool) (prefixes : Prefixes) (s p : PatternTerm) (ts : List Token) :
    Parsed (List TriplePattern) :=
  match h : term allowVars prefixes ts with
  | .error e => .error e
  | .ok (o, .comma :: rest) =>
    have : rest.length < ts.length := Nat.lt_of_succ_lt (length_of_term h)
    (objects allowVars prefixes s p rest).map fun r => (⟨s, p, o⟩ :: r.1, r.2)
  | .ok (o, rest) => .ok ([⟨s, p, o⟩], rest)
termination_by ts.length

theorem length_of_objects {allowVars : Bool} {prefixes : Prefixes} {s p : PatternTerm}
    {ts rest : List Token} {patterns : List TriplePattern}
    (h : objects allowVars prefixes s p ts = .ok (patterns, rest)) : rest.length < ts.length := by
  fun_induction objects allowVars prefixes s p ts generalizing patterns rest with
  | case1 => cases h
  | case2 _ _ _ _ shorter ih =>
    obtain ⟨r, hr, h⟩ := map_eq_ok_iff.1 h
    cases h
    exact Nat.lt_trans (ih hr) shorter
  | case3 _ _ _ _ hterm =>
    cases h
    exact length_of_term hterm

/-- Whether a subject's list of predicates ends here. -/
def endsBlock : List Token → Bool
  | .dot :: _ | .rbrace :: _ => true
  | _ => false

/-- One or more predicates of a subject, each with its objects, with semicolons between them. -/
def predicates (allowVars : Bool) (prefixes : Prefixes) (s : PatternTerm) (ts : List Token) :
    Parsed (List TriplePattern) :=
  match hp : predicate allowVars prefixes ts with
  | .error e => .error e
  | .ok (p, afterPredicate) =>
    match ho : objects allowVars prefixes s p afterPredicate with
    | .error e => .error e
    | .ok (patterns, .semicolon :: rest) =>
      have : rest.length < ts.length :=
        Nat.lt_trans (Nat.lt_of_succ_lt (length_of_objects ho)) (length_of_predicate hp)
      if endsBlock rest then .ok (patterns, rest)
      else (predicates allowVars prefixes s rest).map fun r => (patterns ++ r.1, r.2)
    | .ok (patterns, rest) => .ok (patterns, rest)
termination_by ts.length

theorem length_of_predicates {allowVars : Bool} {prefixes : Prefixes} {s : PatternTerm}
    {ts rest : List Token} {patterns : List TriplePattern}
    (h : predicates allowVars prefixes s ts = .ok (patterns, rest)) : rest.length < ts.length := by
  fun_induction predicates allowVars prefixes s ts generalizing patterns rest with
  | case1 | case2 => cases h
  | case3 _ _ _ _ _ _ _ shorter =>
    cases h
    exact shorter
  | case4 _ _ _ _ _ _ _ shorter _ ih =>
    obtain ⟨r, hr, h⟩ := map_eq_ok_iff.1 h
    cases h
    exact Nat.lt_trans (ih hr) shorter
  | case5 _ _ _ hp _ _ _ ho =>
    cases h
    exact Nat.lt_trans (length_of_objects ho) (length_of_predicate hp)

/-- A subject with its predicates and objects. -/
def block (allowVars : Bool) (prefixes : Prefixes) (ts : List Token) :
    Parsed (List TriplePattern) :=
  match term allowVars prefixes ts with
  | .error e => .error e
  | .ok (s, rest) => predicates allowVars prefixes s rest

theorem length_of_block {allowVars : Bool} {prefixes : Prefixes} {ts rest : List Token}
    {patterns : List TriplePattern} (h : block allowVars prefixes ts = .ok (patterns, rest)) :
    rest.length < ts.length := by
  unfold block at h
  split at h
  · cases h
  · rename_i ht
    exact Nat.lt_trans (length_of_predicates h) (length_of_term ht)

/-- The patterns up to the closing brace of a group. -/
def blocks (allowVars : Bool) (prefixes : Prefixes) (ts : List Token) :
    Parsed (List TriplePattern) :=
  match ts with
  | [] => .error .unterminatedGroup
  | .rbrace :: rest => .ok ([], rest)
  | t :: rest =>
    if (keyword? "FILTER" (t :: rest)).isSome ∨ (keyword? "OPTIONAL" (t :: rest)).isSome then
      .error .unsupportedGroup
    else
      match h : block allowVars prefixes (t :: rest) with
      | .error e => .error e
      | .ok (patterns, .dot :: next) =>
        have : next.length < rest.length + 1 := Nat.lt_of_succ_lt (length_of_block h)
        (blocks allowVars prefixes next).map fun r => (patterns ++ r.1, r.2)
      | .ok (patterns, .rbrace :: next) => .ok (patterns, next)
      | .ok (_, after) => .error (.expectedSeparator after.head?)
termination_by ts.length

/-- The patterns between two braces. -/
def group (allowVars : Bool) (prefixes : Prefixes) : List Token → Parsed (List TriplePattern)
  | .lbrace :: rest => blocks allowVars prefixes rest
  | ts => .error (.expectedToken .lbrace ts.head?)

theorem length_of_blocks {allowVars : Bool} {prefixes : Prefixes} {ts rest : List Token}
    {patterns : List TriplePattern} (h : blocks allowVars prefixes ts = .ok (patterns, rest)) :
    rest.length < ts.length := by
  fun_induction blocks allowVars prefixes ts generalizing patterns rest with
  | case1 | case3 | case4 => cases h
  | case2 => cases h; simp
  | case5 _ _ _ _ _ _ _ shorter ih =>
    obtain ⟨r, hr, h⟩ := map_eq_ok_iff.1 h
    cases h
    exact Nat.lt_trans (ih hr) shorter
  | case6 _ _ _ _ _ _ hb =>
    cases h
    exact Nat.lt_of_succ_lt (length_of_block hb)
  | case7 => cases h

theorem length_of_group {allowVars : Bool} {prefixes : Prefixes} {ts rest : List Token}
    {patterns : List TriplePattern} (h : group allowVars prefixes ts = .ok (patterns, rest)) :
    rest.length < ts.length := by
  unfold group at h
  split at h
  · exact Nat.lt_succ_of_lt (length_of_blocks h)
  · cases h

/-! ### Queries and updates -/

/-- The declarations at the start of `ts`, put before `prefixes`. -/
def prologue (prefixes : Prefixes) (ts : List Token) : Parsed Prefixes :=
  match h : keyword? "PREFIX" ts with
  | none => .ok (prefixes, ts)
  | some (.prefixedName label "" :: .iri iri :: rest) =>
    have : rest.length < ts.length := by
      unfold keyword? at h
      split at h
      · split at h <;> cases h
        simp only [List.length_cons]
        omega
      · cases h
    prologue ((label, iri) :: prefixes) rest
  | some (.prefixedName _ "" :: rest) => .error (.badPrefixIri rest.head?)
  | some rest => .error (.badPrefixName rest.head?)
termination_by ts.length

theorem length_of_prologue {prefixes : Prefixes} {ts : List Token} {r : Prefixes × List Token}
    (h : prologue prefixes ts = .ok r) : r.2.length ≤ ts.length := by
  fun_induction prologue prefixes ts with
  | case1 => cases h; exact Nat.le_refl _
  | case2 _ _ _ _ _ _ shorter ih => exact Nat.le_trans (ih h) (Nat.le_of_lt shorter)
  | case3 | case4 => cases h

/-- The names of the variables at the start, and what follows them. -/
def varNames : List Token → List String × List Token
  | .var name :: rest => (varNames rest).map (name :: ·) id
  | ts => ([], ts)

/-- The variables asked for; all of them for an asterisk. -/
def projection : List Token → Parsed (Option (List String))
  | .star :: rest => .ok (none, rest)
  | ts =>
    match varNames ts with
    | ([], _) => .error .noProjection
    | (names, rest) => .ok (some names, rest)

/-- The number that `digits` write: no minus sign, and at most 64 bits. -/
def limitOf? (digits : String) : Option Nat :=
  let ds := match digits.toList with
    | '+' :: ds => ds
    | ds => ds
  if ds.all Char.isDigit then
    let n := Text.ofDigits ds
    if n < 0x10000000000000000 then some n else none
  else none

/-- The limit that may follow a pattern. -/
def limit (ts : List Token) : Parsed (Option Nat) :=
  match keyword? "LIMIT" ts with
  | none => .ok (none, ts)
  | some (.integer digits :: rest) =>
    match limitOf? digits with
    | some n => .ok (some n, rest)
    | none => .error .limitOutOfRange
  | some rest => .error (.badLimit rest.head?)

/-- A query after its prologue. -/
def selection (prefixes : Prefixes) (ts : List Token) :
    Except SyntaxError (Query × List Token) := do
  let afterSelect ← expectKeyword "SELECT" ts
  let afterModifier := match keyword? "DISTINCT" afterSelect with
    | some rest => rest
    | none => skipKeyword "REDUCED" afterSelect
  let (names, afterNames) ← projection afterModifier
  let (pattern, afterPattern) ← group true prefixes (skipKeyword "WHERE" afterNames)
  let (bound, rest) ← limit afterPattern
  return (⟨names, pattern, bound⟩, rest)

/-- A group without variables. -/
def groundGroup (prefixes : Prefixes) (ts : List Token) :
    Except SyntaxError (List Triple × List Token) := do
  let (patterns, rest) ← group false prefixes ts
  match patterns.mapM TriplePattern.ground? with
  | some triples => return (triples, rest)
  | none => throw .variableInData

/-- The pattern after the keyword `WHERE`. -/
def wherePart (prefixes : Prefixes) (ts : List Token) :
    Except SyntaxError (List TriplePattern × List Token) := do
  group true prefixes (← expectKeyword "WHERE" ts)

/-- An operation that starts with `INSERT`. -/
def insertion (prefixes : Prefixes) (ts : List Token) :
    Except SyntaxError (Operation × List Token) :=
  match keyword? "DATA" ts with
  | some rest => (groundGroup prefixes rest).map fun r => (.insertData r.1, r.2)
  | none => do
    let (insert, afterInsert) ← group true prefixes ts
    let (pattern, rest) ← wherePart prefixes afterInsert
    return (.modify [] insert pattern, rest)

/-- The template after the keyword `INSERT`, which may be missing. -/
def insertPart (prefixes : Prefixes) (ts : List Token) : Parsed (List TriplePattern) :=
  match keyword? "INSERT" ts with
  | some rest => group true prefixes rest
  | none => .ok ([], ts)

/-- An operation that starts with `DELETE`. -/
def deletion (prefixes : Prefixes) (ts : List Token) :
    Except SyntaxError (Operation × List Token) :=
  match keyword? "DATA" ts, keyword? "WHERE" ts with
  | some rest, _ => (groundGroup prefixes rest).map fun r => (.deleteData r.1, r.2)
  | none, some rest => (group true prefixes rest).map fun r => (.deleteWhere r.1, r.2)
  | none, none => do
    let (delete, afterDelete) ← group true prefixes ts
    let (insert, afterInsert) ← insertPart prefixes afterDelete
    let (pattern, rest) ← wherePart prefixes afterInsert
    return (.modify delete insert pattern, rest)

/-- An operation that starts with `CLEAR`. -/
def clearing (ts : List Token) : Parsed Operation :=
  let target := skipKeyword "SILENT" ts
  match keyword? "ALL" target, keyword? "DEFAULT" target with
  | some rest, _ | none, some rest => .ok (.clear, rest)
  | none, none => .error .unsupportedClear

/-- One operation. -/
def operation (prefixes : Prefixes) (ts : List Token) : Parsed Operation :=
  match keyword? "INSERT" ts, keyword? "DELETE" ts, keyword? "CLEAR" ts with
  | some rest, _, _ => insertion prefixes rest
  | none, some rest, _ => deletion prefixes rest
  | none, none, some rest => clearing rest
  | none, none, none => .error (.unsupportedOperation ts.head?)

theorem length_of_keyword? {keyword : String} {ts rest : List Token}
    (h : keyword? keyword ts = some rest) : rest.length < ts.length := by
  unfold keyword? at h
  split at h
  · split at h <;> cases h
    simp
  · cases h

theorem length_skipKeyword_le (keyword : String) (ts : List Token) :
    (skipKeyword keyword ts).length ≤ ts.length := by
  unfold skipKeyword
  cases h : keyword? keyword ts with
  | none => exact Nat.le_refl _
  | some rest => exact Nat.le_of_lt (length_of_keyword? h)

theorem length_of_groundGroup {prefixes : Prefixes} {ts rest : List Token}
    {triples : List Triple} (h : groundGroup prefixes ts = .ok (triples, rest)) :
    rest.length < ts.length := by
  unfold groundGroup at h
  cases hg : group false prefixes ts with
  | error e => simp [hg, bind, Except.bind] at h
  | ok r =>
    simp only [hg, bind, Except.bind] at h
    split at h <;> cases h
    exact length_of_group hg

theorem length_of_wherePart {prefixes : Prefixes} {ts rest : List Token}
    {pattern : List TriplePattern} (h : wherePart prefixes ts = .ok (pattern, rest)) :
    rest.length < ts.length := by
  unfold wherePart expectKeyword at h
  cases hk : keyword? "WHERE" ts with
  | none => simp [hk, bind, Except.bind] at h
  | some afterKeyword =>
    simp only [hk, bind, Except.bind] at h
    exact Nat.lt_trans (length_of_group h) (length_of_keyword? hk)

theorem length_of_insertion {prefixes : Prefixes} {ts rest : List Token} {op : Operation}
    (h : insertion prefixes ts = .ok (op, rest)) : rest.length < ts.length := by
  unfold insertion at h
  split at h
  · rename_i hk
    obtain ⟨r, hr, h⟩ := map_eq_ok_iff.1 h
    cases h
    exact Nat.lt_trans (length_of_groundGroup hr) (length_of_keyword? hk)
  · cases hg : group true prefixes ts with
    | error e => simp [hg, bind, Except.bind] at h
    | ok r =>
      cases hw : wherePart prefixes r.2 with
      | error e => simp [hg, hw, bind, Except.bind] at h
      | ok w =>
        simp only [hg, hw, bind, Except.bind, pure, Except.pure] at h
        cases h
        exact Nat.lt_trans (length_of_wherePart hw) (length_of_group hg)

theorem length_of_insertPart {prefixes : Prefixes} {ts rest : List Token}
    {pattern : List TriplePattern} (h : insertPart prefixes ts = .ok (pattern, rest)) :
    rest.length ≤ ts.length := by
  unfold insertPart at h
  split at h
  · rename_i hk
    exact Nat.le_of_lt (Nat.lt_trans (length_of_group h) (length_of_keyword? hk))
  · cases h
    exact Nat.le_refl _

theorem length_of_deletion {prefixes : Prefixes} {ts rest : List Token} {op : Operation}
    (h : deletion prefixes ts = .ok (op, rest)) : rest.length < ts.length := by
  unfold deletion at h
  split at h
  · rename_i hk
    obtain ⟨r, hr, h⟩ := map_eq_ok_iff.1 h
    cases h
    exact Nat.lt_trans (length_of_groundGroup hr) (length_of_keyword? hk)
  · rename_i hk
    obtain ⟨r, hr, h⟩ := map_eq_ok_iff.1 h
    cases h
    exact Nat.lt_trans (length_of_group hr) (length_of_keyword? hk)
  · cases hg : group true prefixes ts with
    | error e => simp [hg, bind, Except.bind] at h
    | ok r =>
      cases hi : insertPart prefixes r.2 with
      | error e => simp [hg, hi, bind, Except.bind] at h
      | ok i =>
        cases hw : wherePart prefixes i.2 with
        | error e => simp [hg, hi, hw, bind, Except.bind] at h
        | ok w =>
          simp only [hg, hi, hw, bind, Except.bind, pure, Except.pure] at h
          cases h
          exact Nat.lt_trans (length_of_wherePart hw)
            (Nat.lt_of_le_of_lt (length_of_insertPart hi) (length_of_group hg))

theorem length_of_clearing {ts rest : List Token} {op : Operation}
    (h : clearing ts = .ok (op, rest)) : rest.length < ts.length := by
  have target := length_skipKeyword_le "SILENT" ts
  simp only [clearing] at h
  split at h
  · rename_i hk
    cases h
    exact Nat.lt_of_lt_of_le (length_of_keyword? hk) target
  · rename_i hk
    cases h
    exact Nat.lt_of_lt_of_le (length_of_keyword? hk) target
  · cases h

theorem length_of_operation {prefixes : Prefixes} {ts rest : List Token} {op : Operation}
    (h : operation prefixes ts = .ok (op, rest)) : rest.length < ts.length := by
  unfold operation at h
  split at h
  · rename_i hk
    exact Nat.lt_trans (length_of_insertion h) (length_of_keyword? hk)
  · rename_i hk
    exact Nat.lt_trans (length_of_deletion h) (length_of_keyword? hk)
  · rename_i hk
    exact Nat.lt_trans (length_of_clearing h) (length_of_keyword? hk)
  · cases h

/-- What was read, if nothing follows. -/
def atEnd {α : Type} : α × List Token → Except SyntaxError α
  | (value, []) => .ok value
  | (_, t :: _) => .error (.trailing t)

/-- The operations that the tokens spell, with semicolons between them. The prefixes declared
before an operation stay in force after it. -/
def operations (prefixes : Prefixes) (ts : List Token) : Except SyntaxError (List Operation) :=
  match hp : prologue prefixes ts with
  | .error e => .error e
  | .ok (_, []) => .ok []
  | .ok (declared, t :: afterPrologue) =>
    match ho : operation declared (t :: afterPrologue) with
    | .error e => .error e
    | .ok (op, .semicolon :: rest) =>
      have : rest.length < ts.length :=
        Nat.lt_of_lt_of_le (Nat.lt_of_succ_lt (length_of_operation ho)) (length_of_prologue hp)
      (operations declared rest).map (op :: ·)
    | .ok (op, rest) => atEnd ([op], rest)
termination_by ts.length

/-- The query that the tokens `ts` spell. -/
def Query.ofTokens (ts : List Token) : Except SyntaxError Query := do
  let (prefixes, rest) ← prologue [] ts
  atEnd (← selection prefixes rest)

/-- The query that `text` spells. -/
def Query.parse (text : String) : Except SyntaxError Query := do
  Query.ofTokens (← tokenize text)

/-- The operations that the tokens spell; at least one. -/
def Operation.listOfTokens (ts : List Token) : Except SyntaxError (List Operation) :=
  match operations [] ts with
  | .ok [] => .error .emptyUpdate
  | r => r

/-- The operations that `text` spells; at least one. -/
def Operation.parseList (text : String) : Except SyntaxError (List Operation) := do
  Operation.listOfTokens (← tokenize text)

end GraphBroker.Sparql

import GraphBroker.Proofs.Sparql.Spelling
import GraphBroker.Proofs.Sparql.Updates

/-!
# What is read can be written

Names, IRIs and language tags reach a query or an update only through the lexer, which takes no
other characters for them than may be written. A prefixed name joins an IRI with name
characters and dots. So whatever a text is read as can be written again.

## Main definitions

* `Token.wellFormed`, `Prefixes.wellFormed`: tokens and prefixes as the lexer leaves them.

## Main statements

* `Query.wellFormed_of_parse`, `Operation.wellFormed_of_parseList`: what is read is well formed.
* `reading_inverts_writing`: writing and reading are inverse.
-/

namespace GraphBroker.Sparql

variable {allowVars : Bool} {prefixes declared : Prefixes} {ts rest : List Token} {t : Token}
  {place s p o : PatternTerm} {patterns : List TriplePattern}

/-! ### Tokens -/

/-- Tokens whose texts can be written in their places. -/
def Token.wellFormed : Token → Bool
  | iri value => isIriText value
  | prefixedName _ suffix => suffix.toList.all isLocalChar
  | var name => isName name
  | langTag tag => isTag tag
  | blankNode label => isName label
  | _ => true

theorem wellFormed_of_spells {us following : List Char} (spells : Spells us (.token t) following) :
    t.wellFormed := by
  cases spells with
  | sign sign =>
    unfold sign? at sign
    split at sign <;> cases sign <;> rfl
  | iri ok | var _ ok _ | langTag ok _ | blankNode ok _ => exact ok
  | prefixedName _ all _ _ => simpa [Token.wellFormed] using all
  | _ => rfl

/-- All tokens of `ts` are well formed. -/
def AllWellFormed (ts : List Token) : Prop :=
  ∀ t ∈ ts, t.wellFormed

theorem allWellFormed_cons : AllWellFormed (t :: ts) ↔ t.wellFormed ∧ AllWellFormed ts :=
  List.forall_mem_cons

/-- The lexer leaves well-formed tokens only, which are `ts`. -/
theorem allWellFormed_of_tokensOf {cs : List Char} (read : tokensOf cs = .ok ts) :
    AllWellFormed ts := by
  fun_induction Sparql.tokensOf cs generalizing ts with
  | case1 =>
    cases read
    exact nofun
  | case2 => cases read
  | case3 _ _ _ _ ih => exact ih read
  | case4 c cs t rest found ih =>
    obtain ⟨others, readOthers, rfl⟩ := map_eq_ok_iff.1 read
    obtain ⟨us, -, spells⟩ := spells_of_lexeme found
    exact allWellFormed_cons.2 ⟨wellFormed_of_spells spells, ih readOthers⟩

/-! ### What readers yield -/

/-- The IRIs of `prefixes` can be written. -/
def Prefixes.wellFormed (prefixes : Prefixes) : Prop :=
  ∀ e ∈ prefixes, isIriText e.2

/-- Local names such as `suffix` may be joined to `iri`. -/
theorem isIriText_append {iri suffix : String} (wf : isIriText iri)
    (ok : suffix.toList.all isLocalChar) : isIriText (iri ++ suffix) := by
  rw [isIriText, String.toList_append, List.all_append, Bool.and_eq_true]
  refine ⟨wf, List.all_eq_true.2 fun c inside => ?_⟩
  have localChar := List.all_eq_true.1 ok c inside
  simp [ne_of_class localChar (d := '>') (by decide), not_isBlank_of_isLocalChar localChar]

theorem isIriText_of_expand {label suffix iri : String} (wf : prefixes.wellFormed)
    (ok : suffix.toList.all isLocalChar) (read : prefixes.expand label suffix = .ok iri) :
    isIriText iri := by
  unfold Prefixes.expand at read
  split at read
  · rename_i base found
    cases read
    have listed : (label, base) ∈ prefixes := by
      obtain ⟨before, after, parts, _⟩ := List.lookup_eq_some_iff.1 found
      simp [parts]
    exact isIriText_append (wf _ listed) ok
  · cases read

/-- If a reader returns something, it is `good`, and so are the tokens that are left. -/
def Yields {α : Type} (good : α → Prop) (result : Parsed α) : Prop :=
  ∀ a rest, result = .ok (a, rest) → good a ∧ AllWellFormed rest

namespace Yields

variable {α β : Type} {good : α → Prop} {fine : β → Prop} {a : α} {result : Parsed α}

theorem ok (is : good a) (wf : AllWellFormed rest) : Yields good (.ok (a, rest)) := by
  rintro _ _ ⟨⟩
  exact ⟨is, wf⟩

theorem error {e : SyntaxError} : Yields good (.error e) := nofun

theorem map {f : α → β} (yields : Yields good result) (makes : ∀ a, good a → fine (f a)) :
    Yields fine (result.map fun r => (f r.1, r.2)) := by
  intro _ _ read
  obtain ⟨⟨a, rest⟩, inner, same⟩ := map_eq_ok_iff.1 read
  cases same
  obtain ⟨is, wf⟩ := yields a rest inner
  exact ⟨makes a is, wf⟩

end Yields

/-- The IRI that `label` and `suffix` stand for, in what `f` makes of it. -/
theorem yields_expand {α : Type} {good : α → Prop} {label suffix : String} {f : String → α}
    (wfPrefixes : prefixes.wellFormed) (ok : suffix.toList.all isLocalChar)
    (wf : AllWellFormed rest) (makes : ∀ iri, isIriText iri → good (f iri)) :
    Yields good ((prefixes.expand label suffix).map fun iri => (f iri, rest)) := by
  intro _ _ read
  obtain ⟨iri, expanded, same⟩ := map_eq_ok_iff.1 read
  cases same
  exact ⟨makes iri (isIriText_of_expand wfPrefixes ok expanded), wf⟩

theorem isIriText_xsd {name : String} (ok : name.toList.all isLocalChar) : isIriText (xsd name) :=
  isIriText_append (by decide +kernel) ok

/-! ### Parts that need no prefixes -/

theorem wellFormed_of_places (wfs : s.wellFormed) (wfp : p.wellFormed) (wfo : o.wellFormed) :
    TriplePattern.wellFormed ⟨s, p, o⟩ := by
  simp [TriplePattern.wellFormed, TriplePattern.places, wfs, wfp, wfo]

theorem allWellFormed_of_keyword? {keyword : String} (wf : AllWellFormed ts)
    (found : keyword? keyword ts = some rest) : AllWellFormed rest := by
  obtain ⟨w, -, rfl⟩ := keyword?_eq_some_iff.1 found
  exact (allWellFormed_cons.1 wf).2

theorem allWellFormed_of_expectKeyword {keyword : String} (wf : AllWellFormed ts)
    (read : expectKeyword keyword ts = .ok rest) : AllWellFormed rest :=
  allWellFormed_of_keyword? wf (expectKeyword_eq_ok_iff.1 read)

theorem allWellFormed_skipKeyword {keyword : String} (wf : AllWellFormed ts) :
    AllWellFormed (skipKeyword keyword ts) := by
  unfold skipKeyword
  cases found : keyword? keyword ts with
  | none => exact wf
  | some rest => exact allWellFormed_of_keyword? wf found

theorem allWellFormed_skipModifier (wf : AllWellFormed ts) : AllWellFormed (skipModifier ts) := by
  unfold skipModifier
  split
  · rename_i found
    exact allWellFormed_of_keyword? wf found
  · exact allWellFormed_skipKeyword wf

theorem varNames_wellFormed (wf : AllWellFormed ts) :
    (varNames ts).1.all isName ∧ AllWellFormed (varNames ts).2 := by
  fun_induction varNames ts with
  | case1 name rest ih =>
    obtain ⟨ok, wf⟩ := allWellFormed_cons.1 wf
    obtain ⟨names, left⟩ := ih wf
    refine ⟨?_, left⟩
    rw [Prod.map_fst, List.all_cons, Bool.and_eq_true]
    exact ⟨ok, names⟩
  | case2 => exact ⟨rfl, wf⟩

theorem yields_projection (wf : AllWellFormed ts) :
    Yields (fun names : Option (List String) =>
      names.all fun names => !names.isEmpty && names.all isName) (projection ts) := by
  unfold projection
  split
  · exact .ok rfl (allWellFormed_cons.1 wf).2
  · obtain ⟨names, left⟩ := varNames_wellFormed wf
    split
    · exact .error
    · rename_i found inhabited read
      rw [read] at names left
      refine .ok ?_ left
      simp only [Option.all_some, Bool.and_eq_true, Bool.not_eq_true', List.isEmpty_eq_false_iff]
      exact ⟨fun none => inhabited none, names⟩

theorem lt_of_limitOf? {digits : String} {n : Nat} (read : limitOf? digits = some n) :
    n < 0x10000000000000000 := by
  simp only [limitOf?, Option.ite_none_right_eq_some, Option.some.injEq] at read
  obtain ⟨-, small, rfl⟩ := read
  exact small

theorem yields_limit (wf : AllWellFormed ts) :
    Yields (fun limit : Option Nat => limit.all (· < 0x10000000000000000)) (limit ts) := by
  unfold limit
  split
  · exact .ok rfl wf
  · rename_i found
    have wf := allWellFormed_of_keyword? wf found
    split
    · rename_i small
      exact .ok (by simpa using lt_of_limitOf? small) (allWellFormed_cons.1 wf).2
    · exact .error
  · exact .error

theorem of_atEnd {α : Type} {a : α} {r : α × List Token} (read : atEnd r = .ok a) : r.1 = a := by
  unfold atEnd at read
  split at read <;> cases read
  rfl

theorem wellFormed_nil : Prefixes.wellFormed [] := nofun

theorem yields_clearing (wf : AllWellFormed ts) : Yields (·.wellFormed) (clearing ts) := by
  intro op rest read
  obtain ⟨rfl, target⟩ := clearing_eq_ok_iff.1 read
  have wf : AllWellFormed (skipKeyword "SILENT" ts) := allWellFormed_skipKeyword wf
  exact ⟨rfl, target.elim (allWellFormed_of_keyword? wf) (allWellFormed_of_keyword? wf)⟩

/-! ### Terms -/

section Prefixed

variable (wfPrefixes : prefixes.wellFormed)
include wfPrefixes

theorem yields_literal {value : String} (wf : AllWellFormed ts) :
    Yields (·.wellFormed) (literal prefixes value ts) := by
  unfold literal
  split
  · obtain ⟨tag, wf⟩ := allWellFormed_cons.1 wf
    exact .ok tag wf
  · obtain ⟨-, wf⟩ := allWellFormed_cons.1 wf
    obtain ⟨iri, wf⟩ := allWellFormed_cons.1 wf
    exact .ok iri wf
  · obtain ⟨-, wf⟩ := allWellFormed_cons.1 wf
    obtain ⟨name, wf⟩ := allWellFormed_cons.1 wf
    exact yields_expand wfPrefixes name wf fun iri ok => ok
  · exact .error
  · exact .ok rfl wf

theorem yields_term (wf : AllWellFormed ts) :
    Yields (·.wellFormed) (term allowVars prefixes ts) := by
  unfold term
  split
  · exact .error
  -- All other branches take the first token.
  all_goals obtain ⟨first, wf⟩ := allWellFormed_cons.1 wf
  · split
    · exact .ok first wf
    · exact .error
  · exact .ok first wf
  · exact yields_expand wfPrefixes first wf fun iri ok => ok
  · exact .ok first wf
  · exact .ok (isIriText_xsd (by decide)) wf
  · exact .ok (isIriText_xsd (by decide)) wf
  · split
    · exact .ok (isIriText_xsd (by decide)) wf
    · exact .error
  · exact (yields_literal wfPrefixes wf).map fun t ok => ok
  · exact .error

theorem yields_predicate (wf : AllWellFormed ts) :
    Yields (·.wellFormed) (predicate allowVars prefixes ts) := by
  unfold predicate
  split
  · have ok : isIriText rdfType := by decide +kernel
    exact .ok ok (allWellFormed_cons.1 wf).2
  · exact yields_term wfPrefixes wf

/-! ### Groups -/

theorem yields_objects (wfs : s.wellFormed) (wfp : p.wellFormed) (wf : AllWellFormed ts) :
    Yields (fun ps => ps.all TriplePattern.wellFormed) (objects allowVars prefixes s p ts) := by
  -- The induction follows the commas: each object is followed by the rest of the list.
  fun_induction objects allowVars prefixes s p ts with
  | case1 => exact .error
  | case2 ts o rest read _ ih =>
    obtain ⟨wfo, wf⟩ := yields_term wfPrefixes wf o _ read
    refine (ih (allWellFormed_cons.1 wf).2).map fun ps ok => ?_
    simp [wellFormed_of_places wfs wfp wfo, ok]
  | case3 ts o rest _ read =>
    obtain ⟨wfo, wf⟩ := yields_term wfPrefixes wf o _ read
    exact .ok (by simp [wellFormed_of_places wfs wfp wfo]) wf

theorem yields_predicates (wfs : s.wellFormed) (wf : AllWellFormed ts) :
    Yields (fun ps => ps.all TriplePattern.wellFormed) (predicates allowVars prefixes s ts) := by
  fun_induction predicates allowVars prefixes s ts with
  | case1 | case2 => exact .error
  | case3 ts p afterPredicate readPredicate patterns rest readObjects _ _ =>
    obtain ⟨wfp, wf⟩ := yields_predicate wfPrefixes wf p _ readPredicate
    obtain ⟨ok, wf⟩ := yields_objects wfPrefixes wfs wfp wf patterns _ readObjects
    exact .ok ok (allWellFormed_cons.1 wf).2
  | case4 ts p afterPredicate readPredicate patterns rest readObjects _ _ ih =>
    obtain ⟨wfp, wf⟩ := yields_predicate wfPrefixes wf p _ readPredicate
    obtain ⟨ok, wf⟩ := yields_objects wfPrefixes wfs wfp wf patterns _ readObjects
    refine (ih (allWellFormed_cons.1 wf).2).map fun ps okOthers => ?_
    rw [List.all_append, Bool.and_eq_true]
    exact ⟨ok, okOthers⟩
  | case5 ts p afterPredicate readPredicate patterns rest _ readObjects =>
    obtain ⟨wfp, wf⟩ := yields_predicate wfPrefixes wf p _ readPredicate
    obtain ⟨ok, wf⟩ := yields_objects wfPrefixes wfs wfp wf patterns _ readObjects
    exact .ok ok wf

theorem yields_block (wf : AllWellFormed ts) :
    Yields (fun ps => ps.all TriplePattern.wellFormed) (block allowVars prefixes ts) := by
  unfold block
  split
  · exact .error
  · rename_i s rest read
    obtain ⟨wfs, wf⟩ := yields_term wfPrefixes wf s _ read
    exact yields_predicates wfPrefixes wfs wf

theorem yields_blocks (wf : AllWellFormed ts) :
    Yields (fun ps => ps.all TriplePattern.wellFormed) (blocks allowVars prefixes ts) := by
  fun_induction blocks allowVars prefixes ts with
  | case1 | case3 | case4 | case7 => exact .error
  | case2 => exact .ok rfl (allWellFormed_cons.1 wf).2
  | case5 t rest _ _ patterns next read _ ih =>
    obtain ⟨ok, wf⟩ := yields_block wfPrefixes wf patterns _ read
    refine (ih (allWellFormed_cons.1 wf).2).map fun ps okOthers => ?_
    rw [List.all_append, Bool.and_eq_true]
    exact ⟨ok, okOthers⟩
  | case6 t rest _ _ patterns next read =>
    obtain ⟨ok, wf⟩ := yields_block wfPrefixes wf patterns _ read
    exact .ok ok (allWellFormed_cons.1 wf).2

theorem yields_group (wf : AllWellFormed ts) :
    Yields (fun ps => ps.all TriplePattern.wellFormed) (group allowVars prefixes ts) := by
  unfold group
  split
  · exact yields_blocks wfPrefixes (allWellFormed_cons.1 wf).2
  · exact .error

/-! ### Queries -/

theorem yields_prologue (wf : AllWellFormed ts) :
    Yields Prefixes.wellFormed (prologue prefixes ts) := by
  fun_induction prologue prefixes ts with
  | case1 => exact .ok wfPrefixes wf
  | case2 prefixes ts label iri rest found _ ih =>
    have wf := allWellFormed_of_keyword? wf found
    obtain ⟨ok, wf⟩ := allWellFormed_cons.1 (allWellFormed_cons.1 wf).2
    exact ih (List.forall_mem_cons.2 ⟨ok, wfPrefixes⟩) wf
  | case3 | case4 => exact .error

theorem yields_selection (wf : AllWellFormed ts) :
    Yields (·.wellFormed) (selection prefixes ts) := by
  intro q rest read
  rw [selection_eq] at read
  obtain ⟨afterSelect, select, read⟩ := bind_eq_ok_iff.1 read
  have wf := allWellFormed_of_expectKeyword wf select
  obtain ⟨⟨names, afterNames⟩, asked, read⟩ := bind_eq_ok_iff.1 read
  obtain ⟨⟨patterns, afterPatterns⟩, grouped, read⟩ := bind_eq_ok_iff.1 read
  obtain ⟨⟨bound, left⟩, limited, read⟩ := bind_eq_ok_iff.1 read
  cases read
  obtain ⟨okNames, wf⟩ := yields_projection (allWellFormed_skipModifier wf) names _ asked
  obtain ⟨okPatterns, wf⟩ :=
    yields_group wfPrefixes (allWellFormed_skipKeyword wf) patterns _ grouped
  obtain ⟨okBound, wf⟩ := yields_limit wf bound _ limited
  refine ⟨?_, wf⟩
  simp only [Query.wellFormed, Bool.and_eq_true]
  exact ⟨⟨okNames, okPatterns⟩, okBound⟩

/-! ### Updates -/

theorem yields_groundGroup (wf : AllWellFormed ts) :
    Yields (fun triples => (triples.map TriplePattern.ofTriple).all TriplePattern.wellFormed)
      (groundGroup prefixes ts) :=
  fun _ _ read => yields_group wfPrefixes wf _ _ (groundGroup_eq_ok_iff.1 read)

theorem yields_wherePart (wf : AllWellFormed ts) :
    Yields (fun ps => ps.all TriplePattern.wellFormed) (wherePart prefixes ts) := by
  intro patterns rest read
  obtain ⟨after, keyword, grouped⟩ := wherePart_eq_ok_iff.1 read
  exact yields_group wfPrefixes (allWellFormed_of_keyword? wf keyword) _ _ grouped

theorem yields_insertion (wf : AllWellFormed ts) :
    Yields (·.wellFormed) (insertion prefixes ts) := by
  intro op rest read
  rcases insertion_eq_ok_iff.1 read with ⟨after, triples, data, grouped, rfl⟩ |
    ⟨insert, pattern, after, -, template, condition, rfl⟩
  · exact yields_groundGroup wfPrefixes (allWellFormed_of_keyword? wf data) _ _ grouped
  · obtain ⟨okInsert, wf⟩ := yields_group wfPrefixes wf insert _ template
    obtain ⟨okPattern, wf⟩ := yields_wherePart wfPrefixes wf pattern _ condition
    refine ⟨?_, wf⟩
    simp only [Operation.wellFormed, Bool.and_eq_true]
    exact ⟨⟨rfl, okInsert⟩, okPattern⟩

theorem yields_insertPart (wf : AllWellFormed ts) :
    Yields (fun ps => ps.all TriplePattern.wellFormed) (insertPart prefixes ts) := by
  intro patterns rest read
  rcases insertPart_eq_ok_iff.1 read with ⟨after, insert, grouped⟩ | ⟨-, rfl, rfl⟩
  · exact yields_group wfPrefixes (allWellFormed_of_keyword? wf insert) _ _ grouped
  · exact ⟨rfl, wf⟩

theorem yields_deletion (wf : AllWellFormed ts) :
    Yields (·.wellFormed) (deletion prefixes ts) := by
  intro op rest read
  rcases deletion_eq_ok_iff.1 read with ⟨after, triples, data, grouped, rfl⟩ |
    ⟨after, pattern, -, condition, grouped, rfl⟩ |
    ⟨delete, insert, pattern, _, _, -, -, template, addition, condition, rfl⟩
  · exact yields_groundGroup wfPrefixes (allWellFormed_of_keyword? wf data) _ _ grouped
  · exact yields_group wfPrefixes (allWellFormed_of_keyword? wf condition) _ _ grouped
  · obtain ⟨okDelete, wf⟩ := yields_group wfPrefixes wf delete _ template
    obtain ⟨okInsert, wf⟩ := yields_insertPart wfPrefixes wf insert _ addition
    obtain ⟨okPattern, wf⟩ := yields_wherePart wfPrefixes wf pattern _ condition
    refine ⟨?_, wf⟩
    simp only [Operation.wellFormed, Bool.and_eq_true]
    exact ⟨⟨okDelete, okInsert⟩, okPattern⟩

theorem yields_operation (wf : AllWellFormed ts) :
    Yields (·.wellFormed) (operation prefixes ts) := by
  intro op rest read
  obtain ⟨after, ⟨insert, inserted⟩ | ⟨delete, deleted⟩ | ⟨clear, cleared⟩⟩ :=
    operation_eq_ok_iff.1 read
  · exact yields_insertion wfPrefixes (allWellFormed_of_keyword? wf insert) _ _ inserted
  · exact yields_deletion wfPrefixes (allWellFormed_of_keyword? wf delete) _ _ deleted
  · exact yields_clearing (allWellFormed_of_keyword? wf clear) _ _ cleared

theorem wellFormed_of_operations {ops : List Operation} (wf : AllWellFormed ts)
    (read : operations prefixes ts = .ok ops) : ops.all Operation.wellFormed := by
  fun_induction operations prefixes ts generalizing ops with
  | case1 | case3 => cases read
  | case2 =>
    cases read
    rfl
  | case4 prefixes ts declared t afterPrologue start op rest first _ ih =>
    -- Prefixes are declared before each operation, and hold for the ones after it.
    obtain ⟨okPrefixes, wf⟩ := yields_prologue wfPrefixes wf declared _ start
    obtain ⟨okFirst, wf⟩ := yields_operation okPrefixes wf op _ first
    obtain ⟨others, readOthers, rfl⟩ := map_eq_ok_iff.1 read
    rw [List.all_cons, Bool.and_eq_true]
    exact ⟨okFirst, ih okPrefixes (allWellFormed_cons.1 wf).2 readOthers⟩
  | case5 prefixes ts declared t afterPrologue start op rest _ first =>
    obtain ⟨okPrefixes, wf⟩ := yields_prologue wfPrefixes wf declared _ start
    obtain ⟨okFirst, -⟩ := yields_operation okPrefixes wf op _ first
    obtain rfl := of_atEnd read
    simpa using okFirst

end Prefixed

/-! ### Writing and reading -/

/-- A query `q` that is read can be written. -/
theorem Query.wellFormed_of_parse {text : String} {q : Query} (read : Query.parse text = .ok q) :
    q.wellFormed := by
  obtain ⟨ts, tokens, read⟩ := bind_eq_ok_iff.1 read
  obtain ⟨⟨declared, afterPrologue⟩, start, read⟩ := bind_eq_ok_iff.1 read
  obtain ⟨⟨q, rest⟩, selected, read⟩ := bind_eq_ok_iff.1 read
  obtain rfl := of_atEnd read
  have wf := allWellFormed_of_tokensOf tokens
  obtain ⟨okPrefixes, wf⟩ := yields_prologue wellFormed_nil wf declared _ start
  exact (yields_selection okPrefixes wf q rest selected).1

/-- An update `ops` that is read can be written. -/
theorem Operation.wellFormed_of_parseList {text : String} {ops : List Operation}
    (read : Operation.parseList text = .ok ops) : Operation.listWellFormed ops := by
  obtain ⟨ts, tokens, read⟩ := bind_eq_ok_iff.1 read
  unfold Operation.listOfTokens at read
  split at read
  · cases read
  · rename_i inhabited
    have ok := wellFormed_of_operations wellFormed_nil (allWellFormed_of_tokensOf tokens) read
    rw [Operation.listWellFormed, ok, Bool.and_true, Bool.not_eq_true', List.isEmpty_eq_false_iff]
    rintro rfl
    exact inhabited read

/-- Writing and reading are inverse. An update `ops` or a query `q` is read back from its text if
and only if it can be written, and what any text is read as can be written, so that it is read
back. -/
theorem reading_inverts_writing :
    (∀ ops, Operation.parseList (Operation.printList ops) = .ok ops ↔
      Operation.listWellFormed ops) ∧
    (∀ q : Query, Query.parse q.print = .ok q ↔ q.wellFormed) ∧
    (∀ text ops, Operation.parseList text = .ok ops →
      Operation.listWellFormed ops ∧ Operation.parseList (Operation.printList ops) = .ok ops) ∧
    (∀ text q, Query.parse text = .ok q → q.wellFormed ∧ Query.parse q.print = .ok q) := by
  refine ⟨fun ops => ⟨Operation.wellFormed_of_parseList, parseList_printList⟩,
    fun q => ⟨Query.wellFormed_of_parse, parse_print⟩, fun text ops read => ?_,
    fun text q read => ?_⟩
  · have wf := Operation.wellFormed_of_parseList read
    exact ⟨wf, parseList_printList wf⟩
  · have wf := Query.wellFormed_of_parse read
    exact ⟨wf, parse_print wf⟩

/-- Two triples about one subject, and then nothing. -/
def sampleUpdate : List Operation :=
  [.insertData [⟨.iri "urn:a", .iri rdfType, .tagged "x" "en"⟩,
    ⟨.iri "urn:a", .iri "urn:p", .typed "1" (xsd "integer")⟩], .clear]

/-- The update `sampleUpdate` is read from a text with a prefix, the word for types, a subject with
two predicates, a number without quotes and a last semicolon, and then from the text that is written
for it. -/
theorem reading_inverts_writing_abbreviated :
    Operation.parseList
      "PREFIX ex: <urn:> INSERT DATA \x7b ex:a a \"x\"@en ; ex:p 1 \x7d ; CLEAR DEFAULT ;" =
        .ok sampleUpdate ∧
      Operation.parseList (Operation.printList sampleUpdate) = .ok sampleUpdate := by
  have read : Operation.parseList
      "PREFIX ex: <urn:> INSERT DATA \x7b ex:a a \"x\"@en ; ex:p 1 \x7d ; CLEAR DEFAULT ;" =
        .ok sampleUpdate := by
    decide +kernel
  exact ⟨read, (reading_inverts_writing.2.2.1 _ _ read).2⟩

end GraphBroker.Sparql

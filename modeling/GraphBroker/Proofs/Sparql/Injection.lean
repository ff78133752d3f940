import GraphBroker.Proofs.Sparql.Segments
import GraphBroker.Proofs.Sparql.Solutions
import GraphBroker.Proofs.Sparql.Substitution

/-!
# Terms that keep to their places

A forced variable is replaced in the text of a query, so that a term may hold characters that end
it and go on with something else. The text of a literal is escaped. The other texts of a term are
not: a term is contained if its IRI has no closing bracket, and if its label or language tag
either has no other characters than it may have or begins with one of those. A contained
term either is written so that it is read back or makes the query one that cannot be read;
a closing bracket in an IRI can add patterns to a query.

## Main definitions

* `Term.contained`: terms that keep to their places.
* `Sparql.Fails`: characters that cannot be read, whatever follows apart from them.

## Main statements

* `fails_term`: a contained term that cannot be written cannot be read.
* `parse_render_of_contained`: what a query with a variable forced to a contained term is read as.
* `bracket_in_iri_adds_pattern`: a term that does not keep to its place.
-/

namespace GraphBroker

/-- Texts whose characters are all of the class `p`, unless the first is not. -/
def keepsTo (p : Char → Bool) (text : String) : Bool :=
  text.toList.head?.all (!p ·) || text.toList.all p

/-- Terms whose texts, as they stand in a query, cannot be followed by anything of their own. -/
def Term.contained : Term → Bool
  | iri value => !value.toList.contains '>'
  | blank label => keepsTo Sparql.isNameChar label
  | literal _ none none => true
  | literal _ (some datatype) none => !datatype.toList.contains '>'
  | literal _ none (some tag) => keepsTo isTagChar tag
  | literal _ (some _) (some _) => false

namespace Sparql

open Text

variable {c : Char} {cs word rest suffix : List Char} {ts : List Token} {ws vs : List (List Char)}
  {p : Char → Bool} {t : Token} {s : Term} {place : PatternTerm} {patterns : List TriplePattern}
  {b : Binding} {q : Query} {x : String}

/-! ### What cannot be read -/

/-- The characters `cs` cannot be read, whatever follows apart from them. -/
def Fails (cs : List Char) : Prop :=
  ∀ rest, Apart rest → ∃ e, tokensOf (cs ++ rest) = .error e

namespace Fails

theorem of_lexeme {e : SyntaxError} (read : ∀ rest, Apart rest → lexeme c (cs ++ rest) = .error e) :
    Fails (c :: cs) := by
  intro rest apart
  rw [List.cons_append, tokensOf_cons, read rest apart]
  exact ⟨e, rfl⟩

/-- A token `t` that is spelled, and the characters `suffix` after it that cannot be read. -/
theorem spells_append (spells : ∀ rest, Apart rest → Spells cs (.token t) (suffix ++ rest))
    (fails : Fails suffix) : Fails (cs ++ suffix) := by
  intro rest apart
  obtain ⟨e, failed⟩ := fails rest apart
  obtain ⟨c, us, rfl, read⟩ := lexeme_of_spells (spells rest apart)
  rw [List.append_assoc, List.cons_append, tokensOf_of_lexeme read, failed]
  exact ⟨e, rfl⟩

/-- The words `ws` before `vs`, which cannot be read. -/
theorem after (first : Lexes (line ws) ts) (fails : Fails (line vs)) :
    Fails (line (ws ++ vs)) := by
  intro rest apart
  obtain ⟨e, failed⟩ := fails rest apart
  rw [line_append, List.append_assoc, first _ (apart_line apart), failed]
  exact ⟨e, rfl⟩

/-- The words `vs` after `ws`, which cannot be read. -/
theorem before (fails : Fails (line ws)) : Fails (line (ws ++ vs)) := by
  intro rest apart
  rw [line_append, List.append_assoc]
  exact fails _ (apart_line apart)

theorem one (fails : Fails word) : Fails (line [word]) := by
  intro rest apart
  rw [line_cons, line_nil, List.append_nil, List.cons_append, tokensOf_blank]
  exact fails rest apart

/-- A line cannot be read if `word` cannot, and each of the others is read. -/
theorem line (each : ∀ word ∈ ws, (∃ ts, Lexes word ts) ∨ Fails word) (listed : word ∈ ws)
    (fails : Fails word) : Fails (line ws) := by
  induction ws with
  | nil => cases listed
  | cons first ws ih =>
    rw [← List.singleton_append]
    -- The first word that cannot be read ends the reading, whichever it is.
    rcases List.mem_cons.1 listed with rfl | listed
    · exact fails.one.before
    · rcases each first List.mem_cons_self with ⟨ts, lexes⟩ | failsFirst
      · exact .after lexes.one
          (ih (fun other among => each other (List.mem_cons_of_mem _ among)) listed)
      · exact failsFirst.one.before

end Fails

/-! ### Terms that cannot be written -/

/-- A `name` that has other characters than it may have begins with one of them. -/
theorem takeWhile_of_keepsTo {name : String} (keeps : keepsTo p name)
    (bad : ¬(name.toList ≠ [] ∧ ∀ c ∈ name.toList, p c)) (stops : p ' ' = false)
    (apart : Apart rest) : (name.toList ++ rest).takeWhile p = [] := by
  -- A bad name is empty, or its first character is already outside the class.
  cases text : name.toList with
  | nil =>
    exact takeWhile_stops nofun (apart.stops stops)
  | cons c cs =>
    simp only [keepsTo, text, List.head?_cons, Option.all_some, Bool.or_eq_true, Bool.not_eq_true',
      List.all_eq_true] at keeps bad
    have first : p c = false := keeps.resolve_right fun all => bad ⟨List.cons_ne_nil c cs, all⟩
    rw [List.cons_append, List.takeWhile_cons_of_neg (by simp [first])]

theorem named_of_takeWhile {make : String → Token} {missing : SyntaxError}
    (none : cs.takeWhile p = []) : named p make missing cs = .error missing := by
  rw [named, none]
  rfl

theorem fails_iri {value : String} (contained : !value.toList.contains '>')
    (bad : ¬isIriText value) : Fails ('<' :: (value.toList ++ ['>'])) := by
  have inside : ∀ c ∈ value.toList, c ≠ '>' := by
    rintro c listed rfl
    simp [listed] at contained
  -- Without a closing bracket only a blank can spoil the IRI.
  have broken : value.toList.any isBlank := by
    by_contra solid
    refine bad (List.all_eq_true.2 fun c listed => ?_)
    simp only [Bool.not_eq_true, List.any_eq_false] at solid
    simp [inside c listed, solid c listed]
  refine .of_lexeme (e := .blankInIri) fun rest apart => ?_
  obtain ⟨before, after⟩ := takeWhile_bracket inside rest
  have read : lexeme '<' (value.toList ++ ['>'] ++ rest) =
      bracketedIri (value.toList ++ ['>'] ++ rest) := rfl
  rw [read, List.append_assoc, List.singleton_append, bracketedIri, before, after]
  simp only [broken, if_true]

theorem fails_blankNode {label : String} (contained : keepsTo isNameChar label)
    (bad : ¬isName label) : Fails ('_' :: ':' :: label.toList) := by
  refine .of_lexeme (e := .emptyBlankNode) fun rest apart => ?_
  have read : lexeme '_' (':' :: label.toList ++ rest) =
      named isNameChar .blankNode .emptyBlankNode (label.toList ++ rest) := rfl
  rw [read, named_of_takeWhile (takeWhile_of_keepsTo contained
    (fun ok => bad (isName_of_mem ok.1 ok.2)) not_isNameChar_blank apart)]

theorem fails_langTag {tag : String} (contained : keepsTo isTagChar tag) (bad : ¬isTag tag) :
    Fails ('@' :: tag.toList) := by
  refine .of_lexeme (e := .emptyLanguageTag) fun rest apart => ?_
  have read : lexeme '@' (tag.toList ++ rest) =
      named isTagChar .langTag .emptyLanguageTag (tag.toList ++ rest) := rfl
  rw [read, named_of_takeWhile (takeWhile_of_keepsTo contained
    (fun ok => bad (isTag_of_mem ok.1 ok.2)) (by decide) apart)]

/-- A literal with a `suffix` for its language or datatype that cannot be read. -/
theorem fails_literal {value : String} (head : suffix.head? ≠ some '"') (fails : Fails suffix) :
    Fails ('"' :: (value.toList.flatMap Term.escaped ++ '"' :: suffix)) := by
  have all := fails.spells_append fun rest apart =>
    spells_escaped value (head?_append_apart head apart)
  rwa [List.cons_append, List.append_assoc] at all

/-- A contained term `s` that cannot be written cannot be read either. -/
theorem fails_term (contained : s.contained) (bad : ¬s.wellFormed) : Fails s.sparqlChars := by
  match s, contained, bad with
  | .iri value, contained, bad => exact fails_iri contained bad
  | .blank label, contained, bad => exact fails_blankNode contained bad
  | .literal value none none, _, bad => exact absurd rfl bad
  | .literal value none (some tag), contained, bad =>
    exact fails_literal (by simp) (fails_langTag contained bad)
  | .literal value (some datatype) none, contained, bad =>
    exact fails_literal (by simp)
      (.spells_append (fun _ _ => .datatypeMarker) (fails_iri contained bad))

/-! ### Queries that hold such a term -/

theorem mem_intercalate {α : Type} {separator group : List α} {groups : List (List α)} {a : α}
    (listed : group ∈ groups) (inside : a ∈ group) : a ∈ separator.intercalate groups := by
  induction groups with
  | nil => cases listed
  | cons first others ih =>
    cases others with
    | nil =>
      obtain rfl := List.mem_singleton.1 listed
      simpa using inside
    | cons second others =>
      rw [List.intercalate_cons_cons, List.mem_append, List.mem_append]
      rcases List.mem_cons.1 listed with rfl | listed
      · exact .inl (.inl inside)
      · exact .inr (ih listed)

/-- A group cannot be read if `place` cannot. -/
theorem fails_group {p : TriplePattern}
    (each : ∀ p ∈ patterns, ∀ place ∈ p.places, place.wellFormed ∨ Fails place.chars)
    (listed : p ∈ patterns) (inside : place ∈ p.places) (fails : Fails place.chars) :
    Fails (line (groupWords patterns)) := by
  -- Braces and points are read, and every other word is a place.
  refine .line (fun word among => ?_) ?_ fails
  · rw [groupWords, List.mem_append, List.mem_cons] at among
    rcases among with (rfl | among) | closing
    · exact .inl ⟨[.lbrace], lexes_sign rfl⟩
    · rcases of_mem_intercalate among with point | ⟨words, written, placed⟩
      · exact .inl ⟨[.dot], List.mem_singleton.1 point ▸ lexes_dot⟩
      · obtain ⟨other, amongPatterns, rfl⟩ := List.mem_map.1 written
        obtain ⟨place, amongPlaces, rfl⟩ := List.mem_map.1 placed
        exact (each other amongPatterns place amongPlaces).imp_left fun wf =>
          ⟨place.tokens, lexes_place wf⟩
    · exact .inl ⟨[.rbrace], List.mem_singleton.1 closing ▸ lexes_sign rfl⟩
  · have written : place.chars ∈ p.words := List.mem_map_of_mem inside
    rw [groupWords, List.mem_append]
    exact .inl (List.mem_cons_of_mem _ (mem_intercalate (List.mem_map_of_mem listed) written))

theorem get?_single {name : String} :
    ((∅ : Binding).insert x s).get? name = if x = name then some s else none := by
  rw [Binding.get?_insert, Binding.get?_empty]

theorem force_single_var : (PatternTerm.var x).force ((∅ : Binding).insert x s) = .term s := by
  rw [PatternTerm.force, get?_single, if_pos rfl]
  rfl

/-- Each `place` of a query with the variable `x` forced either can be written or is the term
`s`. -/
theorem force_single (wf : place.wellFormed) :
    (place.force ((∅ : Binding).insert x s)).wellFormed ∨
      place.force ((∅ : Binding).insert x s) = .term s := by
  cases place with
  | term t => exact .inl wf
  | var name =>
    by_cases same : x = name
    · subst same
      exact .inr force_single_var
    · rw [PatternTerm.force, get?_single, if_neg same]
      exact .inl wf

/-- If the term `s` cannot be read, neither can a query with the variable `x` forced to it. -/
theorem fails_forcedWords (wf : q.wellFormed) (asked : x ∈ patternVars q.pattern)
    (fails : Fails s.sparqlChars) : Fails (line (q.forcedWords ((∅ : Binding).insert x s))) := by
  obtain ⟨p, listed, inside⟩ := mem_patternVars.1 asked
  obtain ⟨place, inPlaces, isVar⟩ := List.mem_filterMap.1 inside
  obtain rfl : place = .var x := by
    cases place <;> cases isVar
    rfl
  simp only [Query.wellFormed, Bool.and_eq_true, List.all_eq_true] at wf
  obtain ⟨⟨projection, patterns⟩, -⟩ := wf
  have each : ∀ p ∈ q.pattern.map (·.force ((∅ : Binding).insert x s)), ∀ place ∈ p.places,
      place.wellFormed ∨ Fails place.chars := by
    intro p among place placed
    obtain ⟨original, amongOriginals, rfl⟩ := List.mem_map.1 among
    rw [places_force] at placed
    obtain ⟨place, amongPlaces, rfl⟩ := List.mem_map.1 placed
    have ok := List.all_eq_true.1 (patterns original amongOriginals) place amongPlaces
    refine (force_single ok).imp_right fun same => ?_
    rw [same]
    exact fails
  have group : Fails (line (groupWords (q.force ((∅ : Binding).insert x s)).pattern)) := by
    have placed : .term s ∈ (p.force ((∅ : Binding).insert x s)).places := by
      rw [← force_single_var, places_force]
      exact List.mem_map_of_mem inPlaces
    exact fails_group each (List.mem_map_of_mem listed) placed fails
  have head := lexes_select.cons
    ((lexes_forcedProjectionWords (b := (∅ : Binding).insert x s) projection).append
      lexes_where.one)
  have words : q.forcedWords ((∅ : Binding).insert x s) =
      ("SELECT".toList :: (forcedProjectionWords ((∅ : Binding).insert x s) q.projection ++
        ["WHERE".toList])) ++ (groupWords (q.force ((∅ : Binding).insert x s)).pattern ++
          limitWords (q.force ((∅ : Binding).insert x s)).limit) := by
    simp [Query.forcedWords, groupWords, Query.bodyWords]
  rw [words]
  exact .after head group.before

/-- A query `q` in which the variable `x` is forced to a contained term `s` is read if and only if
the term can be written, and then as the query with the variable replaced by the term and nothing
else. -/
theorem parse_render_of_contained (wf : q.wellFormed) (scannable : q.scannable)
    (asked : x ∈ patternVars q.pattern) (contained : s.contained) (r : Query) :
    Query.parse (Pattern.render ⟨q.print, (∅ : Binding).insert x s⟩) = .ok r ↔
      s.wellFormed ∧ r = q.force ((∅ : Binding).insert x s) := by
  by_cases ok : s.wellFormed
  · have terms : ∀ name t, ((∅ : Binding).insert x s).get? name = some t → t.wellFormed := by
      intro name t given
      rw [get?_single] at given
      split at given <;> cases given
      exact ok
    rw [parse_render wf scannable terms, Except.ok.injEq]
    exact ⟨fun same => ⟨ok, same.symm⟩, fun same => same.2.symm⟩
  -- A term that cannot be written makes the whole text fail.
  · refine iff_of_false (fun read => ?_) fun possible => ok possible.1
    have forced : ¬((∅ : Binding).insert x s).isEmpty := by
      intro none
      have given : ((∅ : Binding).insert x s).get? x = some s := by rw [get?_single, if_pos rfl]
      rw [eq_empty_of_isEmpty none, Binding.get?_empty] at given
      cases given
    obtain ⟨e, failed⟩ :=
      fails_forcedWords wf asked (fails_term contained ok) [] apart_nil
    rw [List.append_nil, ← substitute_line wf scannable, line_words (q.projection_ne wf),
      substitute_blank, tokensOf_blank] at failed
    rw [Pattern.render, if_neg forced, Query.parse, tokenize, Query.print, String.toList_ofList,
      String.toList_ofList, failed] at read
    cases read

/-- What a subject is said to be. -/
def valueQuery : Query where
  projection := some ["v"]
  pattern := [⟨.var "x", .term (.iri "urn:p"), .var "v"⟩]
  limit := none

/-- A literal that would end its quotes and go on. -/
def quotedValue : Term :=
  .plain "\" . ?s ?p ?o \x7d"

/-- The quotes and braces of the literal `quotedValue` do not end it. -/
theorem parse_render_of_contained_quotes : quotedValue.contained ∧
    Query.parse (Pattern.render ⟨valueQuery.print, (∅ : Binding).insert "x" quotedValue⟩) =
      .ok ⟨some ["v"], [⟨.term quotedValue, .term (.iri "urn:p"), .var "v"⟩], none⟩ := by
  refine ⟨by decide, ?_⟩
  exact (parse_render_of_contained (by decide) (by decide) (by decide +kernel) (by decide) _).2
    ⟨by decide, by decide +kernel⟩

/-- An IRI that ends its brackets and goes on. -/
def bracketed : Term :=
  .iri "urn:c> <urn:q> <urn:d> . <urn:a"

/-- What is read when the subject of `valueQuery` is forced to `bracketed`. -/
def widened : Query where
  projection := some ["v"]
  pattern := [⟨.term (.iri "urn:c"), .term (.iri "urn:q"), .term (.iri "urn:d")⟩,
    ⟨.term (.iri "urn:a"), .term (.iri "urn:p"), .var "v"⟩]
  limit := none

/-- The closing bracket in `bracketed` ends the IRI, and what comes after it is read as another
pattern, as in `widened`. -/
theorem bracket_in_iri_adds_pattern :
    valueQuery.wellFormed ∧ valueQuery.scannable ∧ "x" ∈ patternVars valueQuery.pattern ∧
      Query.parse (Pattern.render ⟨valueQuery.print, (∅ : Binding).insert "x" bracketed⟩) =
        .ok widened ∧
      widened ≠ valueQuery.force ((∅ : Binding).insert "x" bracketed) :=
  ⟨by decide, by decide, by decide +kernel, by decide +kernel, by decide +kernel⟩

end Sparql

end GraphBroker

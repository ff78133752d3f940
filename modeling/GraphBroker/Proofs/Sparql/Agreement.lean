import GraphBroker.Proofs.Sparql.Accepted
import GraphBroker.Proofs.Sparql.Headers

/-!
# Replacing variables in any text of a query

If the scanner takes the segments of a text for what they are, replacing variables by IRIs in the
text of a query is replacing them in the query, however the text is written. What stands in quotes,
in IRIs and in comments plays no part. The scanner knows no comments, though: an apostrophe in one
hides the variables that follow.

## Main definitions

* `Sparql.scannedAlike`: the scanner takes the segments of the text for what they are.

## Main statements

* `parse_render_of_scannedAlike`: what is read of such a text with forced variables.
* `apostrophe_hides_variables`: what is read of a text that is not of this kind.
-/

namespace GraphBroker.Sparql

variable {text : String} {ts header body : List Token} {b : Binding} {q : Query}
  {segments : List Segment}

/-! ### The tokens of a query -/

theorem forceProjection_ne {projection : Option (List String)} :
    forceProjection b projection ≠ some [] := by
  intro same
  rw [forceProjection, Option.filter_eq_some_iff] at same
  simp at same

/-- The text before the mark `a` ends where the mark first occurs. -/
theorem append_cons_inj {α : Type} {a : α} {xs ys us vs : List α} (notInXs : ∀ x ∈ xs, x ≠ a)
    (notInYs : ∀ y ∈ ys, y ≠ a) (same : xs ++ a :: us = ys ++ a :: vs) : xs = ys ∧ us = vs := by
  induction xs generalizing ys with
  | nil =>
    cases ys with
    | nil => exact ⟨rfl, (List.cons.inj same).2⟩
    | cons y ys => exact absurd (List.cons.inj same).1.symm (notInYs y List.mem_cons_self)
  | cons x xs ih =>
    cases ys with
    | nil => exact absurd (List.cons.inj same).1 (notInXs x List.mem_cons_self)
    | cons y ys =>
      obtain ⟨rfl, others⟩ := List.cons.inj same
      obtain ⟨rfl, rest⟩ := ih (List.forall_mem_cons.1 notInXs).2 (List.forall_mem_cons.1 notInYs).2
        others
      exact ⟨rfl, rest⟩

/-- The query `q` is read with variables dropped before the first brace and replaced after it. -/
theorem ofTokens_force (iris : ForcesIris b) (noBrace : ∀ t ∈ header, t ≠ .lbrace)
    (read : Query.ofTokens (header ++ .lbrace :: body) = .ok q) :
    header.Pairwise Token.precedes ∧
      Query.ofTokens (dropForced b (starTokens b header) header ++ .lbrace :: forceTokens b body) =
        .ok (q.force b) := by
  obtain ⟨us, declared, wording, group, after, parts, declares, someAsked, patterns, limited⟩ :=
    ofTokens_eq_ok_iff.1 read
  -- The keywords and what is asked for have no brace, so the header is all of them.
  rw [← List.append_assoc] at parts
  obtain ⟨rfl, rfl⟩ :=
    append_cons_inj noBrace (fun t => ne_lbrace_of_mem_header wording declares) parts
  refine ⟨pairwise_precedes_header wording declares, ofTokens_eq_ok_iff.2
    ⟨us, declared, wording, forceTokens b body, forceTokens b after, ?_, declares,
      forceProjection_ne, blocks_force iris patterns, limit_force limited⟩⟩
  rw [dropForced_header wording declares someAsked, List.append_assoc]
  rfl

theorem lbrace_mem_of_ofTokens (read : Query.ofTokens ts = .ok q) : .lbrace ∈ ts := by
  obtain ⟨us, declared, wording, body, after, rfl, -⟩ := ofTokens_eq_ok_iff.1 read
  simp

/-! ### The segments of its text -/

theorem tokensIn_map_force :
    tokensIn (segments.map (Segment.force b)) = forceTokens b (tokensIn segments) := by
  induction segments with
  | nil => rfl
  | cons s segments ih =>
    obtain ⟨us, l⟩ := s
    cases l with
    | gap => exact ih
    | token t =>
      have first : ((Segment.mk us (.token t)).force b).token? = some (t.force b) := by
        cases t with
        | var name =>
          unfold Segment.force Token.force
          dsimp only
          cases b.get? name <;> rfl
        | _ => rfl
      rw [List.map_cons, tokensIn, List.filterMap_cons, first]
      exact congrArg _ ih

/-- Whether the segment is an opening brace. -/
def Segment.isBrace (s : Segment) : Bool :=
  s.lexeme == .token .lbrace

/-- The part of `segments` before the first brace. -/
def headerOf (segments : List Segment) : List Segment :=
  segments.takeWhile (!·.isBrace)

/-- The `segments` are cut at the first brace. -/
theorem exists_brace (listed : .lbrace ∈ tokensIn segments) : ∃ brace body,
    segments = headerOf segments ++ brace :: body ∧ brace.lexeme = .token .lbrace := by
  induction segments with
  | nil => cases listed
  | cons s segments ih =>
    cases isBrace : s.isBrace with
    | true =>
      refine ⟨s, segments, ?_, eq_of_beq isBrace⟩
      simp [headerOf, isBrace]
    | false =>
      have later : .lbrace ∈ tokensIn segments := by
        obtain ⟨other, among, is⟩ := mem_tokensIn.1 listed
        rcases List.mem_cons.1 among with rfl | among
        · simp [Segment.isBrace, is] at isBrace
        · exact mem_tokensIn.2 ⟨other, among, is⟩
      obtain ⟨brace, body, parts, is⟩ := ih later
      refine ⟨brace, body, ?_, is⟩
      simpa [headerOf, isBrace] using parts

theorem not_isBrace_of_mem_headerOf {s : Segment} (listed : s ∈ headerOf segments) :
    s.lexeme ≠ .token .lbrace := by
  simpa [Segment.isBrace] using List.mem_takeWhile_imp listed

theorem Cut.right {others : List Segment} (cut : Cut (segments ++ others)) : Cut others := by
  induction segments with
  | nil => exact cut
  | cons s segments ih =>
    cases cut with
    | cons _ cut => exact ih cut

theorem tokensIn_brace {brace : Segment} {others : List Segment}
    (isBrace : brace.lexeme = .token .lbrace) :
    tokensIn (brace :: others) = .lbrace :: tokensIn others :=
  List.filterMap_cons_some (by rw [Segment.token?, isBrace])

theorem force_brace {brace : Segment} (isBrace : brace.lexeme = .token .lbrace) :
    brace.force b = brace := by
  rw [Segment.force, isBrace]

/-- The tokens of a text with variables replaced, whose segments, with `brace` between them, are
known. -/
theorem tokensOf_substitute {header body : List Segment} {brace : Segment} (iris : ForcesIris b)
    (cut : Cut (header ++ brace :: body)) (isBrace : brace.lexeme = .token .lbrace)
    (clear : ∀ s ∈ header ++ brace :: body, s.clear b) (flat : ∀ s ∈ header, s.flat)
    (noBrace : ∀ s ∈ header, s.lexeme ≠ .token .lbrace)
    (ordered : (tokensIn header).Pairwise Token.precedes) :
    tokensOf (substitute b (charsOf (header ++ brace :: body))) =
      .ok (dropForced b (starTokens b (tokensIn header)) (tokensIn header) ++
        .lbrace :: forceTokens b (tokensIn body)) := by
  -- From the brace on the text goes on alike, which is what the segments before it need.
  obtain ⟨cutBody, alike⟩ := cut_force iris cut.right
  rw [List.map_cons, force_brace isBrace] at cutBody alike
  have opens : ∃ cs, charsOf (brace :: body.map (Segment.force b)) = '\x7b' :: cs := by
    obtain rfl := cut.eq_brace isBrace
    exact ⟨_, rfl⟩
  have starred : starFor b header = [] ∨ starFor b header = [⟨['*'], .token .star⟩] := by
    unfold starFor
    split
    · exact .inl rfl
    · exact .inr rfl
  obtain ⟨cutForced, -⟩ :=
    cut_forceHeader cut cutBody alike opens (List.pairwise_filterMap.1 ordered) starred
  rw [substitute_charsOf cut isBrace clear flat noBrace, cutForced.tokensOf, tokensIn_append,
    tokensIn_brace isBrace, tokensIn_forceHeader, tokensIn_starFor, tokensIn_map_force]

/-! ### Its text -/

/-- Whether the scanner takes the segments of `text` for what they are: comments have no quotes, nor
marks before the first brace, IRIs do not look like comparisons, and names of variables have no
hyphen, unless neither they nor what comes before the hyphen is forced by `b`. -/
def scannedAlike (b : Binding) (text : String) : Bool :=
  match segmentsOf text.toList with
  | .ok segments => segments.all (·.clear b) && (headerOf segments).all (·.flat)
  | .error _ => false

/-- A query in whose `text` the variables of `b` are forced to IRIs is read as the query with the
variables replaced, if the scanner takes the segments of the text for what they are
(`scannedAlike`). -/
theorem parse_render_of_scannedAlike (read : Query.parse text = .ok q) (iris : ForcesIris b)
    (alike : scannedAlike b text) : Query.parse (Pattern.render ⟨text, b⟩) = .ok (q.force b) := by
  rw [Pattern.render]
  split
  · -- Without forced variables the text is left alone.
    rename_i noneForced
    obtain rfl := eq_empty_of_isEmpty noneForced
    rwa [force_empty (Query.wellFormed_of_parse read)]
  unfold scannedAlike at alike
  split at alike
  · rename_i segments found
    simp only [Bool.and_eq_true, List.all_eq_true] at alike
    obtain ⟨clear, flat⟩ := alike
    obtain ⟨cut, chars⟩ := cut_of_segmentsOf found
    have tokens : Query.ofTokens (tokensIn segments) = .ok q := by
      rw [Query.parse, tokenize, ← chars, cut.tokensOf] at read
      exact read
    -- The first brace among the tokens is the first among the segments.
    obtain ⟨brace, body, parts, isBrace⟩ := exists_brace (lbrace_mem_of_ofTokens tokens)
    rw [parts, tokensIn_append, tokensIn_brace isBrace] at tokens
    have noBrace : ∀ t ∈ tokensIn (headerOf segments), t ≠ .lbrace := by
      rintro _ listed rfl
      obtain ⟨s, among, is⟩ := mem_tokensIn.1 listed
      exact not_isBrace_of_mem_headerOf among is
    obtain ⟨ordered, forced⟩ := ofTokens_force iris noBrace tokens
    rw [parts] at cut clear
    have substituted := tokensOf_substitute iris cut isBrace clear flat
      (fun s => not_isBrace_of_mem_headerOf) ordered
    rw [← parts, chars] at substituted
    rw [Query.parse, tokenize, String.toList_ofList, substituted]
    exact forced
  · cases alike

/-- The subject that is asked about. -/
def givenSubject : Binding := (∅ : Binding).insert "s" (.iri "urn:a")

/-- The values of a subject, with the variable in a comment, in quotes and in an IRI as well. -/
def quotedVariables : String :=
  "PREFIX e: <urn:?s/>\nSELECT $s ?v WHERE \x7b # ?s\n$s e:p ?v; e:q '?s', \"\"\"it's ?s\"\"\" \x7d"

/-- In `quotedVariables` only the variable is replaced. -/
theorem parse_render_of_scannedAlike_quoted :
    scannedAlike givenSubject quotedVariables ∧
      Query.parse (Pattern.render ⟨quotedVariables, givenSubject⟩) = .ok ⟨some ["v"],
        [⟨.term (.iri "urn:a"), .term (.iri "urn:?s/p"), .var "v"⟩,
          ⟨.term (.iri "urn:a"), .term (.iri "urn:?s/q"), .term (.plain "?s")⟩,
          ⟨.term (.iri "urn:a"), .term (.iri "urn:?s/q"), .term (.plain "it's ?s")⟩], none⟩ := by
  have read : Query.parse quotedVariables = .ok ⟨some ["s", "v"],
      [⟨.var "s", .term (.iri "urn:?s/p"), .var "v"⟩,
        ⟨.var "s", .term (.iri "urn:?s/q"), .term (.plain "?s")⟩,
        ⟨.var "s", .term (.iri "urn:?s/q"), .term (.plain "it's ?s")⟩], none⟩ := by
    decide +kernel
  have iris : ForcesIris givenSubject := by
    intro name t given
    rw [givenSubject, Binding.get?_insert] at given
    split at given <;> cases given
    exact ⟨_, rfl, by decide⟩
  have alike : scannedAlike givenSubject quotedVariables := by decide +kernel
  refine ⟨alike, ?_⟩
  rw [parse_render_of_scannedAlike read iris alike]
  decide +kernel

/-- The same question with a comment that has an apostrophe. -/
def apostropheInComment : String :=
  "SELECT ?s ?v WHERE \x7b # the subject's value\n ?s <urn:p> ?v \x7d"

/-- The apostrophe in the comment of `apostropheInComment` opens a text in quotes for the scanner,
so that no variable after it is replaced. -/
theorem apostrophe_hides_variables :
    Query.parse apostropheInComment =
        .ok ⟨some ["s", "v"], [⟨.var "s", .term (.iri "urn:p"), .var "v"⟩], none⟩ ∧
      Query.parse (Pattern.render ⟨apostropheInComment, givenSubject⟩) =
        .ok ⟨some ["v"], [⟨.var "s", .term (.iri "urn:p"), .var "v"⟩], none⟩ ∧
      Query.force givenSubject
          ⟨some ["s", "v"], [⟨.var "s", .term (.iri "urn:p"), .var "v"⟩], none⟩ ≠
        ⟨some ["v"], [⟨.var "s", .term (.iri "urn:p"), .var "v"⟩], none⟩ :=
  ⟨by decide +kernel, by decide +kernel, by decide +kernel⟩

end GraphBroker.Sparql

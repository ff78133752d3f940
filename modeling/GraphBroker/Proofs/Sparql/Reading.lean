import GraphBroker.Proofs.Sparql.Lexing
import GraphBroker.Sparql.Parser

/-!
# Reading a query from its tokens

Each reader takes the tokens of what it reads and leaves what follows. A text in quotes
is read on for its language or datatype, so that what follows it must not look like one.
In a printed query a term is followed by the next place, a point or a closing brace.

Before its first brace a query declares prefixes, and then asks for variables between a few
keywords. These are all the tokens there may be, so the reader of queries can be turned around.

## Main definitions

* `Sparql.endsTerm`, `Sparql.EndsPattern`: what may follow a term and a pattern.
* `Sparql.Declares`, `Sparql.Wording`: tokens that declare prefixes, and the keywords around what is
  asked for.

## Main statements

* `term_tokens`, `block_tokens`, `group_tokens`: what is read of the parts.
* `prologue_eq_ok_iff`, `selection_eq_ok_iff`, `ofTokens_eq_ok_iff`: what is read from which tokens.
* `ofTokens_tokens`, `parse_print`: a well-formed query is read back.
-/

namespace GraphBroker.Sparql

variable {allowVars : Bool} {prefixes declared : Prefixes} {ts us rest : List Token} {t : Token}
  {place : PatternTerm} {p : TriplePattern} {patterns : List TriplePattern} {q : Query}
  {keyword w : String}

/-! ### Terms -/

/-- Whether the tokens do not go on with a language or a datatype. -/
def endsTerm : List Token → Bool
  | .datatypeMarker :: _ => false
  | .langTag _ :: _ => false
  | _ => true

theorem literal_plain {value : String} (ends : endsTerm rest) :
    literal prefixes value rest = .ok (.plain value, rest) := by
  unfold literal
  split
  · cases ends
  · cases ends
  · cases ends
  · cases ends
  · rfl

/-- A term `s` is read back if nothing follows that could belong to it. -/
theorem term_termTokens {s : Term} (wf : s.wellFormed) (ends : endsTerm rest) :
    term allowVars prefixes (termTokens s ++ rest) = .ok (.term s, rest) := by
  match s, wf with
  | .iri value, _ => rfl
  | .blank label, _ => rfl
  | .literal value none (some tag), _ => rfl
  | .literal value (some name) none, _ => rfl
  | .literal value none none, _ =>
    change (literal prefixes value rest).map _ = _
    rw [literal_plain ends]
    rfl

/-- The `place` holds a variable only if `allowVars` says so. -/
def PatternTerm.Allowed (allowVars : Bool) (place : PatternTerm) : Prop :=
  allowVars = true ∨ place.var? = none

theorem term_tokens (wf : place.wellFormed) (allowed : place.Allowed allowVars)
    (ends : endsTerm rest) :
    term allowVars prefixes (place.tokens ++ rest) = .ok (place, rest) := by
  cases place with
  | term s => exact term_termTokens wf ends
  | var name =>
    obtain rfl : allowVars = true := allowed.resolve_right nofun
    rfl

/-- A `place` starts with a token `t` that neither closes a group nor is a word, and does not go on
with what stood before it. -/
theorem exists_tokens_eq_cons (place : PatternTerm) : ∃ t us, place.tokens = t :: us ∧
    t ≠ .rbrace ∧ (∀ w, t ≠ .word w) ∧ endsTerm (t :: us) := by
  match place with
  | .var name => exact ⟨_, _, rfl, nofun, nofun, rfl⟩
  | .term (.iri value) => exact ⟨_, _, rfl, nofun, nofun, rfl⟩
  | .term (.blank label) => exact ⟨_, _, rfl, nofun, nofun, rfl⟩
  | .term (.literal value datatype language) => exact ⟨_, _, rfl, nofun, nofun, rfl⟩

theorem endsTerm_tokens : endsTerm (place.tokens ++ rest) := by
  obtain ⟨t, us, tokens, -, -, ends⟩ := exists_tokens_eq_cons place
  rw [tokens]
  cases t <;> first | rfl | cases ends

theorem predicate_tokens (wf : place.wellFormed) (allowed : place.Allowed allowVars)
    (ends : endsTerm rest) :
    predicate allowVars prefixes (place.tokens ++ rest) = .ok (place, rest) := by
  have read : term allowVars prefixes (place.tokens ++ rest) = .ok (place, rest) :=
    term_tokens wf allowed ends
  rw [← read]
  -- Only the word for types is read otherwise, and no place starts with a word.
  obtain ⟨t, us, tokens, -, plain, -⟩ := exists_tokens_eq_cons place
  rw [tokens]
  unfold predicate
  split
  · rename_i same
    cases same
    exact absurd rfl (plain "a")
  · rfl

/-! ### Patterns -/

/-- The tokens `ts` go on with a point or a closing brace. -/
def EndsPattern (ts : List Token) : Prop :=
  ∃ rest, ts = .dot :: rest ∨ ts = .rbrace :: rest

theorem EndsPattern.endsTerm (ends : EndsPattern ts) : endsTerm ts := by
  obtain ⟨rest, rfl | rfl⟩ := ends <;> rfl

/-- An object `o` with a comma after it is followed by another one. -/
theorem objects_comma {s r o : PatternTerm}
    (first : term allowVars prefixes ts = .ok (o, .comma :: rest)) :
    objects allowVars prefixes s r ts =
      (objects allowVars prefixes s r rest).map fun others =>
        (⟨s, r, o⟩ :: others.1, others.2) := by
  rw [objects]
  split <;> rename_i read <;> rw [first] at read <;> cases read
  · rfl
  · rename_i noComma
    exact absurd rfl (noComma rest)

theorem objects_last {s r o : PatternTerm}
    (first : term allowVars prefixes ts = .ok (o, rest)) (last : ∀ us, rest ≠ .comma :: us) :
    objects allowVars prefixes s r ts = .ok ([⟨s, r, o⟩], rest) := by
  rw [objects]
  split <;> rename_i read <;> rw [first] at read <;> cases read
  · exact absurd rfl (last _)
  · rfl

/-- What follows the objects of a predicate `r` with a semicolon after them. -/
theorem predicates_semicolon {s r : PatternTerm}
    (first : predicate allowVars prefixes ts = .ok (r, us))
    (found : objects allowVars prefixes s r us = .ok (patterns, .semicolon :: rest)) :
    predicates allowVars prefixes s ts =
      if endsBlock rest then .ok (patterns, rest)
      else (predicates allowVars prefixes s rest).map fun others =>
        (patterns ++ others.1, others.2) := by
  rw [predicates]
  split <;> rename_i read <;> rw [first] at read <;> cases read
  split <;> rename_i read <;> rw [found] at read <;> cases read
  · rfl
  · rename_i noSemicolon
    exact absurd rfl (noSemicolon rest)

theorem predicates_last {s r : PatternTerm}
    (first : predicate allowVars prefixes ts = .ok (r, us))
    (found : objects allowVars prefixes s r us = .ok (patterns, rest))
    (last : ∀ us, rest ≠ .semicolon :: us) :
    predicates allowVars prefixes s ts = .ok (patterns, rest) := by
  rw [predicates]
  split <;> rename_i read <;> rw [first] at read <;> cases read
  split <;> rename_i read <;> rw [found] at read <;> cases read
  · exact absurd rfl (last _)
  · rfl

theorem objects_tokens {s r : PatternTerm} (wf : place.wellFormed)
    (allowed : place.Allowed allowVars) (ends : EndsPattern rest) :
    objects allowVars prefixes s r (place.tokens ++ rest) = .ok ([⟨s, r, place⟩], rest) := by
  refine objects_last (term_tokens wf allowed ends.endsTerm) ?_
  obtain ⟨tail, rfl | rfl⟩ := ends <;> exact nofun

theorem predicates_tokens {s r o : PatternTerm} (wfr : r.wellFormed) (wfo : o.wellFormed)
    (allowedr : r.Allowed allowVars) (allowedo : o.Allowed allowVars) (ends : EndsPattern rest) :
    predicates allowVars prefixes s (r.tokens ++ (o.tokens ++ rest)) =
      .ok ([⟨s, r, o⟩], rest) := by
  refine predicates_last (predicate_tokens wfr allowedr endsTerm_tokens)
    (objects_tokens wfo allowedo ends) ?_
  obtain ⟨tail, rfl | rfl⟩ := ends <;> exact nofun

/-- The pattern `p` is one that may stand where variables are allowed or not, as `allowVars`
says. -/
def TriplePattern.Allowed (allowVars : Bool) (p : TriplePattern) : Prop :=
  ∀ place ∈ p.places, place.Allowed allowVars

theorem tokens_eq : p.tokens = p.subject.tokens ++ (p.predicate.tokens ++ p.object.tokens) := by
  simp [TriplePattern.tokens, TriplePattern.places]

theorem of_wellFormed (wf : p.wellFormed) :
    p.subject.wellFormed ∧ p.predicate.wellFormed ∧ p.object.wellFormed := by
  simpa [TriplePattern.wellFormed, TriplePattern.places] using wf

theorem block_tokens (wf : p.wellFormed) (allowed : p.Allowed allowVars) (ends : EndsPattern rest) :
    block allowVars prefixes (p.tokens ++ rest) = .ok ([p], rest) := by
  obtain ⟨wfs, wfr, wfo⟩ := of_wellFormed wf
  have may (place : PatternTerm) (listed : place ∈ p.places) := allowed place listed
  rw [tokens_eq, List.append_assoc, List.append_assoc, block,
    term_tokens wfs (may _ (by simp [TriplePattern.places])) endsTerm_tokens]
  exact predicates_tokens wfr wfo (may _ (by simp [TriplePattern.places]))
    (may _ (by simp [TriplePattern.places])) ends

/-! ### Groups -/

theorem keyword?_of_ne_word (plain : ∀ w, t ≠ .word w) :
    keyword? keyword (t :: ts) = none := by
  unfold keyword?
  split
  · rename_i same
    cases same
    exact absurd rfl (plain _)
  · rfl

/-- Whether a pattern may begin with `ts`: the group does not end, and no keyword follows. -/
def startsPattern (ts : List Token) : Bool :=
  ts.head?.any (· != .rbrace) && (keyword? "FILTER" ts).isNone && (keyword? "OPTIONAL" ts).isNone

theorem startsPattern_of_ne_word (opens : t ≠ .rbrace) (plain : ∀ w, t ≠ .word w) :
    startsPattern (t :: ts) := by
  simp [startsPattern, keyword?_of_ne_word plain, opens]

/-- A group goes on with a pattern unless it closes or a keyword follows in `ts`. -/
theorem blocks_of_startsPattern (starts : startsPattern ts) :
    blocks allowVars prefixes ts =
      match block allowVars prefixes ts with
      | .error e => .error e
      | .ok (found, .dot :: next) =>
        (blocks allowVars prefixes next).map fun r => (found ++ r.1, r.2)
      | .ok (found, .rbrace :: next) => .ok (found, next)
      | .ok (_, after) => .error (.expectedSeparator after.head?) := by
  simp only [startsPattern, Bool.and_eq_true, Option.isNone_iff_eq_none] at starts
  obtain ⟨⟨opens, noFilter⟩, noOptional⟩ := starts
  rw [blocks.eq_def]
  split
  · cases opens
  · cases opens
  · rw [if_neg (by simp [noFilter, noOptional])]
    split <;> rename_i read <;> simp_all

/-- The `patterns` of a group are read one after the other. -/
theorem blocks_tokens (wf : ∀ p ∈ patterns, p.wellFormed)
    (allowed : ∀ p ∈ patterns, p.Allowed allowVars) :
    blocks allowVars prefixes
      ([.dot].intercalate (patterns.map TriplePattern.tokens) ++ .rbrace :: rest) =
        .ok (patterns, rest) := by
  induction patterns with
  | nil => rw [List.map_nil, List.intercalate_nil, List.nil_append, blocks]
  | cons p others ih =>
    obtain ⟨wfp, wfOthers⟩ := List.forall_mem_cons.1 wf
    obtain ⟨allowedp, allowedOthers⟩ := List.forall_mem_cons.1 allowed
    have read (ts : List Token) (ends : EndsPattern ts) :
        block allowVars prefixes (p.tokens ++ ts) = .ok ([p], ts) :=
      block_tokens wfp allowedp ends
    -- The first token decides that a pattern follows, so that it has to be seen.
    obtain ⟨t, us, tokens, opens, plain, -⟩ := exists_tokens_eq_cons p.subject
    have head : p.tokens = t :: (us ++ (p.predicate.tokens ++ p.object.tokens)) := by
      rw [tokens_eq, tokens, List.cons_append]
    rw [head] at read
    cases others with
    | nil =>
      rw [List.map_cons, List.map_nil, List.intercalate_singleton, head, List.cons_append,
        blocks_of_startsPattern (startsPattern_of_ne_word opens plain), ← List.cons_append,
        read _ ⟨rest, .inr rfl⟩]
    | cons q others =>
      rw [List.map_cons, List.map_cons, List.intercalate_cons_cons, ← List.map_cons,
        List.append_assoc, List.append_assoc, List.singleton_append, head, List.cons_append,
        blocks_of_startsPattern (startsPattern_of_ne_word opens plain), ← List.cons_append,
        read _ ⟨_, .inl rfl⟩]
      simp only [ih wfOthers allowedOthers, Except.map, List.singleton_append]

theorem group_tokens (wf : ∀ p ∈ patterns, p.wellFormed)
    (allowed : ∀ p ∈ patterns, p.Allowed allowVars) :
    group allowVars prefixes (groupTokens patterns ++ rest) = .ok (patterns, rest) := by
  rw [groupTokens, List.cons_append, List.cons_append, List.append_assoc, List.singleton_append]
  exact blocks_tokens wf allowed

/-! ### Keywords and prefixes -/

theorem keyword?_word (is : isKeyword keyword w) (rest : List Token) :
    keyword? keyword (.word w :: rest) = some rest :=
  if_pos is

/-- A word `w` is one keyword at most, in whatever case it is written. -/
theorem keyword?_other {other : String} (is : isKeyword keyword w) (different : other ≠ keyword)
    (rest : List Token) : keyword? other (.word w :: rest) = none := by
  refine if_neg fun isOther => different (String.toList_inj.1 ?_)
  calc other.toList
    _ = w.toList.map Char.toUpper := (eq_of_beq isOther).symm
    _ = keyword.toList := eq_of_beq is

theorem keyword?_eq_some_iff :
    keyword? keyword ts = some rest ↔ ∃ w, isKeyword keyword w ∧ ts = .word w :: rest := by
  constructor
  · intro found
    unfold keyword? at found
    split at found
    · split at found <;> cases found
      rename_i w _ is
      exact ⟨_, is, rfl⟩
    · cases found
  · rintro ⟨w, is, rfl⟩
    exact keyword?_word is rest

theorem expectKeyword_eq_ok_iff :
    expectKeyword keyword ts = .ok rest ↔ keyword? keyword ts = some rest := by
  unfold expectKeyword
  constructor
  · intro read
    split at read <;> cases read
    assumption
  · intro found
    rw [found]

/-- The `keyword` is skipped if it is there. -/
theorem exists_skipKeyword (keyword : String) (ts : List Token) : ∃ skipped : Option String,
    (∀ w ∈ skipped, isKeyword keyword w) ∧
      ts = skipped.toList.map .word ++ skipKeyword keyword ts := by
  unfold skipKeyword
  cases found : keyword? keyword ts with
  | none => exact ⟨none, nofun, rfl⟩
  | some rest =>
    obtain ⟨w, is, rfl⟩ := keyword?_eq_some_iff.1 found
    exact ⟨some w, by simpa using is, rfl⟩

theorem skipKeyword_append {skipped : Option String} (is : ∀ w ∈ skipped, isKeyword keyword w)
    (none : keyword? keyword rest = none) :
    skipKeyword keyword (skipped.toList.map .word ++ rest) = rest := by
  cases skipped with
  | none => simp [skipKeyword, none]
  | some w => simp [skipKeyword, keyword?_word (is w rfl)]

/-- The tokens declare prefixes, which come to stand before those given. -/
inductive Declares : Prefixes → List Token → Prefixes → Prop where
  /-- No more is declared. -/
  | nil {prefixes : Prefixes} : Declares prefixes [] prefixes
  /-- A prefix `label` for `iri`, and others. -/
  | cons {prefixes declared : Prefixes} {w label iri : String} {ts : List Token}
      (keyword : isKeyword "PREFIX" w) (others : Declares ((label, iri) :: prefixes) ts declared) :
      Declares prefixes (.word w :: .prefixedName label "" :: .iri iri :: ts) declared

theorem prologue_of_keyword?_eq_none (none : keyword? "PREFIX" ts = none) :
    prologue prefixes ts = .ok (prefixes, ts) := by
  rw [prologue]
  split
  · rfl
  · rename_i found
    rw [none] at found
    cases found
  · rename_i found
    rw [none] at found
    cases found
  · rename_i found
    rw [none] at found
    cases found

theorem prologue_of_prefix {label iri : String} (is : isKeyword "PREFIX" w) :
    prologue prefixes (.word w :: .prefixedName label "" :: .iri iri :: rest) =
      prologue ((label, iri) :: prefixes) rest := by
  have found : keyword? "PREFIX" (.word w :: .prefixedName label "" :: .iri iri :: rest) =
      some (.prefixedName label "" :: .iri iri :: rest) := keyword?_word is _
  rw [prologue.eq_def]
  split <;> rename_i read <;> rw [found] at read <;> cases read
  · rfl
  · rename_i noIri
    exact absurd rfl (noIri _ _)
  · rename_i noIri _
    exact absurd rfl (noIri _ _ _)

/-- The prologue consists of declarations `us`, and no other follows it. -/
theorem prologue_eq_ok_iff : prologue prefixes ts = .ok (declared, rest) ↔
    ∃ us, ts = us ++ rest ∧ Declares prefixes us declared ∧ keyword? "PREFIX" rest = none := by
  constructor
  · intro read
    fun_induction prologue prefixes ts with
    | case1 prefixes ts none =>
      cases read
      exact ⟨[], rfl, .nil, none⟩
    | case2 prefixes ts label iri next found _ ih =>
      obtain ⟨us, rfl, declares, none⟩ := ih read
      obtain ⟨w, is, rfl⟩ := keyword?_eq_some_iff.1 found
      exact ⟨_, rfl, .cons is declares, none⟩
    | case3 | case4 => cases read
  · rintro ⟨us, rfl, declares, none⟩
    induction declares with
    | nil => exact prologue_of_keyword?_eq_none none
    | cons keyword others ih =>
      rw [List.cons_append, List.cons_append, List.cons_append, prologue_of_prefix keyword, ih]

/-! ### What is asked for -/

theorem varNames_append (names : List String) (rest : List Token)
    (ends : ∀ name us, rest ≠ .var name :: us) :
    varNames (names.map .var ++ rest) = (names, rest) := by
  induction names with
  | nil =>
    rw [List.map_nil, List.nil_append]
    unfold varNames
    split
    · exact absurd rfl (ends _ _)
    · rfl
  | cons name names ih =>
    rw [List.map_cons, List.cons_append, varNames, ih]
    rfl

theorem projection_tokens {projection : Option (List String)} (someAsked : projection ≠ some [])
    (ends : ∀ name us, rest ≠ .var name :: us) :
    Sparql.projection (projectionTokens projection ++ rest) = .ok (projection, rest) := by
  match projection, someAsked with
  | none, _ => rfl
  | some [], someAsked => exact absurd rfl someAsked
  | some (name :: names), _ =>
    have read := varNames_append (name :: names) rest ends
    rw [List.map_cons, List.cons_append] at read
    rw [projectionTokens, List.map_cons, List.cons_append, Sparql.projection, read]
    rintro _ ⟨⟩

theorem varNames_parts (ts : List Token) : (varNames ts).1.map .var ++ (varNames ts).2 = ts := by
  fun_induction varNames ts with
  | case1 name rest ih => exact congrArg _ ih
  | case2 => rfl

theorem projection_parts {projection : Option (List String)}
    (read : Sparql.projection ts = .ok (projection, rest)) :
    ts = projectionTokens projection ++ rest ∧ projection ≠ some [] := by
  have parts := varNames_parts ts
  unfold Sparql.projection at read
  split at read
  · cases read
    exact ⟨rfl, nofun⟩
  · split at read <;> cases read
    rename_i inhabited found
    rw [found] at parts
    exact ⟨parts.symm, fun none => inhabited (Option.some.inj none)⟩

/-- The tokens of `projection` start with no keyword. -/
theorem keyword?_projectionTokens {projection : Option (List String)}
    (someAsked : projection ≠ some []) :
    keyword? keyword (projectionTokens projection ++ rest) = none := by
  match projection, someAsked with
  | none, _ => rfl
  | some [], someAsked => exact absurd rfl someAsked
  | some (name :: names), _ => rfl

/-- The tokens after a keyword of `ts` that asks for different rows, or allows for the same. -/
def skipModifier (ts : List Token) : List Token :=
  match keyword? "DISTINCT" ts with
  | some rest => rest
  | none => skipKeyword "REDUCED" ts

theorem exists_skipModifier (ts : List Token) : ∃ modifier : Option String,
    (∀ w ∈ modifier, isKeyword "DISTINCT" w ∨ isKeyword "REDUCED" w) ∧
      ts = modifier.toList.map .word ++ skipModifier ts := by
  unfold skipModifier
  split
  · rename_i found
    obtain ⟨w, is, rfl⟩ := keyword?_eq_some_iff.1 found
    exact ⟨some w, by simpa using .inl is, rfl⟩
  · obtain ⟨skipped, is, parts⟩ := exists_skipKeyword "REDUCED" ts
    exact ⟨skipped, fun w given => .inr (is w given), parts⟩

theorem skipModifier_append {modifier : Option String}
    (is : ∀ w ∈ modifier, isKeyword "DISTINCT" w ∨ isKeyword "REDUCED" w)
    (noKeyword : ∀ keyword, keyword? keyword rest = none) :
    skipModifier (modifier.toList.map .word ++ rest) = rest := by
  unfold skipModifier
  split
  · rename_i found
    cases modifier with
    | none =>
      rw [Option.toList_none, List.map_nil, List.nil_append, noKeyword] at found
      cases found
    | some w =>
      obtain ⟨_, -, same⟩ := keyword?_eq_some_iff.1 found
      exact (List.cons.inj same).2.symm
  · rename_i noDistinct
    -- A modifier that is not the first keyword has to be the second.
    refine skipKeyword_append (fun w given => ?_) (noKeyword _)
    refine (is w given).resolve_left fun distinct => ?_
    obtain rfl : modifier = some w := given
    rw [Option.toList_some, List.map_singleton, List.singleton_append,
      keyword?_word distinct] at noDistinct
    cases noDistinct

/-- The keywords around what is asked for, as the query writes them. -/
structure Wording where
  /-- The keyword in front. -/
  select : String
  /-- The keyword after it, which changes nothing. -/
  modifier : Option String
  /-- The keyword before the brace. -/
  condition : Option String
  isSelect : isKeyword "SELECT" select
  isModifier : ∀ w ∈ modifier, isKeyword "DISTINCT" w ∨ isKeyword "REDUCED" w
  isCondition : ∀ w ∈ condition, isKeyword "WHERE" w

/-- The keywords of a printed query. -/
def Wording.plain : Wording where
  select := "SELECT"
  modifier := none
  condition := some "WHERE"
  isSelect := rfl
  isModifier := nofun
  isCondition := by
    rintro _ ⟨⟩
    rfl

/-- The tokens of `wording` with what is asked for between them. -/
def Wording.header (wording : Wording) (projection : Option (List String)) : List Token :=
  .word wording.select :: (wording.modifier.toList.map .word ++
    (projectionTokens projection ++ wording.condition.toList.map .word))

/-! ### Queries -/

/-- What is read of a query in `ts`, one part after the other. -/
theorem selection_eq : selection prefixes ts = (do
    let afterSelect ← expectKeyword "SELECT" ts
    let (names, afterNames) ← projection (skipModifier afterSelect)
    let (pattern, afterPattern) ← group true prefixes (skipKeyword "WHERE" afterNames)
    let (bound, rest) ← limit afterPattern
    return (⟨names, pattern, bound⟩, rest)) := rfl

/-- A query `q` after its prologue: what is asked for between keywords, the patterns and the
limit. -/
theorem selection_eq_ok_iff : selection prefixes ts = .ok (q, rest) ↔
    ∃ (wording : Wording) (body after : List Token),
      ts = wording.header q.projection ++ .lbrace :: body ∧ q.projection ≠ some [] ∧
        blocks true prefixes body = .ok (q.pattern, after) ∧ limit after = .ok (q.limit, rest) := by
  constructor
  · intro read
    rw [selection_eq] at read
    obtain ⟨afterSelect, select, read⟩ := bind_eq_ok_iff.1 read
    obtain ⟨⟨names, afterNames⟩, asked, read⟩ := bind_eq_ok_iff.1 read
    obtain ⟨⟨patterns, afterPatterns⟩, grouped, read⟩ := bind_eq_ok_iff.1 read
    obtain ⟨⟨bound, left⟩, limited, read⟩ := bind_eq_ok_iff.1 read
    cases read
    -- Each part is turned around to tell the tokens that it was read from.
    obtain ⟨w, isSelect, rfl⟩ := keyword?_eq_some_iff.1 (expectKeyword_eq_ok_iff.1 select)
    obtain ⟨modifier, isModifier, beforeNames⟩ := exists_skipModifier afterSelect
    obtain ⟨names, someAsked⟩ := projection_parts asked
    obtain ⟨condition, isCondition, beforeBrace⟩ := exists_skipKeyword "WHERE" afterNames
    unfold group at grouped
    split at grouped
    · rename_i body braced
      refine ⟨⟨w, modifier, condition, isSelect, isModifier, isCondition⟩, body, afterPatterns, ?_,
        someAsked, grouped, limited⟩
      rw [braced] at beforeBrace
      rw [Wording.header, beforeNames, names, beforeBrace]
      simp
    · cases grouped
  · rintro ⟨wording, body, after, rfl, someAsked, grouped, limited⟩
    have select (ts : List Token) :
        expectKeyword "SELECT" (.word wording.select :: ts) = .ok ts :=
      expectKeyword_eq_ok_iff.2 (keyword?_word wording.isSelect ts)
    have modifier (ts : List Token) : skipModifier (wording.modifier.toList.map .word ++
        (projectionTokens q.projection ++ ts)) = projectionTokens q.projection ++ ts :=
      skipModifier_append wording.isModifier fun keyword => keyword?_projectionTokens someAsked
    have condition : skipKeyword "WHERE" (wording.condition.toList.map .word ++ .lbrace :: body) =
        .lbrace :: body := skipKeyword_append wording.isCondition rfl
    have asked : projection (projectionTokens q.projection ++
        (wording.condition.toList.map .word ++ .lbrace :: body)) =
          .ok (q.projection, wording.condition.toList.map .word ++ .lbrace :: body) := by
      refine projection_tokens someAsked ?_
      cases wording.condition <;> exact nofun
    have group : group true prefixes (.lbrace :: body) = .ok (q.pattern, after) := grouped
    rw [Wording.header, selection_eq, List.cons_append, select, List.append_assoc,
      List.append_assoc]
    simp only [bind, Except.bind, modifier, asked, condition, group, limited, pure, Except.pure]

/-- After the header no other declaration follows, whatever the `wording`. -/
theorem keyword?_header (wording : Wording) {projection : Option (List String)} :
    keyword? "PREFIX" (wording.header projection ++ rest) = none :=
  keyword?_other wording.isSelect (by decide) _

/-- A query `q` consists of declarations, a selection and nothing more. -/
theorem ofTokens_eq_ok_iff : Query.ofTokens ts = .ok q ↔
    ∃ (us : List Token) (declared : Prefixes) (wording : Wording) (body after : List Token),
      ts = us ++ (wording.header q.projection ++ .lbrace :: body) ∧ Declares [] us declared ∧
        q.projection ≠ some [] ∧ blocks true declared body = .ok (q.pattern, after) ∧
          limit after = .ok (q.limit, []) := by
  constructor
  · intro read
    obtain ⟨⟨declared, afterPrologue⟩, start, read⟩ := bind_eq_ok_iff.1 read
    obtain ⟨⟨found, rest⟩, selected, read⟩ := bind_eq_ok_iff.1 read
    unfold atEnd at read
    split at read <;> cases read
    rename_i same
    cases same
    obtain ⟨us, rfl, declares, -⟩ := prologue_eq_ok_iff.1 start
    obtain ⟨wording, body, after, rfl, parts⟩ := selection_eq_ok_iff.1 selected
    exact ⟨us, declared, wording, body, after, rfl, declares, parts⟩
  · rintro ⟨us, declared, wording, body, after, rfl, declares, parts⟩
    have start : prologue [] (us ++ (wording.header q.projection ++ .lbrace :: body)) =
        .ok (declared, wording.header q.projection ++ .lbrace :: body) :=
      prologue_eq_ok_iff.2 ⟨us, rfl, declares, keyword?_header wording⟩
    have selected : selection declared (wording.header q.projection ++ .lbrace :: body) =
        .ok (q, []) := selection_eq_ok_iff.2 ⟨wording, body, after, rfl, parts⟩
    rw [Query.ofTokens, start]
    simp only [bind, Except.bind, selected, atEnd]

theorem limitOf?_toDigits {n : Nat} (small : n < 0x10000000000000000) :
    limitOf? (String.ofList (Nat.toDigits 10 n)) = some n := by
  have digits : ∀ c ∈ Nat.toDigits 10 n, c.isDigit := fun c =>
    Nat.isDigit_of_mem_toDigits (by decide) (by decide)
  have value : Text.ofDigits (Nat.toDigits 10 n) = n := Nat.ofDigitChars_ten_toDigits
  unfold limitOf?
  rw [String.toList_ofList]
  split
  · -- A number may be written with a sign, but none has been.
    rename_i same
    rw [same] at digits
    exact absurd (digits '+' List.mem_cons_self) (by decide)
  · simp only [List.all_eq_true.2 digits, if_true, value, if_pos small]

theorem limit_tokens {limit : Option Nat} (small : limit.all (· < 0x10000000000000000)) :
    Sparql.limit (limitTokens limit) = .ok (limit, []) := by
  cases limit with
  | none => rfl
  | some n =>
    have read := limitOf?_toDigits (n := n) (by simpa using small)
    have digits : keyword? "LIMIT" (limitTokens (some n)) =
        some [.integer (String.ofList (Nat.toDigits 10 n))] := rfl
    rw [Sparql.limit, digits]
    dsimp only
    rw [read]

theorem Query.projection_ne (wf : q.wellFormed) : q.projection ≠ some [] := by
  intro none
  simp [wellFormed, none] at wf

/-- A well-formed query `q` is read back from its tokens. -/
theorem ofTokens_tokens (wf : q.wellFormed) : Query.ofTokens q.tokens = .ok q := by
  have someAsked := q.projection_ne wf
  simp only [Query.wellFormed, Bool.and_eq_true, List.all_eq_true] at wf
  obtain ⟨⟨-, pattern⟩, small⟩ := wf
  have patterns : blocks true [] ([.dot].intercalate (q.pattern.map TriplePattern.tokens) ++
      .rbrace :: limitTokens q.limit) = .ok (q.pattern, limitTokens q.limit) :=
    blocks_tokens pattern fun _ _ _ _ => .inl rfl
  refine ofTokens_eq_ok_iff.2 ⟨[], [], .plain, _, _, ?_, .nil, someAsked, patterns,
    limit_tokens small⟩
  simp [Query.tokens, Wording.header, Wording.plain, groupTokens]

/-- A well-formed query `q` is read back from its text. -/
theorem parse_print (wf : q.wellFormed) : Query.parse q.print = .ok q := by
  have tokens := (lexes_words wf).tokensOf_eq
  rw [line_words (q.projection_ne wf), tokensOf_blank] at tokens
  rw [Query.parse, tokenize, Query.print, String.toList_ofList, tokens]
  exact ofTokens_tokens wf

end GraphBroker.Sparql

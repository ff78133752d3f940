import GraphBroker.Proofs.Sparql.Segments

/-!
# The tokens of a printed query

A word is read as the same tokens whatever follows it, as long as what follows stands
apart from it: it is empty or begins with a blank. So the tokens of a line are those of
its words, one after the other.

## Main definitions

* `Sparql.Apart`, `Sparql.Lexes`: what stands apart from a word, and what a word is read as.
* `Query.tokens`: the tokens of a query.

## Main statements

* `lexes_place`: what each place of a pattern is read as.
* `lexes_words`: the tokens of a query are those of its parts.
-/

namespace GraphBroker.Sparql

open Text

variable {c : Char} {cs rest suffix : List Char} {t : Token} {ts us : List Token}
  {ws vs : List (List Char)} {p : Char → Bool}

/-! ### Reading apart -/

/-- The input `rest` is at its end, or goes on with a blank. -/
def Apart (rest : List Char) : Prop :=
  ∀ c ∈ rest.head?, c = ' '

theorem apart_nil : Apart [] := nofun

theorem apart_blank : Apart (' ' :: rest) := by
  rintro _ ⟨⟩
  rfl

theorem apart_line (apart : Apart rest) : Apart (line ws ++ rest) := by
  cases ws with
  | nil => exact apart
  | cons word ws => exact apart_blank

theorem Apart.stops (apart : Apart rest) (stops : p ' ' = false) : Stops p rest := by
  intro c first
  rw [apart c first]
  exact stops

/-- The characters `cs` are read as the tokens `ts`, whatever follows apart from them. -/
def Lexes (cs : List Char) (ts : List Token) : Prop :=
  ∀ rest, Apart rest → tokensOf (cs ++ rest) = (tokensOf rest).map (ts ++ ·)

namespace Lexes

theorem nil : Lexes [] [] := by
  intro rest apart
  rw [List.nil_append]
  cases tokensOf rest <;> rfl

/-- What spells the token `t` before anything apart from it. -/
theorem of_spells (spells : ∀ rest, Apart rest → Spells cs (.token t) rest) : Lexes cs [t] := by
  intro rest apart
  obtain ⟨c, us, rfl, read⟩ := lexeme_of_spells (spells rest apart)
  exact tokensOf_of_lexeme read

/-- What spells the token `t` before the characters `suffix`. -/
theorem spells_append (spells : ∀ rest, Apart rest → Spells cs (.token t) (suffix ++ rest))
    (lexes : Lexes suffix ts) : Lexes (cs ++ suffix) (t :: ts) := by
  intro rest apart
  obtain ⟨c, us, rfl, read⟩ := lexeme_of_spells (spells rest apart)
  rw [List.append_assoc, List.cons_append, tokensOf_of_lexeme read, lexes rest apart]
  cases tokensOf rest <;> rfl

theorem cons (word : Lexes cs ts) (others : Lexes (line ws) us) :
    Lexes (line (cs :: ws)) (ts ++ us) := by
  intro rest apart
  rw [line_cons, List.cons_append, List.cons_append, List.append_assoc, tokensOf_blank,
    word _ (apart_line apart), others rest apart]
  cases tokensOf rest <;> simp [Except.map]

theorem append (first : Lexes (line ws) ts) (second : Lexes (line vs) us) :
    Lexes (line (ws ++ vs)) (ts ++ us) := by
  intro rest apart
  rw [line_append, List.append_assoc, first _ (apart_line apart), second rest apart]
  cases tokensOf rest <;> simp [Except.map]

theorem one (word : Lexes cs ts) : Lexes (line [cs]) ts := by
  have single : Lexes (line [cs]) (ts ++ []) := word.cons .nil
  rwa [List.append_nil] at single

/-- The tokens of words that are made alike by `f`. -/
theorem map {α : Type} {l : List α} {f : α → List Char} {g : α → List Token}
    (each : ∀ a ∈ l, Lexes (f a) (g a)) : Lexes (line (l.map f)) (l.flatMap g) := by
  induction l with
  | nil => exact .nil
  | cons first rest ih =>
    rw [List.map_cons, List.flatMap_cons]
    exact (each first List.mem_cons_self).cons
      (ih fun a listed => each a (List.mem_cons_of_mem _ listed))

/-- The tokens of groups of words with `cs` between them as a separator. -/
theorem intercalate {α : Type} {l : List α} {f : α → List (List Char)} {g : α → List Token}
    (separator : Lexes cs ts) (each : ∀ a ∈ l, Lexes (line (f a)) (g a)) :
    Lexes (line ([cs].intercalate (l.map f))) (ts.intercalate (l.map g)) := by
  induction l with
  | nil => exact .nil
  | cons first rest ih =>
    have now := each first List.mem_cons_self
    -- A separator stands between groups only, not after the last.
    cases rest with
    | nil => simpa using now
    | cons second rest =>
      have later := ih fun a listed => each a (List.mem_cons_of_mem _ listed)
      rw [List.map_cons] at later
      rw [List.map_cons, List.map_cons, List.map_cons, List.map_cons, List.intercalate_cons_cons,
        List.intercalate_cons_cons]
      exact (now.append separator.one).append later

theorem tokensOf_eq (lexes : Lexes cs ts) : tokensOf cs = .ok ts := by
  have all := lexes [] apart_nil
  rw [List.append_nil] at all
  rw [all, tokensOf_nil, Except.map, List.append_nil]

end Lexes

/-! ### Names, IRIs and numbers -/

theorem not_isNameChar_blank : isNameChar ' ' = false := by decide

theorem lexes_var {name : String} (ok : isName name) :
    Lexes ('?' :: name.toList) [.var name] :=
  .of_spells fun _ apart => .var (.inl rfl) ok (apart.stops not_isNameChar_blank)

theorem lexes_blankNode {label : String} (ok : isName label) :
    Lexes ('_' :: ':' :: label.toList) [.blankNode label] :=
  .of_spells fun _ apart => .blankNode ok (apart.stops not_isNameChar_blank)

theorem lexes_langTag {tag : String} (ok : isTag tag) :
    Lexes ('@' :: tag.toList) [.langTag tag] :=
  .of_spells fun _ apart => .langTag ok (apart.stops (by decide))

theorem lexes_iri {value : String} (ok : isIriText value) :
    Lexes ('<' :: (value.toList ++ ['>'])) [.iri value] :=
  .of_spells fun _ _ => .iri ok

theorem lexes_integer {digits : List Char} (digit : c.isDigit) (all : ∀ d ∈ digits, d.isDigit) :
    Lexes (c :: digits) [.integer (String.ofList (c :: digits))] := by
  refine .of_spells fun rest apart => .integer (.inl digit) ?_ all (apart.stops (by decide)) ?_
  · rintro rfl
    exact absurd digit (by decide)
  · rintro tail rfl
    exact absurd (apart '.' rfl) (by decide)

/-! ### Literals -/

/-- A character `c` inside quotes is written as an escape that stands for it, or as itself if it is
none of those that would end the text. -/
theorem escaped_cases (c : Char) : (∃ e, Term.escaped c = ['\\', e] ∧ unescape e = c) ∨
    (Term.escaped c = [c] ∧ c ≠ '\\' ∧ c ≠ '"' ∧ c ≠ '\n') := by
  unfold Term.escaped
  split
  · exact .inl ⟨'\\', rfl, by subst c; rfl⟩
  split
  · exact .inl ⟨'"', rfl, by subst c; rfl⟩
  split
  · exact .inl ⟨'n', rfl, by subst c; rfl⟩
  split
  · exact .inl ⟨'r', rfl, by subst c; rfl⟩
  split
  · exact .inl ⟨'t', rfl, by subst c; rfl⟩
  · rename_i backslash quote newline _ _
    exact .inr ⟨rfl, backslash, quote, newline⟩

/-- The text `value` with its characters escaped is one between quotes. -/
theorem quoted_escaped (value : List Char) :
    Quoted '"' false (value.flatMap Term.escaped ++ ['"']) value := by
  induction value with
  | nil => exact .close
  | cons c value ih =>
    rw [List.flatMap_cons, List.append_assoc]
    obtain ⟨e, written, rfl⟩ | ⟨written, backslash, quote, newline⟩ := escaped_cases c
    · rw [written]
      exact .escape ih
    · rw [written]
      exact .char backslash quote (fun line => absurd line newline) ih

theorem head?_append_apart (head : suffix.head? ≠ some '"') (apart : Apart rest) :
    (suffix ++ rest).head? ≠ some '"' := by
  cases suffix with
  | nil =>
    intro quote
    exact absurd (apart '"' quote) (by decide)
  | cons c suffix => exact head

/-- The text `value` with its characters escaped is spelled in quotes, if no other quote follows. -/
theorem spells_escaped (value : String) (head : rest.head? ≠ some '"') :
    Spells ('"' :: (value.toList.flatMap Term.escaped ++ ['"'])) (.token (.string value)) rest := by
  have spelled : Spells _ (.token (.string (String.ofList value.toList))) rest :=
    .string (.inl rfl) (quoted_escaped value.toList) fun _ => head
  rwa [String.ofList_toList] at spelled

/-- A literal `value`, and what its language or datatype `suffix` is read as. -/
theorem lexes_literal {value : String} (lexes : Lexes suffix ts) (head : suffix.head? ≠ some '"') :
    Lexes ('"' :: (value.toList.flatMap Term.escaped ++ '"' :: suffix)) (.string value :: ts) := by
  have all := lexes.spells_append fun rest apart =>
    spells_escaped value (head?_append_apart head apart)
  rwa [List.cons_append, List.append_assoc] at all

/-- The tokens of a term. -/
def termTokens : Term → List Token
  | .iri value => [.iri value]
  | .blank label => [.blankNode label]
  | .literal value datatype language =>
    .string value ::
      match datatype, language with
      | _, some tag => [.langTag tag]
      | some name, none => [.datatypeMarker, .iri name]
      | none, none => []

theorem lexes_term {t : Term} (wf : t.wellFormed) : Lexes t.sparqlChars (termTokens t) := by
  match t, wf with
  | .iri value, wf => exact lexes_iri wf
  | .blank label, wf => exact lexes_blankNode wf
  | .literal value none none, _ => exact lexes_literal .nil (by simp)
  | .literal value none (some tag), wf => exact lexes_literal (lexes_langTag wf) (by simp)
  | .literal value (some name) none, wf =>
    exact lexes_literal (.spells_append (fun _ _ => .datatypeMarker) (lexes_iri wf)) (by simp)

/-- The tokens of a place. -/
def PatternTerm.tokens : PatternTerm → List Token
  | .term t => termTokens t
  | .var name => [.var name]

/-- A `place` is read as its tokens. -/
theorem lexes_place {place : PatternTerm} (wf : place.wellFormed) :
    Lexes place.chars place.tokens := by
  cases place with
  | term t => exact lexes_term wf
  | var name => exact lexes_var wf

/-! ### Queries -/

/-- The tokens of a pattern. -/
def TriplePattern.tokens (p : TriplePattern) : List Token :=
  p.places.flatMap PatternTerm.tokens

/-- The tokens of a group. -/
def groupTokens (patterns : List TriplePattern) : List Token :=
  .lbrace :: [.dot].intercalate (patterns.map TriplePattern.tokens) ++ [.rbrace]

/-- The tokens of a projection. -/
def projectionTokens : Option (List String) → List Token
  | none => [.star]
  | some names => names.map .var

/-- The tokens of a limit. -/
def limitTokens : Option Nat → List Token
  | none => []
  | some n => [.word "LIMIT", .integer (String.ofList (Nat.toDigits 10 n))]

/-- The tokens of a query. -/
def Query.tokens (q : Query) : List Token :=
  .word "SELECT" :: projectionTokens q.projection ++ [.word "WHERE"] ++ groupTokens q.pattern ++
    limitTokens q.limit

/-- A `word` is read as such. -/
theorem lexes_word {word : String} (inhabited : word.toList ≠ []) (ok : isLabel word.toList) :
    Lexes word.toList [.word word] := by
  refine .of_spells fun rest apart => ?_
  have spelled : Spells word.toList (.token (.word (String.ofList word.toList))) rest :=
    .word inhabited ok (apart.stops not_isNameChar_blank)
      fun colon => absurd (apart ':' colon) (by decide)
  rwa [String.ofList_toList] at spelled

theorem lexes_select : Lexes "SELECT".toList [.word "SELECT"] :=
  lexes_word (by decide) (by decide)

theorem lexes_where : Lexes "WHERE".toList [.word "WHERE"] :=
  lexes_word (by decide) (by decide)

theorem lexes_limit : Lexes "LIMIT".toList [.word "LIMIT"] :=
  lexes_word (by decide) (by decide)

theorem lexes_sign (sign : sign? c = some t) : Lexes [c] [t] :=
  .of_spells fun _ _ => .sign sign

theorem lexes_star : Lexes ['*'] [.star] :=
  lexes_sign rfl

theorem lexes_dot : Lexes ['.'] [.dot] :=
  .of_spells fun _ apart => .dot (startsWithDigit_of_stops (apart.stops (by decide)))

theorem lexes_projection {projection : Option (List String)}
    (wf : projection.all fun names => !names.isEmpty && names.all isName) :
    Lexes (line (projectionWords projection)) (projectionTokens projection) := by
  cases projection with
  | none => exact lexes_star.one
  | some names =>
    rw [projectionTokens, List.map_eq_flatMap]
    refine .map fun name listed => lexes_var ?_
    simp only [Option.all_some, Bool.and_eq_true, List.all_eq_true] at wf
    exact wf.2 name listed

theorem lexes_pattern {p : TriplePattern} (wf : p.wellFormed) : Lexes (line p.words) p.tokens :=
  .map fun place listed => lexes_place (List.all_eq_true.1 wf place listed)

theorem lexes_group {patterns : List TriplePattern}
    (wf : patterns.all TriplePattern.wellFormed) :
    Lexes (line (groupWords patterns)) (groupTokens patterns) := by
  have inside : Lexes (line ([['.']].intercalate (patterns.map TriplePattern.words)))
      ([.dot].intercalate (patterns.map TriplePattern.tokens)) :=
    .intercalate lexes_dot fun p listed => lexes_pattern (List.all_eq_true.1 wf p listed)
  exact (lexes_sign rfl).cons (inside.append (lexes_sign rfl).one)

theorem lexes_limitWords (limit : Option Nat) :
    Lexes (line (limitWords limit)) (limitTokens limit) := by
  cases limit with
  | none => exact .nil
  | some n =>
    refine lexes_limit.cons (.one ?_)
    have all : ∀ d ∈ Nat.toDigits 10 n, d.isDigit := fun d =>
      Nat.isDigit_of_mem_toDigits (by decide) (by decide)
    -- The first digit is what tells a number from other lexemes.
    cases digits : Nat.toDigits 10 n with
    | nil => exact absurd digits Nat.toDigits_ne_nil
    | cons c rest =>
      rw [digits] at all
      exact lexes_integer (all c List.mem_cons_self)
        fun d listed => all d (List.mem_cons_of_mem _ listed)

/-- The tokens of `q` are those of its parts. -/
theorem lexes_words {q : Query} (wf : q.wellFormed) : Lexes (line q.words) q.tokens := by
  simp only [Query.wellFormed, Bool.and_eq_true] at wf
  obtain ⟨⟨projection, pattern⟩, -⟩ := wf
  have head : Lexes (line q.headWords)
      (.word "SELECT" :: projectionTokens q.projection ++ [.word "WHERE"]) :=
    lexes_select.cons ((lexes_projection projection).append lexes_where.one)
  exact (head.append (lexes_group pattern)).append (lexes_limitWords q.limit)

end GraphBroker.Sparql

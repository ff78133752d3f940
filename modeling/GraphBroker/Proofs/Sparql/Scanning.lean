import GraphBroker.Proofs.Sparql.Lexing
import GraphBroker.Sparql.Forced

/-!
# How the words of a query are cut into pieces

Forced variables are replaced in the text, before it is read. A word of a printed query is
cut into pieces as if it stood alone, so that what becomes of the text becomes of each of
its words. A term has no variable among its pieces, whatever stands in its quotes or
brackets.

## Main definitions

* `Term.scannable`, `PatternTerm.scannable`: what the scanner takes for what it is.
* `Sparql.Whole`: words that are cut as if they stood alone.

## Main statements

* `pieces_line`: the pieces of a line are those of its words.
* `whole_var`, `inert_term`: variables and terms are whole, and nothing in a term is replaced.
-/

namespace GraphBroker

/-- The IRI `value` does not start with an equals sign, so that it does not look like a
comparison. -/
def isPlainIri (value : String) : Bool :=
  value.toList.head? != some '='

/-- Terms whose IRI does not look like a comparison. -/
def Term.scannable : Term → Bool
  | iri value => isPlainIri value
  | literal _ (some datatype) _ => isPlainIri datatype
  | _ => true

namespace Sparql

open Text

/-- Terms that are scannable, and variables without hyphens. -/
def PatternTerm.scannable : PatternTerm → Bool
  | term t => t.scannable
  | var name => name.toList.all isVarChar

variable {c quote : Char} {cs us name rest suffix value : List Char} {long : Bool}
  {ws : List (List Char)} {b : Binding} {t : Term}

/-! ### Pieces -/

/-- Whether the character is a piece of its own wherever the scanner meets it. -/
def isPlain (c : Char) : Bool :=
  c != '"' && c != '\'' && c != '<' && c != '?' && c != '$'

theorem pieces_plain (plain : isPlain c) : pieces (c :: cs) = .char c :: pieces cs := by
  simp only [isPlain, Bool.and_eq_true, bne_iff_ne] at plain
  obtain ⟨⟨⟨⟨double, single⟩, angle⟩, question⟩, dollar⟩ := plain
  rw [pieces]
  simp only [double, single, angle, question, dollar, or_self, false_and, if_false]

theorem pieces_append_of_plain (plain : cs.all isPlain) :
    pieces (cs ++ rest) = cs.map .char ++ pieces rest := by
  induction cs with
  | nil => rfl
  | cons c cs ih =>
    obtain ⟨first, others⟩ := Bool.and_eq_true_iff.1 plain
    rw [List.cons_append, pieces_plain first, ih others]
    rfl

theorem pieces_of_plain (plain : cs.all isPlain) : pieces cs = cs.map .char := by
  have all : pieces (cs ++ []) = cs.map .char ++ pieces [] := pieces_append_of_plain plain
  rw [List.append_nil] at all
  rw [all, pieces, List.append_nil]

theorem pieces_var_append (all : ∀ c ∈ name, isVarChar c) (apart : Apart rest) :
    pieces ('?' :: (name ++ rest)) = .var '?' name :: pieces rest := by
  rw [pieces]
  simp only [show ('?' = '"' ∨ '?' = '\'') = False by decide, if_false,
    show ('?' = '<') = False by decide, false_and, true_or, if_true,
    takeWhile_stops all (apart.stops (show isVarChar ' ' = false by decide)),
    dropWhile_stops all (apart.stops (show isVarChar ' ' = false by decide))]

theorem opensIri_bracket (inside : ∀ c ∈ name, c ≠ '>') (solid : ∀ c ∈ name, isBlank c = false)
    (plain : name.head? ≠ some '=') : opensIri (name ++ '>' :: rest) = true := by
  have all : ∀ c ∈ name, (c != '>' && !isBlank c) = true := fun c listed => by
    simp [inside c listed, solid c listed]
  have head : (name ++ '>' :: rest).head? ≠ some '=' := by
    cases name with
    | nil => exact nofun
    | cons c name => exact plain
  rw [opensIri, List.dropWhile_append_of_pos all]
  simpa using head

theorem pieces_iri_append (inside : ∀ c ∈ name, c ≠ '>') (solid : ∀ c ∈ name, isBlank c = false)
    (plain : name.head? ≠ some '=') : pieces ('<' :: (name ++ '>' :: rest)) =
      .verbatim ('<' :: (name ++ ['>'])) :: pieces rest := by
  obtain ⟨before, after⟩ := takeWhile_bracket inside rest
  rw [pieces]
  simp only [show ('<' = '"' ∨ '<' = '\'') = False by decide, if_false,
    opensIri_bracket inside solid plain, and_self, if_true, before, after, List.drop_succ_cons,
    List.drop_zero]

/-- The scanner leaves a quoted text `us` where the lexer does. -/
theorem quotedPart_of_quoted (quotes : quote ≠ '\\') (inside : Quoted quote long us value) :
    quotedPart quote long (us ++ rest) = (us, rest) := by
  -- The induction is on the grammar that the lexer follows, so that both leave the text at once.
  induction inside with
  | close =>
    rw [List.singleton_append, quotedPart.eq_def]
    simp [quotes, closing?]
  | closeLong =>
    have marks : rest.length + 1 + 1 - rest.length = 2 := by omega
    rw [List.cons_append, quotedPart.eq_def]
    simp [quotes, closing?, marks]
  | escape inside ih =>
    rw [List.cons_append, List.cons_append, quotedPart.eq_def]
    simp [ih]
  | inner stays inside ih =>
    rw [List.cons_append, quotedPart.eq_def]
    simp [quotes, (closing?_append_eq_none inside).2 stays, ih]
  | char escapes closes _ inside ih =>
    rw [List.cons_append, quotedPart.eq_def]
    simp [escapes, closes, ih]

theorem quotedText_short (quotes : quote = '"' ∨ quote = '\'')
    (inside : Quoted quote false us value) (short : us = [quote] → rest.head? ≠ some quote) :
    quotedText quote (us ++ rest) = (us, rest) := by
  rw [← quotedPart_of_quoted (quote_ne_backslash quotes) inside]
  unfold quotedText
  split
  · rename_i d e tail same
    refine if_neg fun opens => not_two_quotes quotes inside short tail ?_
    rw [same, opens.1, opens.2]
  · rfl

theorem quotedText_long (quotes : quote = '"' ∨ quote = '\'')
    (inside : Quoted quote true us value) :
    quotedText quote (quote :: quote :: (us ++ rest)) = (quote :: quote :: us, rest) := by
  simp only [quotedText, and_self, if_true,
    quotedPart_of_quoted (quote_ne_backslash quotes) inside]

theorem pieces_quoted_append (quotes : quote = '"' ∨ quote = '\'')
    (inside : Quoted quote false us value) (short : us = [quote] → rest.head? ≠ some quote) :
    pieces (quote :: (us ++ rest)) = .verbatim (quote :: us) :: pieces rest := by
  rw [pieces, if_pos quotes, quotedText_short quotes inside short]

/-! ### Whole words -/

/-- The `word` is cut as if it stood alone, whatever follows apart from it. -/
def Whole (word : List Char) : Prop :=
  ∀ rest, Apart rest → pieces (word ++ rest) = pieces word ++ pieces rest

/-- The pieces of a line are those of its words `ws`. -/
theorem pieces_line (whole : ∀ word ∈ ws, Whole word) :
    pieces (line ws) = ws.flatMap fun word => .char ' ' :: pieces word := by
  induction ws with
  | nil => rw [line_nil, pieces, List.flatMap_nil]
  | cons word ws ih =>
    have apart : Apart (line ws) := by
      rw [← List.append_nil (line ws)]
      exact apart_line apart_nil
    -- Each word is followed by a blank or by nothing.
    rw [line_cons, List.cons_append, pieces_plain (by decide),
      whole word List.mem_cons_self _ apart, List.flatMap_cons,
      ih fun other listed => whole other (List.mem_cons_of_mem _ listed), List.cons_append]

theorem Whole.of_plain (plain : cs.all isPlain) : Whole cs := by
  intro rest _
  rw [pieces_append_of_plain plain, pieces_of_plain plain]

/-- If the pieces of `cs` are known whatever follows, they are `ps`, and `cs` is whole. -/
theorem Whole.of_append (cs : List Char) (ps : List Piece)
    (cut : ∀ rest, Apart rest → pieces (cs ++ rest) = ps ++ pieces rest) :
    Whole cs ∧ pieces cs = ps := by
  have alone : pieces cs = ps := by
    have all := cut [] apart_nil
    rwa [List.append_nil, pieces, List.append_nil] at all
  exact ⟨fun rest apart => by rw [cut rest apart, alone], alone⟩

theorem whole_var {name : String} (scannable : name.toList.all isVarChar) :
    Whole ('?' :: name.toList) ∧ pieces ('?' :: name.toList) = [.var '?' name.toList] :=
  Whole.of_append _ _ fun _ apart => pieces_var_append (List.all_eq_true.1 scannable) apart

/-! ### Terms -/

/-- The `word` is whole, and nothing in it is replaced. -/
def Inert (word : List Char) : Prop :=
  Whole word ∧ ∀ b : Binding, (pieces word).flatMap (Piece.inBody b) = word

theorem Inert.of_plain (plain : cs.all isPlain) : Inert cs := by
  refine ⟨.of_plain plain, fun b => ?_⟩
  rw [pieces_of_plain plain, List.flatMap_map]
  exact List.flatMap_singleton' cs

/-- If a class `p` has none of the others, its characters are plain. -/
theorem isPlain_of_class {p : Char → Bool} (ok : p c)
    (others : ['"', '\'', '<', '?', '$'].all (!p ·)) : isPlain c := by
  have other (d : Char) (listed : d ∈ ['"', '\'', '<', '?', '$']) : (c != d) = true :=
    bne_iff_ne.2 (ne_of_class ok (by simpa using List.all_eq_true.1 others d listed))
  simp only [isPlain, Bool.and_eq_true]
  exact ⟨⟨⟨⟨other _ (by decide), other _ (by decide)⟩, other _ (by decide)⟩, other _ (by decide)⟩,
    other _ (by decide)⟩

theorem isPlain_of_isNameChar (ok : isNameChar c) : isPlain c :=
  isPlain_of_class ok (by decide)

theorem isNameChar_of_isTagChar (ok : isTagChar c) : isNameChar c := by
  simp only [isTagChar, isNameChar, Bool.or_eq_true] at ok ⊢
  exact ok.elim (fun letter => .inl (.inl letter)) .inr

theorem inert_iri {value : String} (wf : isIriText value) (plain : isPlainIri value) :
    Inert ('<' :: (value.toList ++ ['>'])) := by
  obtain ⟨inside, solid⟩ := of_isIriText wf
  have head : value.toList.head? ≠ some '=' := by simpa [isPlainIri] using plain
  obtain ⟨whole, alone⟩ := Whole.of_append ('<' :: (value.toList ++ ['>']))
    [.verbatim ('<' :: (value.toList ++ ['>']))] fun rest _ => by
      rw [List.cons_append, List.append_assoc]
      exact pieces_iri_append inside solid head
  refine ⟨whole, fun b => ?_⟩
  rw [alone]
  simp [Piece.inBody]

theorem inert_literal {value : String} (inert : Inert suffix) (head : suffix.head? ≠ some '"') :
    Inert ('"' :: (value.toList.flatMap Term.escaped ++ '"' :: suffix)) := by
  obtain ⟨whole, same⟩ := inert
  -- The quoted text is one piece, and the suffix is cut as if it stood alone.
  obtain ⟨all, alone⟩ := Whole.of_append
    ('"' :: (value.toList.flatMap Term.escaped ++ '"' :: suffix))
    (.verbatim ('"' :: (value.toList.flatMap Term.escaped ++ ['"'])) :: pieces suffix)
    fun rest apart => by
      have quoted := pieces_quoted_append (.inl rfl) (quoted_escaped value.toList)
        fun _ => head?_append_apart head apart
      rw [List.append_assoc, List.singleton_append] at quoted
      rw [List.cons_append, List.append_assoc, List.cons_append, quoted, whole rest apart,
        List.cons_append]
  refine ⟨all, fun b => ?_⟩
  rw [alone, List.flatMap_cons, same, Piece.inBody]
  simp

theorem Inert.cons (plain : isPlain c) (inert : Inert cs) : Inert (c :: cs) := by
  obtain ⟨whole, same⟩ := inert
  refine ⟨fun rest apart => ?_, fun b => ?_⟩
  · rw [List.cons_append, pieces_plain plain, pieces_plain plain, whole rest apart,
      List.cons_append]
  · rw [pieces_plain plain, List.flatMap_cons, same, Piece.inBody]
    rfl

/-- Nothing in the term `t` is replaced. -/
theorem inert_term (wf : t.wellFormed) (scannable : t.scannable) : Inert t.sparqlChars := by
  match t, wf, scannable with
  | .iri value, wf, scannable => exact inert_iri wf scannable
  | .blank label, wf, _ =>
    refine .cons (by decide) (.cons (by decide) (.of_plain (List.all_eq_true.2 fun c listed => ?_)))
    exact isPlain_of_isNameChar ((of_isName wf).2 c listed)
  | .literal value none none, _, _ =>
    exact inert_literal (.of_plain rfl) (by simp)
  | .literal value none (some tag), wf, _ =>
    obtain ⟨-, all⟩ := of_isTag wf
    refine inert_literal (.cons (by decide) (.of_plain (List.all_eq_true.2 fun c listed => ?_)))
      (by simp)
    exact isPlain_of_isNameChar (isNameChar_of_isTagChar (all c listed))
  | .literal value (some name) none, wf, scannable =>
    exact inert_literal (.cons (by decide) (.cons (by decide) (inert_iri wf scannable))) (by simp)

end Sparql

end GraphBroker

import GraphBroker.Proofs.Sparql.Spelling

/-!
# Texts as sequences of lexemes

The lexer reads whatever is spelled as the grammar allows. So a text that can be read is cut into
segments, each of which spells a lexeme before the characters of those that follow it, and any
segments that do so are read as their tokens.

## Main definitions

* `Sparql.Segment`, `Sparql.segmentsOf`: a lexeme with its characters, and the segments of a text.
* `Sparql.Cut`: segments that are spelled one after the other.

## Main statements

* `lexeme_of_spells`: what spells a lexeme is read as it.
* `cut_of_segmentsOf`, `Cut.tokensOf`: a text is cut into segments, and its tokens are theirs.
-/

namespace GraphBroker.Sparql

open Text

variable {c quote mark : Char} {cs us rest digits decimals name suffix body value : List Char}
  {l : Lexeme} {t : Token} {p : Char → Bool}

/-! ### What is spelled is read -/

theorem named_stops {make : String → Token} {missing : SyntaxError} (inhabited : name ≠ [])
    (all : ∀ c ∈ name, p c) (ends : Stops p rest) :
    named p make missing (name ++ rest) = one (make (String.ofList name)) rest := by
  have nonempty : name.isEmpty = false := by simpa using inhabited
  simp only [named, run, takeWhile_stops all ends, dropWhile_stops all ends, nonempty,
    Bool.false_eq_true, if_false]

theorem bracketedIri_append {value : String} (ok : isIriText value) :
    bracketedIri (value.toList ++ '>' :: rest) = one (.iri value) rest := by
  obtain ⟨inside, solid⟩ := of_isIriText ok
  obtain ⟨before, after⟩ := takeWhile_bracket inside rest
  have unbroken : value.toList.any isBlank = false := by simpa using solid
  rw [bracketedIri, before, after]
  simp only [unbroken, Bool.false_eq_true, if_false, String.ofList_toList]

theorem quote_ne_backslash (quotes : quote = '"' ∨ quote = '\'') : quote ≠ '\\' := by
  rcases quotes with rfl | rfl <;> decide

/-- A short text `us` does not begin like a long one. -/
theorem not_two_quotes (quotes : quote = '"' ∨ quote = '\'')
    (inside : Quoted quote false us value) (short : us = [quote] → rest.head? ≠ some quote)
    (tail : List Char) : us ++ rest ≠ quote :: quote :: tail := by
  intro same
  -- A short text that starts with its closing quote ends there.
  cases inside with
  | close =>
    obtain rfl : rest = _ :: tail := (List.cons.inj same).2
    exact short rfl rfl
  | escape _ => exact quote_ne_backslash quotes (List.cons.inj same).1.symm
  | char _ closes _ _ => exact closes (List.cons.inj same).1

theorem quotedString_short (quotes : quote = '"' ∨ quote = '\'')
    (inside : Quoted quote false us value) (short : us = [quote] → rest.head? ≠ some quote) :
    quotedString quote (us ++ rest) = .ok (value, rest) := by
  rw [← stringBody_of_quoted (quote_ne_backslash quotes) inside]
  unfold quotedString
  split
  · rename_i d e tail same
    refine if_neg fun opens => not_two_quotes quotes inside short tail ?_
    rw [same, opens.1, opens.2]
  · rfl

theorem quotedString_long (quotes : quote = '"' ∨ quote = '\'')
    (inside : Quoted quote true us value) :
    quotedString quote (quote :: quote :: (us ++ rest)) = .ok (value, rest) := by
  rw [← stringBody_of_quoted (quote_ne_backslash quotes) inside, quotedString]
  exact if_pos ⟨rfl, rfl⟩

theorem lexeme_quote (quotes : quote = '"' ∨ quote = '\'')
    (read : quotedString quote cs = .ok (value, rest)) :
    lexeme quote cs = .ok (.token (.string (String.ofList value)), rest) := by
  have found : lexeme quote cs =
      (quotedString quote cs).map fun r => (.token (.string (String.ofList r.1)), r.2) := by
    rcases quotes with rfl | rfl <;> rfl
  rw [found, read]
  rfl

theorem startsWithDigit_append (all : ∀ d ∈ digits, d.isDigit) (inhabited : digits ≠ []) :
    startsWithDigit (digits ++ rest) := by
  obtain ⟨d, tail, rfl⟩ := List.exists_cons_of_ne_nil inhabited
  exact all d List.mem_cons_self

theorem lexeme_number (starts : StartsNumber c digits) (all : ∀ d ∈ digits, d.isDigit) :
    lexeme c (digits ++ rest) =
      one (number c (digits ++ rest)).1 (number c (digits ++ rest)).2 := by
  rcases starts with digit | ⟨marked, inhabited⟩
  · exact lexeme_digit digit
  · have follows : startsWithDigit (digits ++ rest) := startsWithDigit_append all inhabited
    rcases marked with rfl | rfl | rfl <;> simp [lexeme, follows, isBlank]

theorem number_whole (all : ∀ d ∈ digits, d.isDigit) (ends : Stops Char.isDigit rest)
    (noPoint : ∀ tail, rest = '.' :: tail → startsWithDigit tail = false) :
    number c (digits ++ rest) = (wholeNumber c digits, rest) := by
  rw [number, takeWhile_stops all ends, dropWhile_stops all ends]
  split
  · rename_i tail
    simp only [noPoint tail rfl, Bool.false_eq_true, if_false]
    rfl
  · rfl

theorem number_fraction (all : ∀ d ∈ digits, d.isDigit) (inhabited : decimals ≠ [])
    (allDecimals : ∀ d ∈ decimals, d.isDigit) (ends : Stops Char.isDigit rest) :
    number c (digits ++ '.' :: (decimals ++ rest)) =
      (.decimal (String.ofList (c :: (digits ++ '.' :: decimals))), rest) := by
  have point : Stops Char.isDigit ('.' :: (decimals ++ rest)) := by
    rintro _ ⟨⟩
    decide
  have follows : startsWithDigit (decimals ++ rest) := startsWithDigit_append allDecimals inhabited
  rw [number, takeWhile_stops all point, dropWhile_stops all point]
  simp only [follows, if_true, takeWhile_stops allDecimals ends, dropWhile_stops allDecimals ends,
    List.cons_append]

theorem wordOrName_eq (all : ∀ d ∈ c :: name, isNameChar d) (ends : Stops isNameChar rest)
    (noColon : rest.head? ≠ some ':') :
    wordOrName c (name ++ rest) = one (.word (String.ofList (c :: name))) rest := by
  rw [wordOrName, run, ← List.cons_append, takeWhile_stops all ends, dropWhile_stops all ends]
  cases rest with
  | nil => rfl
  | cons d tail => exact if_neg (by simpa using noColon)

theorem wordOrName_colon (all : ∀ d ∈ c :: name, isNameChar d) :
    wordOrName c (name ++ ':' :: cs) =
      one (.prefixedName (String.ofList (c :: name)) (localName cs).1) (localName cs).2 := by
  have colon : Stops isNameChar (':' :: cs) := by
    rintro _ ⟨⟩
    decide
  rw [wordOrName, run, ← List.cons_append, takeWhile_stops all colon, dropWhile_stops all colon]
  exact if_pos rfl

theorem of_isLabel {label : List Char} (ok : isLabel (c :: label)) :
    isAlphabetic c ∧ ∀ d ∈ c :: label, isNameChar d := by
  simpa [isLabel] using ok

/-- What spells a lexeme `l` is read as it. -/
theorem lexeme_of_spells {text : List Char} (spells : Spells text l rest) :
    ∃ c us, text = c :: us ∧ lexeme c (us ++ rest) = .ok (l, rest) := by
  -- The first character takes the lexer to the branch that reads the lexeme.
  cases spells with
  | blank blank => exact ⟨_, _, rfl, by simp [lexeme, blank]⟩
  | @comment body _ inside ends =>
    have stops : Stops (· != '\n') rest := fun c first => by simpa using ends c first
    have read : lexeme '#' (body ++ rest) = .ok (.gap, (body ++ rest).dropWhile (· != '\n')) := rfl
    rw [dropWhile_stops (p := (· != '\n')) (fun c listed => by simpa using inside c listed)
      stops] at read
    exact ⟨_, _, rfl, read⟩
  | @sign c _ _ sign =>
    refine ⟨c, [], rfl, ?_⟩
    unfold sign? at sign
    split at sign <;> cases sign <;> rfl
  | dot ends => exact ⟨_, _, rfl, by simp [lexeme, ends, isBlank, one]⟩
  | @iri value _ ok =>
    have read : lexeme '<' (value.toList ++ '>' :: rest) =
        bracketedIri (value.toList ++ '>' :: rest) := rfl
    refine ⟨_, _, rfl, ?_⟩
    rw [List.append_assoc, List.singleton_append, read, bracketedIri_append ok, one]
  | @var mark name _ marked ok ends =>
    obtain ⟨inhabited, all⟩ := of_isName ok
    have read : lexeme mark (name.toList ++ rest) =
        named isNameChar .var .emptyVariable (name.toList ++ rest) := by
      rcases marked with rfl | rfl <;> rfl
    refine ⟨_, _, rfl, ?_⟩
    rw [read, named_stops inhabited all ends, String.ofList_toList, one]
  | string quotes inside short =>
    exact ⟨_, _, rfl, lexeme_quote quotes (quotedString_short quotes inside short)⟩
  | longString quotes inside =>
    exact ⟨_, _, rfl, lexeme_quote quotes (quotedString_long quotes inside)⟩
  | @langTag tag _ ok ends =>
    obtain ⟨inhabited, all⟩ := of_isTag ok
    have read : lexeme '@' (tag.toList ++ rest) =
        named isTagChar .langTag .emptyLanguageTag (tag.toList ++ rest) := rfl
    refine ⟨_, _, rfl, ?_⟩
    rw [read, named_stops inhabited all ends, String.ofList_toList, one]
  | datatypeMarker => exact ⟨_, _, rfl, rfl⟩
  | @blankNode label _ ok ends =>
    obtain ⟨inhabited, all⟩ := of_isName ok
    have read : lexeme '_' (':' :: label.toList ++ rest) =
        named isNameChar .blankNode .emptyBlankNode (label.toList ++ rest) := rfl
    refine ⟨_, _, rfl, ?_⟩
    rw [read, named_stops inhabited all ends, String.ofList_toList, one]
  | integer starts whole all ends noPoint =>
    refine ⟨_, _, rfl, ?_⟩
    rw [lexeme_number starts all, number_whole all ends noPoint, one, wholeNumber, if_neg whole]
  | decimal inhabited all ends noPoint =>
    refine ⟨_, _, rfl, ?_⟩
    rw [lexeme_number (.inr ⟨by simp, inhabited⟩) all, number_whole all ends noPoint, one,
      wholeNumber, if_pos rfl]
  | fraction starts all inhabited allDecimals ends =>
    refine ⟨_, _, rfl, ?_⟩
    rw [List.append_assoc, List.cons_append, lexeme_number starts all,
      number_fraction all inhabited allDecimals ends, one]
  | @word word _ inhabited ok ends noColon =>
    obtain ⟨c, name, rfl⟩ := List.exists_cons_of_ne_nil inhabited
    obtain ⟨alphabetic, all⟩ := of_isLabel ok
    refine ⟨c, name, rfl, ?_⟩
    rw [lexeme_alphabetic alphabetic, wordOrName_eq all ends noColon, one]
  | @prefixedName label suffix _ ok all noDot ends =>
    have after : localName (suffix ++ rest) = (String.ofList suffix, rest) :=
      localName_eq_iff.2 ⟨rfl, all, noDot, ends⟩
    cases label with
    | nil =>
      have read : lexeme ':' (suffix ++ rest) = one (.prefixedName (String.ofList [])
          (localName (suffix ++ rest)).1) (localName (suffix ++ rest)).2 := rfl
      rw [after] at read
      exact ⟨':', suffix, rfl, read⟩
    | cons c name =>
      obtain ⟨alphabetic, allLabel⟩ := of_isLabel ok
      refine ⟨c, name ++ ':' :: suffix, rfl, ?_⟩
      rw [List.append_assoc, List.cons_append, lexeme_alphabetic alphabetic,
        wordOrName_colon allLabel, after, one]

/-! ### Texts as sequences of lexemes -/

/-- A lexeme with the characters that spell it. -/
structure Segment where
  /-- The characters. -/
  chars : List Char
  /-- What they spell. -/
  lexeme : Lexeme
deriving DecidableEq, Repr

/-- The token of a segment `s` that is no gap. -/
def Segment.token? (s : Segment) : Option Token :=
  match s.lexeme with
  | .gap => none
  | .token t => some t

/-- The segments of a text. -/
def segmentsOf : List Char → Except SyntaxError (List Segment)
  | [] => .ok []
  | c :: cs =>
    match _h : lexeme c cs with
    | .error e => .error e
    | .ok (l, rest) =>
      (segmentsOf rest).map (⟨(c :: cs).take (cs.length + 1 - rest.length), l⟩ :: ·)
termination_by cs => cs.length
decreasing_by exact Nat.lt_succ_of_le (lexeme_rest_length_le _h)

/-- The characters of all `segments`. -/
def charsOf (segments : List Segment) : List Char :=
  segments.flatMap Segment.chars

/-- The tokens of all `segments`. -/
def tokensIn (segments : List Segment) : List Token :=
  segments.filterMap Segment.token?

/-- Each segment is spelled by its characters before those of the others. -/
inductive Cut : List Segment → Prop where
  /-- Nothing is left. -/
  | nil : Cut []
  /-- A segment `s` before `others`. -/
  | cons {s : Segment} {others : List Segment} (spells : Spells s.chars s.lexeme (charsOf others))
      (cut : Cut others) : Cut (s :: others)

variable {s : Segment} {segments others : List Segment} {ts : List Token}

theorem charsOf_cons : charsOf (s :: others) = s.chars ++ charsOf others :=
  List.flatMap_cons

theorem charsOf_append : charsOf (segments ++ others) = charsOf segments ++ charsOf others :=
  List.flatMap_append

theorem tokensIn_append : tokensIn (segments ++ others) = tokensIn segments ++ tokensIn others :=
  List.filterMap_append

theorem mem_tokensIn : t ∈ tokensIn segments ↔ ∃ s ∈ segments, s.lexeme = .token t := by
  have token (s : Segment) : s.token? = some t ↔ s.lexeme = .token t := by
    obtain ⟨us, l⟩ := s
    cases l <;> simp [Segment.token?]
  simp [tokensIn, token]

theorem Cut.spells_of_mem (cut : Cut segments) (listed : s ∈ segments) :
    ∃ rest, Spells s.chars s.lexeme rest := by
  induction cut with
  | nil => cases listed
  | cons spells _ ih =>
    rcases List.mem_cons.1 listed with rfl | listed
    · exact ⟨_, spells⟩
    · exact ih listed

/-- The `segments` of the text `cs` are spelled one after the other. -/
theorem cut_of_segmentsOf (read : segmentsOf cs = .ok segments) :
    Cut segments ∧ charsOf segments = cs := by
  fun_induction segmentsOf cs generalizing segments with
  | case1 =>
    cases read
    exact ⟨.nil, rfl⟩
  | case2 => cases read
  | case3 c cs l rest found ih =>
    obtain ⟨others, readOthers, rfl⟩ := map_eq_ok_iff.1 read
    obtain ⟨cut, rfl⟩ := ih readOthers
    obtain ⟨us, rfl, spells⟩ := spells_of_lexeme found
    -- The characters of a segment are those that the rest has lost.
    have taken : (c :: (us ++ charsOf others)).take
        ((us ++ charsOf others).length + 1 - (charsOf others).length) = c :: us := by
      rw [List.length_append, ← List.cons_append]
      exact List.take_left' (by rw [List.length_cons]; omega)
    rw [taken]
    exact ⟨.cons spells cut, charsOf_cons⟩

theorem tokensOf_nil : tokensOf [] = .ok [] := by
  rw [tokensOf.eq_def]

theorem tokensOf_cons : tokensOf (c :: cs) =
    match lexeme c cs with
    | .error e => .error e
    | .ok (.gap, rest) => tokensOf rest
    | .ok (.token t, rest) => (tokensOf rest).map (t :: ·) := by
  rw [tokensOf.eq_def]
  dsimp only
  split <;> rename_i read <;> rw [read]

theorem tokensOf_of_lexeme (read : lexeme c cs = .ok (.token t, rest)) :
    tokensOf (c :: cs) = (tokensOf rest).map (t :: ·) := by
  rw [tokensOf_cons, read]

theorem tokensOf_blank : tokensOf (' ' :: cs) = tokensOf cs := by
  have gap : lexeme ' ' cs = .ok (.gap, cs) := rfl
  rw [tokensOf_cons, gap]

/-- The tokens of `segments` are those of their text. -/
theorem Cut.tokensOf (cut : Cut segments) :
    tokensOf (charsOf segments) = .ok (tokensIn segments) := by
  induction cut with
  | nil => exact tokensOf_nil
  | @cons s others spells cut ih =>
    obtain ⟨c, us, chars, read⟩ := lexeme_of_spells spells
    rw [charsOf_cons, chars, List.cons_append, tokensOf_cons, read]
    obtain ⟨chars, l⟩ := s
    cases l with
    | gap => exact ih
    | token t =>
      simp only [ih]
      rfl

end GraphBroker.Sparql

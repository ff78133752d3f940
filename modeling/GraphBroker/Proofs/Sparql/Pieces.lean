import GraphBroker.Proofs.Sparql.Segments
import GraphBroker.Proofs.Sparql.Substitution

/-!
# How the segments of a text are cut into pieces

Variables are replaced by a scanner that knows less of the language than the lexer: it knows no
comments, takes an angle bracket with an equals sign for a comparison, and ends the name of a
variable at a hyphen. A segment is clear if this makes no difference. The pieces of a text
with clear segments are those of its segments, and each segment is replaced as a whole.

## Main definitions

* `Segment.clear`, `Segment.flat`: segments that the scanner takes for what they are, anywhere and
  before the first brace.
* `Segment.pieces`: the pieces of a segment.
* `Segment.force`: the segment with a forced variable replaced.

## Main statements

* `flatMap_source_pieces`: a text consists of its pieces.
* `pieces_charsOf`: the pieces of a text are those of its segments.
* `flatMap_inBody_pieces`, `map_headItem_of_drops`, `headItem_of_keeps`: what becomes of a
  segment.
-/

namespace GraphBroker.Sparql

open Text

variable {c quote mark : Char} {cs us rest name value : List Char} {l : Lexeme} {t : Token}
  {long : Bool} {p : Char → Bool} {b : Binding} {s : Segment} {segments : List Segment}

/-! ### A text consists of its pieces -/

/-- The characters that a piece is made of. -/
def Piece.source : Piece → List Char
  | verbatim cs => cs
  | var mark name => mark :: name
  | char c => [c]

theorem closing?_eq_some_append {tail : List Char} (closes : closing? quote long rest = some tail) :
    rest = rest.take (rest.length - tail.length) ++ tail := by
  obtain ⟨marks, rfl, -⟩ := closing?_append closes
  simp

theorem quotedPart_append (quote : Char) (long : Bool) (cs : List Char) :
    (quotedPart quote long cs).1 ++ (quotedPart quote long cs).2 = cs := by
  fun_induction quotedPart quote long cs with
  | case1 | case2 => rfl
  | case3 e rest ih => simpa using ih
  | case4 rest tail closes => exact congrArg _ (closing?_eq_some_append closes).symm
  | case5 rest _ _ _ ih => simpa using ih
  | case6 c rest _ _ _ ih => simpa using ih

theorem quotedText_append (quote : Char) (cs : List Char) :
    (quotedText quote cs).1 ++ (quotedText quote cs).2 = cs := by
  unfold quotedText
  split
  · rename_i c d rest
    split
    · have parts := quotedPart_append quote true rest
      simpa using parts
    · exact quotedPart_append quote false _
  · exact quotedPart_append quote false _

/-- An IRI is closed by a bracket. -/
theorem dropWhile_of_opensIri (opens : opensIri cs) :
    ∃ rest, cs.dropWhile (· != '>') = '>' :: rest := by
  simp only [opensIri, Bool.and_eq_true, beq_iff_eq] at opens
  obtain ⟨-, closed⟩ := opens
  cases after : cs.dropWhile (· != '>') with
  | nil =>
    have none : ∀ c ∈ cs, c ≠ '>' := by simpa using List.dropWhile_eq_nil_iff.1 after
    have listed : '>' ∈ cs := (List.dropWhile_sublist _).subset (List.mem_of_mem_head? closed)
    exact absurd rfl (none '>' listed)
  | cons d rest =>
    have stops := stops_dropWhile (· != '>') cs d
    rw [after] at stops
    obtain rfl : d = '>' := by simpa using stops rfl
    exact ⟨rest, rfl⟩

/-- The text `cs` consists of its pieces. -/
theorem flatMap_source_pieces (cs : List Char) : (pieces cs).flatMap Piece.source = cs := by
  fun_induction pieces cs with
  | case1 => rfl
  | case2 c cs _ _ ih =>
    rw [List.flatMap_cons, ih, Piece.source, List.cons_append, quotedText_append]
  | case3 c cs _ opens _ ih =>
    obtain ⟨rest, after⟩ := dropWhile_of_opensIri opens.2
    have parts := List.takeWhile_append_dropWhile (p := (· != '>')) (l := cs)
    rw [after] at ih parts
    rw [List.flatMap_cons, after, ih, Piece.source, List.cons_append, List.append_assoc]
    exact congrArg _ parts
  | case4 c cs _ _ _ _ ih =>
    rw [List.flatMap_cons, ih, Piece.source, List.cons_append, List.takeWhile_append_dropWhile]
  | case5 c cs _ _ _ ih =>
    rw [List.flatMap_cons, ih]
    rfl

/-! ### Comments -/

/-- Whether the character opens a text in quotes. -/
def isQuote (c : Char) : Bool :=
  c == '"' || c == '\''

/-- The input `rest` is at its end, or goes on with the end of a line. -/
def EndsLine (rest : List Char) : Prop :=
  ∀ c ∈ rest.head?, c = '\n'

theorem EndsLine.stops (stops : p '\n' = false) (ends : EndsLine rest) : Stops p rest := by
  intro c first
  rw [ends c first]
  exact stops

/-- An angle bracket in the line `cs` opens an IRI only if the bracket that closes it is there,
too. -/
theorem opensIri_append (ends : EndsLine rest) : opensIri (cs ++ rest) = opensIri cs := by
  -- The search for the bracket stops at blanks, and so at the end of the line.
  have line : (rest.dropWhile fun c => c != '>' && !isBlank c) = rest := by
    cases rest with
    | nil => rfl
    | cons c rest =>
      obtain rfl : c = '\n' := ends c rfl
      exact List.dropWhile_cons_of_neg (by decide)
  have closes : (rest.head? == some '>') = false := by
    rw [beq_eq_false_iff_ne]
    intro first
    exact absurd (ends '>' first) (by decide)
  have equals : rest.head? != some '=' := by
    rw [bne_iff_ne]
    intro first
    exact absurd (ends '=' first) (by decide)
  have found : ((cs ++ rest).dropWhile fun c => c != '>' && !isBlank c).head? == some '>' ↔
      (cs.dropWhile fun c => c != '>' && !isBlank c).head? == some '>' := by
    rw [List.dropWhile_append]
    cases after : cs.dropWhile fun c => c != '>' && !isBlank c with
    | nil => simp [line, closes]
    | cons d tail => simp
  unfold opensIri
  cases cs with
  | nil => simp [line, closes]
  | cons c cs =>
    rw [Bool.eq_iff_iff, Bool.and_eq_true, Bool.and_eq_true, found]
    rfl

theorem takeWhile_append_stops (ends : Stops p rest) :
    (cs ++ rest).takeWhile p = cs.takeWhile p := by
  induction cs with
  | nil => exact takeWhile_stops nofun ends
  | cons c cs ih => cases ok : p c <;> simp [ok, ih]

theorem dropWhile_append_stops (ends : Stops p rest) :
    (cs ++ rest).dropWhile p = cs.dropWhile p ++ rest := by
  induction cs with
  | nil => exact dropWhile_stops nofun ends
  | cons c cs ih => cases ok : p c <;> simp [ok, ih]

theorem not_quote (quotes : isQuote c = false) : ¬(c = '"' ∨ c = '\'') := by
  simpa [isQuote] using quotes

theorem pieces_iri (opens : opensIri cs) : pieces ('<' :: cs) =
    .verbatim ('<' :: (cs.takeWhile (· != '>') ++ ['>'])) ::
      pieces ((cs.dropWhile (· != '>')).drop 1) := by
  rw [pieces, if_neg (by decide), if_pos ⟨rfl, opens⟩]

theorem pieces_var (marked : mark = '?' ∨ mark = '$') : pieces (mark :: cs) =
    .var mark (cs.takeWhile isVarChar) :: pieces (cs.dropWhile isVarChar) := by
  rcases marked with rfl | rfl <;> rw [pieces] <;> simp

theorem pieces_char (quotes : isQuote c = false) (opens : ¬(c = '<' ∧ opensIri cs))
    (marked : ¬(c = '?' ∨ c = '$')) : pieces (c :: cs) = .char c :: pieces cs := by
  rw [pieces, if_neg (not_quote quotes), if_neg opens, if_neg marked]

/-- A comment `cs` without quotes is cut as if its line were the last. -/
theorem pieces_line_append (quotes : ∀ c ∈ cs, isQuote c = false) (ends : EndsLine rest) :
    pieces (cs ++ rest) = pieces cs ++ pieces rest := by
  fun_induction pieces cs with
  | case1 => rfl
  | case2 c cs quote => exact absurd quote (not_quote (quotes c List.mem_cons_self))
  | case3 c cs quote opens _ ih =>
    obtain ⟨rfl, opens⟩ := opens
    obtain ⟨tail, after⟩ := dropWhile_of_opensIri opens
    have parts := List.takeWhile_append_dropWhile (p := (· != '>')) (l := cs)
    -- The bracket that closes the IRI is in the line, and so is what follows it.
    have inside : ∀ d ∈ cs.takeWhile (· != '>'), d ≠ '>' := fun d among => by
      simpa using List.mem_takeWhile_imp among
    rw [after] at ih parts
    have text : cs ++ rest = cs.takeWhile (· != '>') ++ '>' :: (tail ++ rest) := by
      rw [← List.cons_append, ← List.append_assoc, parts]
    have opensLonger : opensIri (cs ++ rest) := by rwa [opensIri_append ends]
    have later : ∀ d ∈ tail, isQuote d = false := fun d among =>
      quotes d (by rw [← parts]; simp [among])
    obtain ⟨before, behind⟩ := takeWhile_bracket inside (tail ++ rest)
    rw [List.cons_append, pieces_iri opensLonger, text, before, behind, after, List.cons_append]
    exact congrArg _ (ih later)
  | case4 c cs _ _ marked _ ih =>
    have later : ∀ d ∈ cs.dropWhile isVarChar, isQuote d = false := fun d among =>
      quotes d (List.mem_cons_of_mem _ ((List.dropWhile_sublist _).subset among))
    -- A name does not go on beyond the end of the line.
    have stops : Stops isVarChar rest := ends.stops (by decide)
    rw [List.cons_append, pieces_var marked, takeWhile_append_stops stops,
      dropWhile_append_stops stops, ih later, List.cons_append]
  | case5 c cs quote opens marked ih =>
    have shorter : ¬(c = '<' ∧ opensIri (cs ++ rest)) := by rwa [opensIri_append ends]
    rw [List.cons_append, pieces_char (quotes c List.mem_cons_self) shorter marked,
      List.cons_append, ih fun d among => quotes d (List.mem_cons_of_mem _ among)]

/-! ### Segments -/

/-- The scanner takes the segment `s` for what it is: a comment has no quotes, an IRI does not look
like a comparison, and the name of a variable has no hyphen, unless neither it nor what comes before
the hyphen is forced by `b`. -/
def Segment.clear (b : Binding) (s : Segment) : Bool :=
  match s.lexeme with
  | .gap => s.chars.all (!isQuote ·)
  | .token (.iri value) => isPlainIri value
  | .token (.var name) =>
    name.toList.all isVarChar ||
      (isFree b name && (forced? b (name.toList.takeWhile isVarChar)).isNone)
  | .token _ => true

/-- The characters that mean something to the scanner before the first brace. -/
def isHeaderMark (c : Char) : Bool :=
  ['?', '$', '*', '(', ')', '\x7b'].contains c

/-- Before the first brace a comment `s` must have no `isHeaderMark`. -/
def Segment.flat (s : Segment) : Bool :=
  match s.lexeme with
  | .gap => s.chars.all (!isHeaderMark ·)
  | .token _ => true

/-- The pieces of the segment `s`, if it is clear. -/
def Segment.pieces (s : Segment) : List Piece :=
  match s.lexeme, s.chars with
  | .gap, cs => Sparql.pieces cs
  | .token (.iri _), cs | .token (.string _), cs => [.verbatim cs]
  | .token (.var _), mark :: name =>
    .var mark (name.takeWhile isVarChar) :: (name.dropWhile isVarChar).map .char
  | .token _, cs => cs.map .char

/-- Characters that are left alone wherever the scanner meets them. -/
def isInert (c : Char) : Bool :=
  isPlain c && !isHeaderMark c

theorem isInert_of_class (ok : p c)
    (others : ['"', '\'', '<', '?', '$', '*', '(', ')', '\x7b'].all (!p ·)) : isInert c := by
  have plain : isPlain c := isPlain_of_class ok (by simp_all)
  have marks : isHeaderMark c = false := by
    rw [Bool.eq_false_iff]
    intro mark
    have listed : c ∈ ['"', '\'', '<', '?', '$', '*', '(', ')', '\x7b'] := by
      simp only [isHeaderMark, List.contains_iff_mem, List.mem_cons, List.not_mem_nil,
        or_false] at mark ⊢
      simp [mark]
    exact ne_of_class ok (by simpa using List.all_eq_true.1 others c listed) rfl
  simp [isInert, plain, marks]

theorem isInert_of_isLocalChar (ok : isLocalChar c) : isInert c :=
  isInert_of_class ok (by decide)

theorem isInert_of_isNameChar (ok : isNameChar c) : isInert c :=
  isInert_of_class ok (by decide)

theorem isInert_of_isDigit (ok : c.isDigit) : isInert c :=
  isInert_of_class ok (by decide)

theorem isInert_of_isBlank (ok : isBlank c) : isInert c :=
  isInert_of_class ok (by decide)

theorem isPlain_of_isInert (ok : isInert c) : isPlain c := by
  rw [isInert, Bool.and_eq_true] at ok
  exact ok.1

/-- Whether the token is none of those that the scanner looks for. -/
def Token.isBare : Token → Bool
  | iri _ | string _ | var _ => false
  | _ => true

/-- The characters `us` of a number, a word, a name or a tag are left alone. -/
theorem isInert_of_spells (spells : Spells us (.token t) rest) (bare : t.isBare)
    (notBrace : t ≠ .lbrace) (notStar : t ≠ .star) : ∀ c ∈ us, isInert c := by
  have starts {c : Char} {digits : List Char} (starts : StartsNumber c digits) : isInert c := by
    rcases starts with digit | ⟨rfl | rfl | rfl, -⟩
    · exact isInert_of_isDigit digit
    all_goals decide
  have label {word : List Char} (ok : isLabel word) : ∀ c ∈ word, isInert c := by
    rw [isLabel, Bool.and_eq_true, List.all_eq_true] at ok
    exact fun c inside => isInert_of_isNameChar (ok.2 c inside)
  cases spells with
  | sign sign =>
    -- Of the characters on their own, the scanner looks for two, which are left out.
    unfold sign? at sign
    split at sign <;> cases sign
    all_goals
      first
      | exact absurd rfl notBrace
      | exact absurd rfl notStar
      | exact List.forall_mem_singleton.2 (by decide)
  | dot _ => exact List.forall_mem_singleton.2 (by decide)
  | iri _ | var _ _ _ | string _ _ _ | longString _ _ => cases bare
  | langTag ok _ =>
    refine List.forall_mem_cons.2 ⟨by decide, fun c inside => ?_⟩
    exact isInert_of_isNameChar (isNameChar_of_isTagChar ((of_isTag ok).2 c inside))
  | datatypeMarker =>
    exact List.forall_mem_cons.2 ⟨by decide, List.forall_mem_singleton.2 (by decide)⟩
  | blankNode ok _ =>
    refine List.forall_mem_cons.2 ⟨by decide, List.forall_mem_cons.2 ⟨by decide, ?_⟩⟩
    exact fun c inside => isInert_of_isNameChar ((of_isName ok).2 c inside)
  | integer number _ all _ _ =>
    exact List.forall_mem_cons.2 ⟨starts number, fun c inside => isInert_of_isDigit (all c inside)⟩
  | decimal _ all _ _ =>
    exact List.forall_mem_cons.2 ⟨by decide, fun c inside => isInert_of_isDigit (all c inside)⟩
  | fraction number all _ allDecimals _ =>
    refine List.forall_mem_cons.2 ⟨starts number, List.forall_mem_append.2 ⟨?_, ?_⟩⟩
    · exact fun c inside => isInert_of_isDigit (all c inside)
    · exact List.forall_mem_cons.2
        ⟨by decide, fun c inside => isInert_of_isDigit (allDecimals c inside)⟩
  | word _ ok _ _ => exact label ok
  | prefixedName ok all _ _ =>
    refine List.forall_mem_append.2 ⟨label ok, List.forall_mem_cons.2 ⟨by decide, ?_⟩⟩
    exact fun c inside => isInert_of_isLocalChar (all c inside)

/-! ### What the scanner makes of a segment -/

/-- A brace or an asterisk `c` is spelled in one way. -/
theorem chars_of_sign (spells : Spells us (.token t) rest) (sign : sign? c = some t) :
    us = [c] := by
  unfold sign? at sign
  split at sign <;> cases sign <;> cases spells <;> rename_i other <;> unfold sign? at other <;>
    split at other <;> cases other <;> rfl

theorem isPlain_of_spells (spells : Spells us (.token t) rest) (bare : t.isBare) :
    us.all isPlain := by
  by_cases brace : t = .lbrace
  · subst brace
    obtain rfl := chars_of_sign spells (c := '\x7b') rfl
    decide
  by_cases isStar : t = .star
  · subst isStar
    obtain rfl := chars_of_sign spells (c := '*') rfl
    decide
  exact List.all_eq_true.2 fun c inside =>
    isPlain_of_isInert (isInert_of_spells spells bare brace isStar c inside)

theorem pieces_of_isBare (bare : t.isBare) :
    (Segment.mk us (.token t)).pieces = us.map .char := by
  cases t with
  | iri _ | string _ | var _ => cases bare
  | _ => rfl

theorem isVarChar_le (ok : isVarChar c) : isNameChar c := by
  simp only [isVarChar, isNameChar, Bool.or_eq_true] at ok ⊢
  exact .inl ok

theorem Stops.mono {q : Char → Bool} (weaker : ∀ c, p c → q c) (ends : Stops q rest) :
    Stops p rest := by
  intro c first
  rw [Bool.eq_false_iff]
  intro inside
  have other := ends c first
  rw [weaker c inside] at other
  cases other

theorem pieces_gap (spells : Spells us .gap rest) (quotes : ∀ c ∈ us, isQuote c = false) :
    Sparql.pieces (us ++ rest) = Sparql.pieces us ++ Sparql.pieces rest := by
  cases spells with
  | @blank c _ blank =>
    have plain : isPlain c := isPlain_of_isInert (isInert_of_isBlank blank)
    have alone : Sparql.pieces [c] = [.char c] := pieces_of_plain (by simpa using plain)
    rw [List.singleton_append, pieces_plain plain, alone, List.singleton_append]
  | comment _ ends => exact pieces_line_append quotes ends

theorem pieces_name {name : String} (marked : mark = '?' ∨ mark = '$') (ok : isName name)
    (ends : Stops isNameChar rest) : Sparql.pieces (mark :: name.toList ++ rest) =
      .var mark (name.toList.takeWhile isVarChar) ::
        (name.toList.dropWhile isVarChar).map .char ++ Sparql.pieces rest := by
  have stops : Stops isVarChar rest := ends.mono fun c => isVarChar_le
  have plain : (name.toList.dropWhile isVarChar).all isPlain := by
    refine List.all_eq_true.2 fun c inside => isPlain_of_isNameChar ?_
    exact (of_isName ok).2 c ((List.dropWhile_sublist _).subset inside)
  rw [List.cons_append, pieces_var marked, takeWhile_append_stops stops,
    dropWhile_append_stops stops, pieces_append_of_plain plain, List.cons_append]

theorem pieces_string {value : String} (spells : Spells us (.token (.string value)) rest) :
    Sparql.pieces (us ++ rest) = .verbatim us :: Sparql.pieces rest := by
  cases spells with
  | sign sign => cases isSign_of_sign? sign
  | string quotes inside short => exact pieces_quoted_append quotes inside short
  | longString quotes inside =>
    rw [List.cons_append, List.cons_append, List.cons_append, Sparql.pieces, if_pos quotes,
      quotedText_long quotes inside]

/-- A segment of `us` is cut into its own pieces, whatever follows. -/
theorem pieces_append (spells : Spells us l rest) (clear : (Segment.mk us l).clear b) :
    Sparql.pieces (us ++ rest) = (Segment.mk us l).pieces ++ Sparql.pieces rest := by
  cases l with
  | gap => exact pieces_gap spells (by simpa using List.all_eq_true.1 clear)
  | token t =>
    cases t with
    | iri value =>
      cases spells with
      | sign sign => cases isSign_of_sign? sign
      | iri ok =>
        obtain ⟨inside, solid⟩ := of_isIriText ok
        rw [List.cons_append, List.append_assoc]
        exact pieces_iri_append inside solid (by simpa [Segment.clear, isPlainIri] using clear)
    | string value => exact pieces_string spells
    | var name =>
      cases spells with
      | sign sign => cases isSign_of_sign? sign
      | var marked ok ends => exact pieces_name marked ok ends
    | _ =>
      rw [pieces_append_of_plain (isPlain_of_spells spells rfl), pieces_of_isBare rfl]

/-- The pieces of a text are those of its `segments`. -/
theorem pieces_charsOf (cut : Cut segments) (clear : ∀ s ∈ segments, s.clear b) :
    Sparql.pieces (charsOf segments) = segments.flatMap Segment.pieces := by
  induction cut with
  | nil => rw [charsOf, List.flatMap_nil, List.flatMap_nil, Sparql.pieces]
  | @cons s others spells _ ih =>
    obtain ⟨clearFirst, clearOthers⟩ := List.forall_mem_cons.1 clear
    rw [charsOf_cons, pieces_append spells clearFirst, ih clearOthers, List.flatMap_cons]

/-- The segment `s` consists of its pieces. -/
theorem flatMap_source (spells : Spells s.chars s.lexeme rest) (clear : s.clear b) :
    s.pieces.flatMap Piece.source = s.chars := by
  have parts := flatMap_source_pieces (s.chars ++ rest)
  rw [pieces_append spells clear, List.flatMap_append, flatMap_source_pieces] at parts
  exact List.append_cancel_right parts

/-! ### What becomes of a segment -/

/-- The segment `s` with a variable of `b` replaced, as after the first brace. Variables are
replaced in comments, too. -/
def Segment.force (b : Binding) (s : Segment) : Segment :=
  match s.lexeme with
  | .gap => ⟨replaced b s.chars, .gap⟩
  | .token (.var name) =>
    match b.get? name with
    | some t => ⟨t.sparqlChars, .token (.iri t.value)⟩
    | none => s
  | .token _ => s

theorem flatMap_inBody_char : (us.map Piece.char).flatMap (Piece.inBody b) = us := by
  rw [List.flatMap_map]
  exact List.flatMap_singleton' us

/-- After the first brace a segment of `us` is replaced as a whole. -/
theorem flatMap_inBody_pieces (spells : Spells us l rest) (clear : (Segment.mk us l).clear b) :
    (Segment.mk us l).pieces.flatMap (Piece.inBody b) = ((Segment.mk us l).force b).chars := by
  cases l with
  | gap => rfl
  | token t =>
    cases t with
    | iri value | string value => exact List.append_nil us
    | var name =>
      cases spells with
      | sign sign => cases isSign_of_sign? sign
      | @var mark _ _ marked ok ends =>
        have whole := List.takeWhile_append_dropWhile (p := isVarChar) (l := name.toList)
        simp only [Segment.clear, Bool.or_eq_true, Bool.and_eq_true, List.all_eq_true,
          Option.isNone_iff_eq_none, isFree] at clear
        change (Piece.var mark (name.toList.takeWhile isVarChar) ::
          (name.toList.dropWhile isVarChar).map .char).flatMap (Piece.inBody b) = _
        rw [List.flatMap_cons, flatMap_inBody_char, Piece.inBody]
        -- The scanner sees the whole name, or a part of it that is not forced either.
        rcases clear with plain | ⟨free, prefixFree⟩
        · rw [List.takeWhile_eq_self_iff.2 plain, List.dropWhile_eq_nil_iff.2 plain,
            forced?_toList ok, List.append_nil]
          unfold Segment.force
          dsimp only
          cases b.get? name <;> rfl
        · rw [prefixFree]
          simp only [Segment.force, free, List.cons_append, whole]
    | _ =>
      rw [pieces_of_isBare rfl, flatMap_inBody_char]
      rfl

/-! ### Before the first brace -/

/-- Whether the token is a variable that `b` forces. -/
def Token.drops (b : Binding) : Token → Bool
  | .var name => !isFree b name
  | _ => false

/-- Whether the token is a variable or an asterisk, so that something is asked for. -/
def Token.asks : Token → Bool
  | .var _ | .star => true
  | _ => false

/-- Whether the segment `s` is a forced variable, which is dropped before the first brace. -/
def Segment.drops (b : Binding) (s : Segment) : Bool :=
  match s.lexeme with
  | .gap => false
  | .token t => t.drops b

/-- Whether the segment `s` asks for something. -/
def Segment.asks (s : Segment) : Bool :=
  match s.lexeme with
  | .gap => false
  | .token t => t.asks

/-- Whether the piece means nothing before the first brace. -/
def Piece.isQuiet : Piece → Bool
  | verbatim _ => true
  | var _ _ => false
  | char c => !isHeaderMark c

theorem headItem_of_isQuiet {piece : Piece} (quiet : piece.isQuiet) :
    headItem b piece = .stands piece.source := by
  cases piece with
  | verbatim cs => rfl
  | var mark name => cases quiet
  | char c =>
    refine if_neg ?_
    rintro rfl
    exact absurd quiet (by decide)

theorem isBracket_of_isQuiet {piece : Piece} (quiet : piece.isQuiet) : piece.isBracket = false := by
  cases piece with
  | verbatim cs => rfl
  | var mark name => cases quiet
  | char c =>
    simp only [Piece.isBracket, Bool.or_eq_false_iff, beq_eq_false_iff_ne]
    refine ⟨⟨?_, ?_⟩, ?_⟩
    all_goals
      rintro rfl
      exact absurd quiet (by decide)

/-- The pieces of a comment `cs` without quotes and marks are IRIs and other characters. -/
theorem isQuiet_of_mem_pieces (quotes : ∀ c ∈ cs, isQuote c = false)
    (marks : ∀ c ∈ cs, isHeaderMark c = false) : ∀ piece ∈ Sparql.pieces cs, piece.isQuiet := by
  fun_induction Sparql.pieces cs with
  | case1 => exact nofun
  | case2 c cs quote => exact absurd quote (not_quote (quotes c List.mem_cons_self))
  | case3 c cs _ _ _ ih =>
    have within : ∀ d ∈ (cs.dropWhile (· != '>')).drop 1, d ∈ c :: cs := fun d inside =>
      List.mem_cons_of_mem _ ((List.dropWhile_sublist _).subset (List.mem_of_mem_drop inside))
    exact List.forall_mem_cons.2 ⟨rfl, ih (fun d inside => quotes d (within d inside))
      fun d inside => marks d (within d inside)⟩
  | case4 c cs _ _ marked =>
    have mark := marks c List.mem_cons_self
    rcases marked with rfl | rfl <;> exact absurd mark (by decide)
  | case5 c cs _ _ _ ih =>
    refine List.forall_mem_cons.2 ⟨?_, ih (fun d inside => quotes d (List.mem_cons_of_mem _ inside))
      fun d inside => marks d (List.mem_cons_of_mem _ inside)⟩
    simpa [Piece.isQuiet] using marks c List.mem_cons_self

theorem isQuiet_of_isInert (inert : ∀ c ∈ us, isInert c) :
    ∀ piece ∈ us.map Piece.char, piece.isQuiet := by
  intro piece listed
  obtain ⟨c, inside, rfl⟩ := List.mem_map.1 listed
  have ok := inert c inside
  rw [isInert, Bool.and_eq_true] at ok
  exact ok.2

/-- A segment of `us` that asks for nothing is quiet. -/
theorem isQuiet_of_not_asks (spells : Spells us l rest) (clear : (Segment.mk us l).clear b)
    (flat : (Segment.mk us l).flat) (silent : (Segment.mk us l).asks = false)
    (brace : l ≠ .token .lbrace) : ∀ piece ∈ (Segment.mk us l).pieces, piece.isQuiet := by
  cases l with
  | gap =>
    exact isQuiet_of_mem_pieces (by simpa using List.all_eq_true.1 clear)
      (by simpa using List.all_eq_true.1 flat)
  | token t =>
    cases t with
    | iri value | string value => exact List.forall_mem_singleton.2 rfl
    | var name | star => cases silent
    | lbrace => exact absurd rfl brace
    | _ =>
      rw [pieces_of_isBare rfl]
      exact isQuiet_of_isInert (isInert_of_spells spells rfl nofun nofun)

/-- The pieces of a variable `name` before the first brace. -/
theorem exists_pieces_var {name : String} (spells : Spells us (.token (.var name)) rest) :
    ∃ mark, us = mark :: name.toList ∧ isName name ∧
      (Segment.mk us (.token (.var name))).pieces = .var mark (name.toList.takeWhile isVarChar) ::
        (name.toList.dropWhile isVarChar).map .char ∧
      ∀ c ∈ name.toList.dropWhile isVarChar, isInert c := by
  cases spells with
  | sign sign => cases isSign_of_sign? sign
  | @var mark _ _ _ ok _ =>
    refine ⟨mark, rfl, ok, rfl, fun c inside => isInert_of_isNameChar ?_⟩
    exact (of_isName ok).2 c ((List.dropWhile_sublist _).subset inside)

/-- A forced variable is dropped. -/
theorem map_headItem_of_drops (spells : Spells us l rest) (clear : (Segment.mk us l).clear b)
    (drops : (Segment.mk us l).drops b) :
    (Segment.mk us l).pieces.map (headItem b) = [.dropped] := by
  match l, drops with
  | .token (.var name), drops =>
    obtain ⟨mark, -, ok, pieces, -⟩ := exists_pieces_var spells
    have forced : isFree b name = false := by simpa [Segment.drops, Token.drops] using drops
    have plain : ∀ c ∈ name.toList, isVarChar c := by
      simp only [Segment.clear, forced, Bool.false_and, Bool.or_false, List.all_eq_true] at clear
      exact clear
    rw [pieces, List.takeWhile_eq_self_iff.2 plain, List.dropWhile_eq_nil_iff.2 plain]
    simp only [List.map_nil, List.map_cons, headItem, forced?_toList ok]
    rw [isFree, Option.isNone_eq_false_iff] at forced
    rw [if_pos forced]

/-- A variable `name` that is free is asked for. -/
theorem headItem_var_of_free {name : String} (mark : Char) (ok : isName name)
    (clear : (Segment.mk us (.token (.var name))).clear b) (free : isFree b name) :
    headItem b (.var mark (name.toList.takeWhile isVarChar)) =
      .asked (mark :: name.toList.takeWhile isVarChar) := by
  have unforced : forced? b (name.toList.takeWhile isVarChar) = none := by
    simp only [Segment.clear, Bool.or_eq_true, Bool.and_eq_true, List.all_eq_true,
      Option.isNone_iff_eq_none] at clear
    rcases clear with plain | ⟨-, prefixFree⟩
    · rw [List.takeWhile_eq_self_iff.2 plain, forced?_toList ok]
      simpa [isFree] using free
    · exact prefixFree
  rw [headItem, unforced]
  rfl

/-- What becomes of a segment of `us` that is not dropped: it stands, and something is asked for if
it asks. -/
theorem headItem_of_keeps (spells : Spells us l rest) (clear : (Segment.mk us l).clear b)
    (flat : (Segment.mk us l).flat) (brace : l ≠ .token .lbrace)
    (keeps : (Segment.mk us l).drops b = false) :
    (∀ piece ∈ (Segment.mk us l).pieces, piece.isBracket = false ∧
      (headItem b piece = .asked piece.source ∨ headItem b piece = .stands piece.source)) ∧
    ((Segment.mk us l).pieces.map (headItem b)).any HeaderItem.isAsked =
      (Segment.mk us l).asks := by
  have quiet {ps : List Piece} (all : ∀ piece ∈ ps, piece.isQuiet) :
      (∀ piece ∈ ps, piece.isBracket = false ∧
        (headItem b piece = .asked piece.source ∨ headItem b piece = .stands piece.source)) ∧
      (ps.map (headItem b)).any HeaderItem.isAsked = false := by
    refine ⟨fun piece listed => ⟨isBracket_of_isQuiet (all piece listed),
      .inr (headItem_of_isQuiet (all piece listed))⟩, ?_⟩
    rw [List.any_map, List.any_eq_false]
    intro piece listed
    rw [Function.comp, headItem_of_isQuiet (all piece listed)]
    exact nofun
  -- What asks for nothing is quiet, and what asks is an asterisk or a variable.
  cases asks : (Segment.mk us l).asks with
  | false => exact quiet (isQuiet_of_not_asks spells clear flat asks brace)
  | true =>
    match l, asks with
    | .token .star, _ =>
      obtain rfl := chars_of_sign spells (c := '*') rfl
      exact ⟨List.forall_mem_singleton.2 ⟨rfl, .inl rfl⟩, rfl⟩
    | .token (.var name), _ =>
      obtain ⟨mark, -, ok, pieces, inert⟩ := exists_pieces_var spells
      have free : isFree b name := by simpa [Segment.drops, Token.drops] using keeps
      have item := headItem_var_of_free mark ok clear free
      obtain ⟨others, -⟩ := quiet (isQuiet_of_isInert inert)
      rw [pieces]
      refine ⟨List.forall_mem_cons.2 ⟨⟨rfl, .inl item⟩, others⟩, ?_⟩
      rw [List.map_cons, item]
      rfl

end GraphBroker.Sparql

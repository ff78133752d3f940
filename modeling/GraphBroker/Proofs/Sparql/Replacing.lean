import GraphBroker.Proofs.Sparql.Pieces

/-!
# Replacing segments of a text

A lexeme is spelled by its characters before any text that does not go on with it. So a
segment can be replaced, if what stands in its place begins with a character that goes on with no
lexeme: the segments before it are read as they were. In this way variables are replaced by IRIs
after the first brace, and dropped or replaced by an asterisk before it.

## Main definitions

* `Sparql.Alike`: texts that go on with the same lexemes.
* `Segment.force`, `Sparql.forceHeader`: what becomes of segments after the first brace, and before.

## Main statements

* `Spells.alike`: a lexeme is spelled alike before both texts.
* `cut_force`, `cut_forceHeader`: what becomes of segments are segments again.
-/

namespace GraphBroker.Sparql

open Text

variable {c d : Char} {us rest rest' : List Char} {l : Lexeme} {p : Char → Bool} {b : Binding}
  {s : Segment} {segments header tail tail' star : List Segment}

/-! ### Texts that go on alike -/

theorem isLocalChar_of_isNameChar (ok : isNameChar c) : isLocalChar c := by
  simp [isLocalChar, ok]

theorem isLocalChar_of_isDigit (ok : c.isDigit) : isLocalChar c := by
  simp [isLocalChar, isNameChar, isAlphanumeric, isNumeric, ok]

/-- Characters that no lexeme goes on with. -/
def isStop (c : Char) : Bool :=
  !isLocalChar c && c != ':' && c != '"' && c != '\''

/-- The second text goes on with no more lexemes than the first: it begins with the same character,
dots apart, or with one that goes on with none where the first has a variable, or a line ends where
the first text does. -/
inductive Alike : List Char → List Char → Prop where
  /-- Both end. -/
  | nil : Alike [] []
  /-- A lexeme may look behind dots. -/
  | dot {rest rest' : List Char} (alike : Alike rest rest') : Alike ('.' :: rest) ('.' :: rest')
  /-- Behind no character `c` but a dot. -/
  | same {c : Char} {rest rest' : List Char} (other : c ≠ '.') : Alike (c :: rest) (c :: rest')
  /-- A variable, which begins with `c`, has given way to what begins with `d`. -/
  | mark {c d : Char} {rest rest' : List Char} (marked : c = '?' ∨ c = '$') (stop : isStop d) :
      Alike (c :: rest) (d :: rest')
  /-- The first ends, and a line in the second. -/
  | line {rest' : List Char} : Alike [] ('\n' :: rest')

namespace Alike

theorem append (us : List Char) (alike : Alike rest rest') : Alike (us ++ rest) (us ++ rest') := by
  induction us with
  | nil => exact alike
  | cons c us ih =>
    by_cases dot : c = '.'
    · subst dot
      exact .dot ih
    · exact .same dot

theorem stops (class_ : ∀ c, p c → isLocalChar c) (alike : Alike rest rest')
    (ends : Stops p rest) : Stops p rest' := by
  cases alike with
  | nil => exact ends
  | dot _ | same _ =>
    rintro _ ⟨⟩
    exact ends _ rfl
  | @mark _ d _ _ _ stop =>
    rintro _ ⟨⟩
    rw [Bool.eq_false_iff]
    intro inside
    simp [isStop, class_ d inside] at stop
  | line =>
    rintro _ ⟨⟩
    rw [Bool.eq_false_iff]
    intro inside
    exact absurd (class_ _ inside) (by decide)

/-- Colons and quotes `c` are new to no text. -/
theorem head?_ne (off : isStop c = false) (alike : Alike rest rest')
    (ends : rest.head? ≠ some c) : rest'.head? ≠ some c := by
  cases alike with
  | nil | dot _ | same _ => exact ends
  | mark _ stop =>
    rintro ⟨⟩
    rw [off] at stop
    cases stop
  | line =>
    rintro ⟨⟩
    exact absurd off (by decide)

/-- The end of a line stays where it is, at the start of `rest` and of `rest'`. -/
theorem endsLine (alike : Alike rest rest') (ends : EndsLine rest) : EndsLine rest' := by
  cases alike with
  | nil | dot _ | same _ => exact ends
  | @mark c d _ _ marked _ =>
    obtain rfl : c = '\n' := ends c rfl
    rcases marked with marked | marked <;> cases marked
  | line =>
    rintro _ ⟨⟩
    rfl

theorem dropWhile_dot (alike : Alike rest rest') :
    Alike (rest.dropWhile (· == '.')) (rest'.dropWhile (· == '.')) := by
  induction alike with
  | nil => exact .nil
  | dot _ ih => exact ih
  | @same c _ _ other =>
    have kept : ¬(c == '.') = true := by simpa using other
    rw [List.dropWhile_cons_of_neg (p := (· == '.')) kept,
      List.dropWhile_cons_of_neg (p := (· == '.')) kept]
    exact .same other
  | @mark c d _ _ marked stop =>
    have keptMark : ¬(c == '.') = true := by rcases marked with rfl | rfl <;> decide
    have kept : ¬(d == '.') = true := by
      intro dot
      rw [beq_iff_eq] at dot
      subst dot
      exact absurd stop (by decide)
    rw [List.dropWhile_cons_of_neg (p := (· == '.')) keptMark,
      List.dropWhile_cons_of_neg (p := (· == '.')) kept]
    exact .mark marked stop
  | line => exact .line

theorem startsWithDigit (alike : Alike rest rest') (ends : startsWithDigit rest = false) :
    Sparql.startsWithDigit rest' = false := by
  have stops : Stops Char.isDigit rest := by
    intro c first
    rw [Sparql.startsWithDigit, Option.mem_def.1 first] at ends
    exact ends
  exact startsWithDigit_of_stops (alike.stops (fun c => isLocalChar_of_isDigit) stops)

theorem of_dot {tail' : List Char} (alike : Alike rest ('.' :: tail')) :
    ∃ tail, rest = '.' :: tail ∧ Alike tail tail' := by
  cases alike with
  | dot alike => exact ⟨_, rfl, alike⟩
  | same other => exact absurd rfl other
  | mark _ stop => exact absurd stop (by decide)

end Alike

/-- A lexeme `l` is spelled before `rest` and before `rest'`, since these go on alike. -/
theorem Spells.alike (spells : Spells us l rest) (alike : Alike rest rest') :
    Spells us l rest' := by
  -- A lexeme goes on with characters of local names, colons or quotes, and the other text begins
  -- with none of these unless the first does.
  have names {rest} (ends : Stops isNameChar rest) (alike : Alike rest rest') :
      Stops isNameChar rest' := alike.stops (fun c => isLocalChar_of_isNameChar) ends
  have digits (ends : Stops Char.isDigit rest) : Stops Char.isDigit rest' :=
    alike.stops (fun c => isLocalChar_of_isDigit) ends
  have points (noPoint : ∀ tail, rest = '.' :: tail → startsWithDigit tail = false) :
      ∀ tail', rest' = '.' :: tail' → startsWithDigit tail' = false := by
    rintro tail' rfl
    obtain ⟨tail, rfl, behind⟩ := alike.of_dot
    exact behind.startsWithDigit (noPoint tail rfl)
  cases spells with
  | blank blank => exact .blank blank
  | comment inside ends => exact .comment inside (alike.endsLine ends)
  | sign sign => exact .sign sign
  | dot ends => exact .dot (alike.startsWithDigit ends)
  | iri ok => exact .iri ok
  | var marked ok ends => exact .var marked ok (names ends alike)
  | string quotes inside short =>
    refine .string quotes inside fun closed => alike.head?_ne ?_ (short closed)
    rcases quotes with rfl | rfl <;> decide
  | longString quotes inside => exact .longString quotes inside
  | langTag ok ends =>
    exact .langTag ok (alike.stops (fun c tag =>
      isLocalChar_of_isNameChar (isNameChar_of_isTagChar tag)) ends)
  | datatypeMarker => exact .datatypeMarker
  | blankNode ok ends => exact .blankNode ok (names ends alike)
  | integer starts whole all ends noPoint =>
    exact .integer starts whole all (digits ends) (points noPoint)
  | decimal inhabited all ends noPoint =>
    exact .decimal inhabited all (digits ends) (points noPoint)
  | fraction starts all inhabited allDecimals ends =>
    exact .fraction starts all inhabited allDecimals (digits ends)
  | word inhabited ok ends noColon =>
    exact .word inhabited ok (names ends alike) (alike.head?_ne (by decide) noColon)
  | prefixedName ok all noDot ends =>
    exact .prefixedName ok all noDot (alike.dropWhile_dot.stops (fun _ => id) ends)

/-! ### What becomes of a text -/

/-- What becomes of segments before the first brace: forced variables are dropped, and `star` stands
in the place of the first. -/
def forceHeader (b : Binding) : List Segment → List Segment → List Segment
  | _, [] => []
  | star, s :: rest =>
    if s.drops b then star ++ forceHeader b [] rest else s :: forceHeader b star rest

/-- An asterisk, if nothing is left of `header` to ask for. -/
def starFor (b : Binding) (header : List Segment) : List Segment :=
  if header.any fun s => s.asks && !s.drops b then [] else [⟨['*'], .token .star⟩]

/-- The segment `s` stands before the first brace, and the scanner takes it for what it is. -/
structure Segment.Ready (b : Binding) (s : Segment) : Prop where
  /-- It is spelled by its characters. -/
  spells : ∃ rest, Spells s.chars s.lexeme rest
  /-- It is clear. -/
  clear : s.clear b
  /-- It is flat. -/
  flat : s.flat
  /-- It is no brace. -/
  brace : s.lexeme ≠ .token .lbrace

theorem headerChars_kept {ps : List Piece} {items : List HeaderItem} {star : List Char}
    (kept : ∀ piece ∈ ps,
      headItem b piece = .asked piece.source ∨ headItem b piece = .stands piece.source) :
    headerChars star (ps.map (headItem b) ++ items) =
      ps.flatMap Piece.source ++ headerChars star items := by
  induction ps with
  | nil => rfl
  | cons piece ps ih =>
    obtain ⟨first, others⟩ := List.forall_mem_cons.1 kept
    rw [List.map_cons, List.cons_append, List.flatMap_cons, List.append_assoc, ← ih others]
    rcases first with item | item <;> rw [item, headerChars]

/-- What becomes of a segment `s` before the first brace. -/
theorem Segment.Ready.headerChars (ready : s.Ready b) {items : List HeaderItem} {star : List Char} :
    headerChars star (s.pieces.map (headItem b) ++ items) =
      if s.drops b then star ++ Sparql.headerChars [] items
      else s.chars ++ Sparql.headerChars star items := by
  obtain ⟨rest, spells⟩ := ready.spells
  cases drops : s.drops b with
  | true =>
    rw [map_headItem_of_drops spells ready.clear drops]
    rfl
  | false =>
    obtain ⟨kept, -⟩ := headItem_of_keeps spells ready.clear ready.flat ready.brace drops
    rw [headerChars_kept fun piece listed => (kept piece listed).2,
      flatMap_source spells ready.clear]
    rfl

theorem Segment.Ready.isAsked (ready : s.Ready b) :
    (s.pieces.map (headItem b)).any HeaderItem.isAsked = (s.asks && !s.drops b) := by
  obtain ⟨rest, spells⟩ := ready.spells
  cases drops : s.drops b with
  | true =>
    rw [map_headItem_of_drops spells ready.clear drops, Bool.not_true, Bool.and_false]
    rfl
  | false =>
    obtain ⟨-, asked⟩ := headItem_of_keeps spells ready.clear ready.flat ready.brace drops
    rw [Bool.not_false, Bool.and_true]
    exact asked

theorem Segment.Ready.isBracket (ready : s.Ready b) :
    ∀ piece ∈ s.pieces, piece.isBracket = false := by
  obtain ⟨rest, spells⟩ := ready.spells
  cases drops : s.drops b with
  | true =>
    obtain ⟨us, l⟩ := s
    match l, drops with
    | .token (.var name), drops =>
      obtain ⟨mark, -, -, pieces, inert⟩ := exists_pieces_var spells
      rw [pieces]
      exact List.forall_mem_cons.2 ⟨rfl, fun piece listed =>
        isBracket_of_isQuiet (isQuiet_of_isInert inert piece listed)⟩
  | false =>
    obtain ⟨kept, -⟩ := headItem_of_keeps spells ready.clear ready.flat ready.brace drops
    exact fun piece listed => (kept piece listed).1

/-- What becomes of the text of `header`, which stands before the first brace. -/
theorem headerChars_header (ready : ∀ s ∈ header, s.Ready b) :
    headerChars (charsOf star) ((header.flatMap Segment.pieces).map (headItem b)) =
      charsOf (forceHeader b star header) := by
  induction header generalizing star with
  | nil => rfl
  | cons s header ih =>
    obtain ⟨first, others⟩ := List.forall_mem_cons.1 ready
    rw [List.flatMap_cons, List.map_append, first.headerChars, forceHeader]
    split
    · rw [charsOf_append, ← ih others]
      rfl
    · rw [charsOf_cons, ih others]

theorem any_isAsked_header (ready : ∀ s ∈ header, s.Ready b) :
    ((header.flatMap Segment.pieces).map (headItem b)).any HeaderItem.isAsked =
      header.any fun s => s.asks && !s.drops b := by
  induction header with
  | nil => rfl
  | cons s header ih =>
    obtain ⟨first, others⟩ := List.forall_mem_cons.1 ready
    rw [List.flatMap_cons, List.map_append, List.any_append, first.isAsked, ih others,
      List.any_cons]

/-- What becomes of the text of `segments`, which stands after the first brace. -/
theorem flatMap_inBody_body (spelled : ∀ s ∈ segments, ∃ rest, Spells s.chars s.lexeme rest)
    (clear : ∀ s ∈ segments, s.clear b) :
    (segments.flatMap Segment.pieces).flatMap (Piece.inBody b) =
      charsOf (segments.map (Segment.force b)) := by
  induction segments with
  | nil => rfl
  | cons s others ih =>
    obtain ⟨⟨rest, spells⟩, spelledOthers⟩ := List.forall_mem_cons.1 spelled
    obtain ⟨first, clearOthers⟩ := List.forall_mem_cons.1 clear
    rw [List.flatMap_cons, List.flatMap_append, flatMap_inBody_pieces spells first,
      ih spelledOthers clearOthers, List.map_cons, charsOf_cons]

theorem isBracket_of_mem_header (ready : ∀ s ∈ header, s.Ready b) :
    ∀ piece ∈ header.flatMap Segment.pieces, piece.isBracket = false := by
  intro piece listed
  obtain ⟨s, inHeader, inside⟩ := List.mem_flatMap.1 listed
  exact (ready s inHeader).isBracket piece inside

/-- The `brace` is spelled in one way. -/
theorem Cut.eq_brace {brace : Segment} {body : List Segment} (cut : Cut (header ++ brace :: body))
    (isBrace : brace.lexeme = .token .lbrace) : brace = ⟨['\x7b'], .token .lbrace⟩ := by
  obtain ⟨us, l⟩ := brace
  obtain rfl : l = .token .lbrace := isBrace
  obtain ⟨rest, spells⟩ := cut.spells_of_mem (List.mem_append_right _ List.mem_cons_self)
  have chars : us = ['\x7b'] := chars_of_sign spells rfl
  rw [chars]

/-- What becomes of the segments of a text whose first `brace` is known. -/
theorem substitute_charsOf {brace : Segment} {body : List Segment}
    (cut : Cut (header ++ brace :: body)) (isBrace : brace.lexeme = .token .lbrace)
    (clear : ∀ s ∈ header ++ brace :: body, s.clear b) (flat : ∀ s ∈ header, s.flat)
    (noBrace : ∀ s ∈ header, s.lexeme ≠ .token .lbrace) :
    substitute b (charsOf (header ++ brace :: body)) =
      charsOf (forceHeader b (starFor b header) header ++
        brace :: body.map (Segment.force b)) := by
  obtain ⟨clearHeader, clearRest⟩ := List.forall_mem_append.1 clear
  obtain ⟨-, clearBody⟩ := List.forall_mem_cons.1 clearRest
  have ready : ∀ s ∈ header, s.Ready b := fun s listed =>
    ⟨cut.spells_of_mem (List.mem_append_left _ listed), clearHeader s listed, flat s listed,
      noBrace s listed⟩
  have spelled : ∀ s ∈ body, ∃ rest, Spells s.chars s.lexeme rest := fun s listed =>
    cut.spells_of_mem (List.mem_append_right _ (List.mem_cons_of_mem _ listed))
  obtain rfl := cut.eq_brace isBrace
  have cuts : pieces (charsOf (header ++ ⟨['\x7b'], .token .lbrace⟩ :: body)) =
      header.flatMap Segment.pieces ++ .char '\x7b' :: body.flatMap Segment.pieces := by
    rw [pieces_charsOf cut clear, List.flatMap_append, List.flatMap_cons]
    rfl
  have starred : (if ((header.flatMap Segment.pieces).map (headItem b)).any HeaderItem.isAsked
      then [] else ['*']) = charsOf (starFor b header) := by
    rw [any_isAsked_header ready, starFor]
    split <;> rfl
  rw [substitute_of_pieces cuts (isBracket_of_mem_header ready), starred, headerChars_header ready,
    flatMap_inBody_body spelled clearBody, charsOf_append, charsOf_cons]
  rfl

/-! ### The segments are read -/

/-- Variables are forced by `b` to IRIs that can be written. -/
def ForcesIris (b : Binding) : Prop :=
  ∀ name t, b.get? name = some t → ∃ iri, t = .iri iri ∧ isIriText iri

theorem newline_not_mem_iri {iri : String} (ok : isIriText iri) :
    ∀ c ∈ (Term.iri iri).sparqlChars, c ≠ '\n' := by
  obtain ⟨-, solid⟩ := of_isIriText ok
  have inside : ∀ c ∈ iri.toList, c ≠ '\n' := by
    rintro c listed rfl
    exact absurd (solid _ listed) (by decide)
  have bracket : ∀ c ∈ ['>'], c ≠ '\n' := List.forall_mem_singleton.2 (by decide)
  exact List.forall_mem_cons.2 ⟨by decide, List.forall_mem_append.2 ⟨inside, bracket⟩⟩

/-- If variables are replaced by IRIs in the line `cs`, it stays a line. -/
theorem newline_not_mem_replaced {cs : List Char} (iris : ForcesIris b)
    (line : ∀ c ∈ cs, c ≠ '\n') : ∀ c ∈ replaced b cs, c ≠ '\n' := by
  intro c inside
  obtain ⟨piece, listed, inside⟩ := List.mem_flatMap.1 inside
  have source : ∀ d ∈ piece.source, d ≠ '\n' := fun d within =>
    line d (by rw [← flatMap_source_pieces cs]; exact List.mem_flatMap.2 ⟨piece, listed, within⟩)
  cases piece with
  | verbatim cs => exact source c inside
  | char d => exact source c inside
  | var mark name =>
    -- A variable stays as it is or gives way to an IRI, in which there are no blanks.
    rw [Piece.inBody] at inside
    split at inside
    · rename_i t given
      unfold forced? at given
      split at given
      · cases given
      · obtain ⟨iri, rfl, ok⟩ := iris _ t given
        exact newline_not_mem_iri ok c inside
    · exact source c inside

/-- A segment of `us` with the variables of `b` replaced is spelled before a text that goes on
alike. -/
theorem spells_force (iris : ForcesIris b) (spells : Spells us l rest) (alike : Alike rest rest') :
    Spells ((Segment.mk us l).force b).chars ((Segment.mk us l).force b).lexeme rest' ∧
      Alike (us ++ rest) (((Segment.mk us l).force b).chars ++ rest') := by
  cases l with
  | gap =>
    cases spells with
    | @blank c _ blank =>
      have kept : replaced b [c] = [c] :=
        (Inert.of_plain (by simpa using isPlain_of_isInert (isInert_of_isBlank blank))).2 b
      rw [Segment.force]
      dsimp only
      rw [kept]
      exact ⟨.blank blank, alike.append _⟩
    | @comment body _ inside ends =>
      -- A comment may change, but only up to the end of its line.
      have hash : replaced b ('#' :: body) = '#' :: replaced b body := by
        rw [replaced, pieces_plain (by decide), List.flatMap_cons]
        rfl
      rw [Segment.force]
      dsimp only
      rw [hash]
      exact ⟨.comment (newline_not_mem_replaced iris inside) (alike.endsLine ends),
        .same (by decide)⟩
  | token t =>
    have kept : Spells us (.token t) rest' ∧ Alike (us ++ rest) (us ++ rest') :=
      ⟨spells.alike alike, alike.append us⟩
    cases t with
    | var name =>
      unfold Segment.force
      dsimp only
      cases given : b.get? name with
      | none => exact kept
      | some t =>
        obtain ⟨iri, rfl, ok⟩ := iris name t given
        cases spells with
        | sign sign => cases isSign_of_sign? sign
        | var marked _ _ => exact ⟨.iri ok, .mark marked (by decide)⟩
    | _ => exact kept

/-- After the first brace the `segments` are spelled one after the other again. -/
theorem cut_force (iris : ForcesIris b) (cut : Cut segments) :
    Cut (segments.map (Segment.force b)) ∧
      Alike (charsOf segments) (charsOf (segments.map (Segment.force b))) := by
  induction cut with
  | nil => exact ⟨.nil, .nil⟩
  | @cons s others spells _ ih =>
    obtain ⟨cutOthers, alike⟩ := ih
    obtain ⟨spelled, longer⟩ := spells_force iris spells alike
    rw [List.map_cons, charsOf_cons, charsOf_cons]
    exact ⟨.cons spelled cutOthers, longer⟩

/-- If `t` is asked for, `t'` is a variable or a word: nothing else follows before the first
brace. -/
def Token.precedes (t t' : Token) : Prop :=
  (∃ name, t = .var name) → (∃ name, t' = .var name) ∨ ∃ w, t' = .word w

theorem isStop_of_isBlank (blank : isBlank c) : isStop c := by
  have all : blanks.all isStop := by decide +kernel
  exact List.all_eq_true.1 all c (mem_blanks blank)

theorem exists_nameChar_of_word {w : String} (spells : Spells us (.token (.word w)) rest) :
    ∃ c cs, us = c :: cs ∧ isNameChar c := by
  cases spells with
  | sign sign => cases isSign_of_sign? sign
  | word inhabited ok _ _ =>
    obtain ⟨c, cs, rfl⟩ := List.exists_cons_of_ne_nil inhabited
    exact ⟨c, cs, rfl, (of_isLabel ok).2 c List.mem_cons_self⟩

/-- What is left of the variables and words of `header` before a brace begins with a character that
no name goes on with. -/
theorem exists_stop (cut : Cut (header ++ tail))
    (asked : ∀ s ∈ header, ∀ t, s.token? = some t → (∃ name, t = .var name) ∨ ∃ w, t = .word w)
    (braced : ∃ cs, charsOf tail' = '\x7b' :: cs)
    (ends : Stops isNameChar (charsOf (header ++ tail))) :
    ∃ d cs, charsOf (forceHeader b [] header ++ tail') = d :: cs ∧ isStop d := by
  induction header with
  | nil =>
    obtain ⟨cs, text⟩ := braced
    exact ⟨'\x7b', cs, text, by decide⟩
  | cons s header ih =>
    obtain ⟨first, others⟩ := List.forall_mem_cons.1 asked
    cases cut with
    | cons spells cutOthers =>
    have stands (keeps : s.drops b = false) {c : Char} {us : List Char} (chars : s.chars = c :: us)
        (stop : isStop c) :
        ∃ d cs, charsOf (forceHeader b [] (s :: header) ++ tail') = d :: cs ∧ isStop d := by
      refine ⟨c, us ++ charsOf (forceHeader b [] header ++ tail'), ?_, stop⟩
      rw [forceHeader, keeps, if_neg Bool.false_ne_true, List.cons_append, charsOf_cons, chars,
        List.cons_append]
    obtain ⟨us, l⟩ := s
    cases l with
    | gap =>
      cases spells with
      | blank blank => exact stands rfl rfl (isStop_of_isBlank blank)
      | comment _ _ => exact stands rfl rfl (by decide)
    | token t =>
      rcases first t rfl with ⟨name, rfl⟩ | ⟨w, rfl⟩
      · cases spells with
        | sign sign => cases isSign_of_sign? sign
        | @var mark _ _ marked _ endsName =>
        cases keeps : (Segment.mk (mark :: name.toList) (.token (.var name))).drops b with
        | false =>
          refine stands keeps rfl ?_
          rcases marked with rfl | rfl <;> decide
        | true =>
          -- The variable gives way to nothing, so the next segment has to stop the name.
          rw [forceHeader, keeps, if_pos rfl, List.nil_append]
          exact ih cutOthers others endsName
      · -- A word would go on with the name before it.
        obtain ⟨c, word, rfl, name⟩ := exists_nameChar_of_word spells
        rw [ends c rfl] at name
        cases name

/-- Before the first brace the segments of `header` are spelled one after the other again. -/
theorem cut_forceHeader (cut : Cut (header ++ tail)) (cutTail : Cut tail')
    (alike : Alike (charsOf tail) (charsOf tail'))
    (braced : ∃ cs, charsOf tail' = '\x7b' :: cs)
    (ordered : header.Pairwise fun s s' =>
      ∀ t, s.token? = some t → ∀ t', s'.token? = some t' → t.precedes t')
    (starred : star = [] ∨ star = [⟨['*'], .token .star⟩]) :
    Cut (forceHeader b star header ++ tail') ∧
      Alike (charsOf (header ++ tail)) (charsOf (forceHeader b star header ++ tail')) := by
  induction header generalizing star with
  | nil => exact ⟨cutTail, alike⟩
  | cons s header ih =>
    obtain ⟨first, ordered⟩ := List.pairwise_cons.1 ordered
    cases cut with
    | cons spells cutOthers =>
    rw [forceHeader, List.cons_append, charsOf_cons]
    cases drops : s.drops b with
    | false =>
      -- The segment stays, before a text that goes on alike.
      obtain ⟨cutForced, later⟩ := ih cutOthers ordered starred
      rw [if_neg Bool.false_ne_true, List.cons_append, charsOf_cons]
      exact ⟨.cons (spells.alike later) cutForced, later.append _⟩
    | true =>
      obtain ⟨cutForced, later⟩ := ih cutOthers ordered (.inl rfl)
      obtain ⟨us, l⟩ := s
      match l, drops with
      | .token (.var name), _ =>
      cases spells with
      | sign sign => cases isSign_of_sign? sign
      | var marked _ endsName =>
      rw [if_pos rfl]
      rcases starred with rfl | rfl
      · -- Nothing stands for the variable: what follows has to stop the lexeme before it.
        have asked : ∀ s ∈ header, ∀ t, s.token? = some t →
            (∃ name, t = .var name) ∨ ∃ w, t = .word w := fun s listed t is =>
          first s listed _ rfl t is ⟨name, rfl⟩
        obtain ⟨d, cs, text, stop⟩ := exists_stop (b := b) cutOthers asked braced endsName
        rw [List.nil_append]
        refine ⟨cutForced, ?_⟩
        rw [text]
        exact .mark marked stop
      · exact ⟨.cons (.sign rfl) cutForced, .mark marked (by decide)⟩

end GraphBroker.Sparql

import GraphBroker.Proofs.Sparql.Scanning
import GraphBroker.Proofs.Sparql.Reading

/-!
# Forcing variables in the text of a query

Replacing variables in the text of a query is replacing them in the query. After the first
brace a forced variable gives way to its term. Before it a forced variable is dropped and
leaves a blank word; if no variable is left, an asterisk stands for the first.

## Main definitions

* `Query.force`: the query with variables forced to terms.
* `Query.forcedWords`: what becomes of the words of a query.

## Main statements

* `substitute_line`: what becomes of the text of a query.
* `parse_render`: it is read as the query with the variables replaced.
-/

namespace GraphBroker.Sparql

variable {b : Binding} {q : Query} {p : TriplePattern} {place : PatternTerm} {name : String}
  {word : List Char} {ws : List (List Char)} {ps qs : List Piece}

/-! ### Forced queries -/

/-- The place with a variable of `b` replaced. -/
def PatternTerm.force (b : Binding) : PatternTerm → PatternTerm
  | term t => term t
  | var name => ((b.get? name).map term).getD (var name)

/-- The pattern `p` with the variables of `b` replaced. -/
def TriplePattern.force (b : Binding) (p : TriplePattern) : TriplePattern :=
  ⟨p.subject.force b, p.predicate.force b, p.object.force b⟩

/-- Whether `b` leaves the variable `name` free. -/
def isFree (b : Binding) (name : String) : Bool :=
  (b.get? name).isNone

/-- The variables still asked for; all of them if none of those of `projection` is free. -/
def forceProjection (b : Binding) (projection : Option (List String)) : Option (List String) :=
  (projection.map (·.filter (isFree b))).filter (· ≠ [])

/-- The query `q` with the variables of `b` replaced in its pattern and no longer asked for. -/
def Query.force (b : Binding) (q : Query) : Query where
  projection := forceProjection b q.projection
  pattern := q.pattern.map (·.force b)
  limit := q.limit

/-- The scanner takes the terms and variables of `q` for what they are. -/
def Query.scannable (q : Query) : Bool :=
  q.projection.all (·.all fun name => name.toList.all isVarChar) &&
    q.pattern.all (·.places.all PatternTerm.scannable)

theorem places_force : (p.force b).places = p.places.map (·.force b) := rfl

theorem PatternTerm.wellFormed_force (terms : ∀ name t, b.get? name = some t → t.wellFormed)
    (wf : place.wellFormed) : (place.force b).wellFormed := by
  cases place with
  | term t => exact wf
  | var name =>
    rw [force]
    cases given : b.get? name with
    | none => exact wf
    | some t => exact terms name t given

theorem TriplePattern.wellFormed_force (terms : ∀ name t, b.get? name = some t → t.wellFormed)
    (wf : p.wellFormed) : (p.force b).wellFormed := by
  rw [wellFormed, places_force, List.all_map]
  exact List.all_eq_true.2 fun place listed =>
    place.wellFormed_force terms (List.all_eq_true.1 wf place listed)

theorem forceProjection_wellFormed {projection : Option (List String)}
    (wf : projection.all fun names => !names.isEmpty && names.all isName) :
    (forceProjection b projection).all fun names => !names.isEmpty && names.all isName := by
  cases projection with
  | none => rfl
  | some names =>
    simp only [Option.all_some, Bool.and_eq_true, List.all_eq_true] at wf
    rw [forceProjection, Option.map_some, Option.filter_some]
    split
    · rename_i left
      simp only [Option.all_some, Bool.and_eq_true, List.all_eq_true]
      exact ⟨by simpa using left, fun name listed => wf.2 name (List.mem_filter.1 listed).1⟩
    · rfl

/-- Forcing variables to terms that can be written keeps `q` a query that can be written. -/
theorem Query.wellFormed_force (terms : ∀ name t, b.get? name = some t → t.wellFormed)
    (wf : q.wellFormed) : (q.force b).wellFormed := by
  simp only [wellFormed, Bool.and_eq_true] at wf ⊢
  obtain ⟨⟨projection, pattern⟩, small⟩ := wf
  refine ⟨⟨forceProjection_wellFormed projection, ?_⟩, small⟩
  rw [force, List.all_map]
  exact List.all_eq_true.2 fun p listed =>
    p.wellFormed_force terms (List.all_eq_true.1 pattern p listed)

/-! ### The words after the first brace -/

/-- The words of `q` after the first brace. -/
def Query.bodyWords (q : Query) : List (List Char) :=
  [['.']].intercalate (q.pattern.map TriplePattern.words) ++ [['\x7d']] ++ limitWords q.limit

theorem words_eq : q.words = q.headWords ++ ['\x7b'] :: q.bodyWords := by
  simp [Query.words, groupWords, Query.bodyWords]

/-- What becomes of `word` after the first brace. -/
def replaced (b : Binding) (word : List Char) : List Char :=
  (pieces word).flatMap (Piece.inBody b)

theorem forced?_toList (ok : isName name) : forced? b name.toList = b.get? name := by
  have nonempty : name.toList.isEmpty = false := by simpa using (of_isName ok).1
  rw [forced?, nonempty, String.ofList_toList]
  rfl

theorem whole_place (wf : place.wellFormed) (scannable : place.scannable) : Whole place.chars := by
  cases place with
  | term t => exact (inert_term wf scannable).1
  | var name => exact (whole_var scannable).1

/-- The `place` is replaced as a whole. -/
theorem replaced_place (wf : place.wellFormed) (scannable : place.scannable) :
    replaced b place.chars = (place.force b).chars := by
  cases place with
  | term t => exact (inert_term wf scannable).2 b
  | var name =>
    rw [replaced, PatternTerm.chars, (whole_var scannable).2, List.flatMap_singleton,
      Piece.inBody, forced?_toList wf, PatternTerm.force]
    cases b.get? name <;> rfl

theorem of_mem_intercalate {α : Type} {separator : List α} {groups : List (List α)} {a : α}
    (listed : a ∈ separator.intercalate groups) : a ∈ separator ∨ ∃ group ∈ groups, a ∈ group := by
  induction groups with
  | nil => cases listed
  | cons first rest ih =>
    cases rest with
    | nil => exact .inr ⟨first, List.mem_cons_self, by simpa using listed⟩
    | cons second rest =>
      rw [List.intercalate_cons_cons, List.mem_append, List.mem_append] at listed
      rcases listed with (now | between) | later
      · exact .inr ⟨first, List.mem_cons_self, now⟩
      · exact .inl between
      · rcases ih later with between | ⟨group, among, inside⟩
        · exact .inl between
        · exact .inr ⟨group, List.mem_cons_of_mem _ among, inside⟩

theorem map_intercalate {α β : Type} (f : α → β) (separator : List α) (groups : List (List α)) :
    (separator.intercalate groups).map f =
      (separator.map f).intercalate (groups.map (·.map f)) := by
  induction groups with
  | nil => rfl
  | cons first rest ih =>
    cases rest with
    | nil => simp
    | cons second rest =>
      rw [List.intercalate_cons_cons, List.map_append, List.map_append, ih, List.map_cons,
        List.map_cons, List.map_cons, List.intercalate_cons_cons]

theorem inert_limitWords {limit : Option Nat} (listed : word ∈ limitWords limit) : Inert word := by
  cases limit with
  | none => cases listed
  | some n =>
    rcases List.mem_cons.1 listed with rfl | digits
    · exact .of_plain (by decide)
    · obtain rfl := List.mem_singleton.1 digits
      exact .of_plain (List.all_eq_true.2 fun c digit =>
        isPlain_of_class (Nat.isDigit_of_mem_toDigits (by decide) (by decide) digit) (by decide))

/-- The places of `q`, as the scanner needs them. -/
theorem Query.of_scannable (wf : q.wellFormed) (scannable : q.scannable) (listed : p ∈ q.pattern)
    (inside : place ∈ p.places) : place.wellFormed ∧ place.scannable := by
  simp only [wellFormed, Query.scannable, Bool.and_eq_true, List.all_eq_true] at wf scannable
  exact ⟨List.all_eq_true.1 (wf.1.2 p listed) place inside, scannable.2 p listed place inside⟩

theorem whole_bodyWords (wf : q.wellFormed) (scannable : q.scannable)
    (listed : word ∈ q.bodyWords) : Whole word := by
  rw [Query.bodyWords, List.mem_append, List.mem_append] at listed
  rcases listed with (among | closing) | limit
  · rcases of_mem_intercalate among with point | ⟨words, written, inside⟩
    · obtain rfl := List.mem_singleton.1 point
      exact .of_plain (by decide)
    · obtain ⟨p, inQuery, rfl⟩ := List.mem_map.1 written
      obtain ⟨place, inPattern, rfl⟩ := List.mem_map.1 inside
      obtain ⟨wfPlace, scannablePlace⟩ := q.of_scannable wf scannable inQuery inPattern
      exact whole_place wfPlace scannablePlace
  · obtain rfl := List.mem_singleton.1 closing
    exact .of_plain (by decide)
  · exact (inert_limitWords limit).1

/-- The words of `q` after the first brace are replaced one by one. -/
theorem replaced_bodyWords (wf : q.wellFormed) (scannable : q.scannable) :
    q.bodyWords.map (replaced b) = (q.force b).bodyWords := by
  have point : replaced b ['.'] = ['.'] := (Inert.of_plain (by decide)).2 b
  have closing : replaced b ['\x7d'] = ['\x7d'] := (Inert.of_plain (by decide)).2 b
  -- Points, the closing brace and the limit stay, and each place is replaced as a whole.
  have patterns : (q.pattern.map TriplePattern.words).map (·.map (replaced b)) =
      (q.force b).pattern.map TriplePattern.words := by
    rw [Query.force, List.map_map, List.map_map]
    refine List.map_congr_left fun p listed => ?_
    rw [Function.comp, Function.comp, TriplePattern.words, TriplePattern.words, places_force,
      List.map_map, List.map_map]
    refine List.map_congr_left fun place inside => ?_
    obtain ⟨wfPlace, scannablePlace⟩ := q.of_scannable wf scannable listed inside
    exact replaced_place wfPlace scannablePlace
  have limit : (limitWords q.limit).map (replaced b) = limitWords q.limit :=
    List.map_congr_left (fun word listed => (inert_limitWords listed).2 b) |>.trans (List.map_id _)
  rw [Query.bodyWords, List.map_append, List.map_append, map_intercalate, patterns, limit,
    List.map_singleton, List.map_singleton, point, closing]
  rfl

/-- What becomes of the text of `q` after the first brace. -/
theorem inBody_bodyWords (wf : q.wellFormed) (scannable : q.scannable) :
    (pieces (line q.bodyWords)).flatMap (Piece.inBody b) = line (q.force b).bodyWords := by
  rw [pieces_line fun word listed => whole_bodyWords wf scannable listed, List.flatMap_assoc,
    ← replaced_bodyWords wf scannable, line, List.flatMap_map]
  rfl

/-! ### The words before the first brace -/

/-- The pieces of the projection with a blank in front of each. -/
def projectionPieces : Option (List String) → List Piece
  | none => [.char ' ', .char '*']
  | some names => names.flatMap fun name => [.char ' ', .var '?' name.toList]

/-- The pieces of `keyword` with a blank in front of it. -/
def keywordPieces (keyword : String) : List Piece :=
  .char ' ' :: keyword.toList.map .char

/-- The pieces before the first brace, with those of `projection` among them. -/
def headPieces (projection : Option (List String)) : List Piece :=
  keywordPieces "SELECT" ++ (projectionPieces projection ++ (keywordPieces "WHERE" ++ [.char ' ']))

theorem Query.isVarChar_of_scannable {names : List String} (scannable : q.scannable)
    (asked : q.projection = some names) (listed : name ∈ names) : name.toList.all isVarChar := by
  simp only [Query.scannable, asked, Option.all_some, Bool.and_eq_true] at scannable
  exact List.all_eq_true.1 scannable.1 name listed

theorem whole_headWords (scannable : q.scannable) (listed : word ∈ q.headWords) : Whole word := by
  rw [Query.headWords, List.mem_append, List.mem_cons, List.mem_singleton] at listed
  rcases listed with (rfl | asked) | rfl
  · exact .of_plain (by decide)
  · cases projection : q.projection with
    | none =>
      rw [projection] at asked
      obtain rfl := List.mem_singleton.1 asked
      exact .of_plain (by decide)
    | some names =>
      rw [projection] at asked
      obtain ⟨name, among, rfl⟩ := List.mem_map.1 asked
      exact (whole_var (q.isVarChar_of_scannable scannable projection among)).1
  · exact .of_plain (by decide)

theorem flatMap_pieces_projectionWords (scannable : q.scannable) :
    ((projectionWords q.projection).flatMap fun word => .char ' ' :: pieces word) =
      projectionPieces q.projection := by
  cases projection : q.projection with
  | none =>
    rw [projectionWords, List.flatMap_singleton, pieces_of_plain (by decide)]
    rfl
  | some names =>
    rw [projectionWords, projectionPieces, List.flatMap_map, List.flatMap_def, List.flatMap_def]
    refine congrArg List.flatten (List.map_congr_left fun name listed => ?_)
    rw [(whole_var (q.isVarChar_of_scannable scannable projection listed)).2]

theorem keywordPieces_eq {keyword : String} (plain : keyword.toList.all isPlain) :
    .char ' ' :: pieces keyword.toList = keywordPieces keyword := by
  rw [pieces_of_plain plain, keywordPieces]

theorem pieces_words (wf : q.wellFormed) (scannable : q.scannable) :
    pieces (line q.words) =
      headPieces q.projection ++ .char '\x7b' :: pieces (line q.bodyWords) := by
  have whole : ∀ word ∈ q.headWords ++ ['\x7b'] :: q.bodyWords, Whole word := by
    intro word listed
    rcases List.mem_append.1 listed with head | later
    · exact whole_headWords scannable head
    · rcases List.mem_cons.1 later with rfl | body
      · exact .of_plain (by decide)
      · exact whole_bodyWords wf scannable body
  have body := pieces_line fun word listed => whole_bodyWords wf scannable listed
  rw [words_eq, pieces_line whole, List.flatMap_append, List.flatMap_cons, ← body, Query.headWords,
    List.cons_append, List.flatMap_cons, List.flatMap_append, List.flatMap_singleton,
    flatMap_pieces_projectionWords scannable, keywordPieces_eq (by decide),
    keywordPieces_eq (by decide), pieces_of_plain (by decide), headPieces]
  simp

/-- Whether the piece is an opening brace or a parenthesis. -/
def Piece.isBracket : Piece → Bool
  | char c => c == '\x7b' || c == '(' || c == ')'
  | _ => false

theorem isBracket_headPieces {projection : Option (List String)} {piece : Piece}
    (listed : piece ∈ headPieces projection) : piece.isBracket = false := by
  have select : ∀ piece ∈ keywordPieces "SELECT", piece.isBracket = false := by decide
  have following : ∀ piece ∈ keywordPieces "WHERE" ++ [.char ' '], piece.isBracket = false := by
    decide
  rw [headPieces, List.mem_append, List.mem_append] at listed
  rcases listed with before | asked | after
  · exact select piece before
  · cases projection with
    | none =>
      have star : ∀ piece ∈ projectionPieces none, piece.isBracket = false := by decide
      exact star piece asked
    | some names =>
      obtain ⟨name, -, one⟩ := List.mem_flatMap.1 asked
      rcases List.mem_cons.1 one with rfl | var
      · rfl
      · rw [List.mem_singleton.1 var]
        rfl
  · exact following piece after

/-- What becomes of a piece before the first brace outside parentheses. -/
def headItem (b : Binding) : Piece → HeaderItem
  | .verbatim cs => .stands cs
  | .var mark name => if (forced? b name).isSome then .dropped else .asked (mark :: name)
  | .char c => if c = '*' then .asked [c] else .stands [c]

theorem headerItems_eq_map (flat : ∀ piece ∈ ps, piece.isBracket = false) :
    headerItems b 0 ps = ps.map (headItem b) := by
  induction ps with
  | nil => rfl
  | cons piece ps ih =>
    have later := ih fun other listed => flat other (List.mem_cons_of_mem _ listed)
    cases piece with
    | verbatim cs => rw [headerItems, later, List.map_cons, headItem]
    | var mark name =>
      cases given : forced? b name <;> simp [headerItems, headItem, given, later]
    | char c =>
      -- Without parentheses the depth stays zero.
      have apart := flat _ List.mem_cons_self
      simp only [Piece.isBracket, Bool.or_eq_false_iff, beq_eq_false_iff_ne] at apart
      obtain ⟨⟨-, opening⟩, closing⟩ := apart
      rw [headerItems, if_neg opening, if_neg closing, later, List.map_cons, headItem]
      by_cases star : c = '*' <;> simp [star]

/-- What becomes of a text `cs` whose first brace is known. -/
theorem substitute_of_pieces {cs : List Char} (cut : pieces cs = ps ++ .char '\x7b' :: qs)
    (flat : ∀ piece ∈ ps, piece.isBracket = false) :
    substitute b cs =
      headerChars (if (ps.map (headItem b)).any HeaderItem.isAsked then [] else ['*'])
        (ps.map (headItem b)) ++ '\x7b' :: qs.flatMap (Piece.inBody b) := by
  -- There is no brace before this one, so that the pieces are split here.
  have before : ∀ piece ∈ ps, (!(piece == Piece.char '\x7b')) = true := by
    intro piece listed
    rw [Bool.not_eq_true', beq_eq_false_iff_ne]
    rintro rfl
    cases flat _ listed
  have here : (!(Piece.char '\x7b' == Piece.char '\x7b')) = false := by decide
  simp only [substitute, cut, List.takeWhile_append_of_pos before,
    List.dropWhile_append_of_pos before, List.takeWhile_cons, List.dropWhile_cons, here,
    Bool.false_eq_true, if_false, List.append_nil, List.isEmpty_cons, Bool.false_or,
    headerItems_eq_map flat, List.flatMap_cons]
  rfl

/-- What becomes of the words of a projection: a forced variable is dropped, and if no variable is
left, an asterisk stands for the first. -/
def forcedProjectionWords (b : Binding) : Option (List String) → List (List Char)
  | none => [['*']]
  | some names =>
    if names.any (isFree b) then
      names.map fun name => if isFree b name then '?' :: name.toList else []
    else ['*'] :: names.tail.map fun _ => []

/-- What becomes of the words of `q`. -/
def Query.forcedWords (b : Binding) (q : Query) : List (List Char) :=
  "SELECT".toList :: forcedProjectionWords b q.projection ++
    "WHERE".toList :: ['\x7b'] :: (q.force b).bodyWords

/-- What becomes of the variables `names` of a projection. -/
def projectionItems (b : Binding) (names : List String) : List HeaderItem :=
  names.flatMap fun name =>
    [.stands [' '], if isFree b name then .asked ('?' :: name.toList) else .dropped]

theorem map_headItem_of_ne {cs : List Char} (starless : '*' ∉ cs) :
    (cs.map Piece.char).map (headItem b) = cs.map fun c => .stands [c] := by
  rw [List.map_map]
  refine List.map_congr_left fun c listed => ?_
  rw [Function.comp, headItem, if_neg]
  rintro rfl
  exact starless listed

theorem map_headItem_projectionPieces {names : List String}
    (wf : ∀ name ∈ names, isName name) :
    (projectionPieces (some names)).map (headItem b) = projectionItems b names := by
  rw [projectionPieces, projectionItems, List.map_flatMap, List.flatMap_def, List.flatMap_def]
  refine congrArg List.flatten (List.map_congr_left fun name listed => ?_)
  rw [List.map_cons, List.map_singleton, headItem, headItem, forced?_toList (wf name listed),
    isFree]
  cases b.get? name <;> simp

theorem headerChars_stands {star cs : List Char} {items : List HeaderItem} :
    headerChars star (cs.map (fun c => .stands [c]) ++ items) = cs ++ headerChars star items := by
  induction cs with
  | nil => rfl
  | cons c cs ih => rw [List.map_cons, List.cons_append, headerChars, ih]; rfl

/-- Nothing stands for a dropped variable after the first. -/
theorem headerChars_nil_projectionItems {names : List String} {items : List HeaderItem} :
    headerChars [] (projectionItems b names ++ items) =
      line (names.map fun name => if isFree b name then '?' :: name.toList else []) ++
        headerChars [] items := by
  induction names with
  | nil => rfl
  | cons name names ih =>
    have later : projectionItems b (name :: names) =
        [.stands [' '], if isFree b name then .asked ('?' :: name.toList) else .dropped] ++
          projectionItems b names := List.flatMap_cons
    rw [later, List.append_assoc, List.map_cons, line_cons, List.append_assoc, ← ih]
    cases isFree b name <;> simp [headerChars]

theorem any_isAsked_projectionItems {names : List String} :
    (projectionItems b names).any HeaderItem.isAsked = names.any (isFree b) := by
  rw [projectionItems, List.any_flatMap]
  congr 1
  funext name
  cases isFree b name <;> rfl

theorem map_headItem_keywordPieces {keyword : String} (starless : '*' ∉ ' ' :: keyword.toList) :
    (keywordPieces keyword).map (headItem b) = (' ' :: keyword.toList).map fun c => .stands [c] :=
  map_headItem_of_ne starless

theorem any_isAsked_stands {cs : List Char} :
    (cs.map fun c => HeaderItem.stands [c]).any HeaderItem.isAsked = false := by
  rw [List.any_map]
  exact List.any_eq_false.2 fun _ _ => nofun

theorem map_headItem_headPieces {projection : Option (List String)} :
    (headPieces projection).map (headItem b) =
      (' ' :: "SELECT".toList).map (fun c => .stands [c]) ++
        ((projectionPieces projection).map (headItem b) ++
          (' ' :: "WHERE".toList ++ [' ']).map fun c => .stands [c]) := by
  rw [headPieces, List.map_append, List.map_append, List.map_append,
    map_headItem_keywordPieces (by decide), map_headItem_keywordPieces (by decide),
    List.map_append]
  rfl

/-- An asterisk stands for the first of `names` if none is left. -/
theorem headerChars_star {names : List String} {items : List HeaderItem} (inhabited : names ≠ [])
    (noneFree : names.any (isFree b) = false) :
    headerChars ['*'] (projectionItems b names ++ items) =
      line (['*'] :: names.tail.map fun _ => []) ++ headerChars [] items := by
  cases names with
  | nil => exact absurd rfl inhabited
  | cons name names =>
    have forced (other : String) (listed : other ∈ name :: names) : isFree b other = false :=
      Bool.not_eq_true _ ▸ List.any_eq_false.1 noneFree other listed
    have first : projectionItems b (name :: names) =
        .stands [' '] :: .dropped :: projectionItems b names := by
      rw [projectionItems, List.flatMap_cons, forced name List.mem_cons_self]
      rfl
    have later : (names.map fun name => if isFree b name then '?' :: name.toList else []) =
        names.map fun _ => [] :=
      List.map_congr_left fun other listed => by
        rw [forced other (List.mem_cons_of_mem _ listed)]
        rfl
    rw [first, List.cons_append, List.cons_append, headerChars, headerChars,
      headerChars_nil_projectionItems, later]
    simp

/-- What becomes of the text of `q` before the first brace. -/
theorem headerChars_headPieces (wf : q.wellFormed) :
    headerChars (if ((headPieces q.projection).map (headItem b)).any HeaderItem.isAsked then []
      else ['*']) ((headPieces q.projection).map (headItem b)) =
        line ("SELECT".toList :: forcedProjectionWords b q.projection ++ ["WHERE".toList]) ++
          [' '] := by
  have after {cs : List Char} : headerChars [] (cs.map fun c => .stands [c]) = cs := by
    have all : headerChars [] (cs.map (fun c => .stands [c]) ++ []) = cs ++ headerChars [] [] :=
      headerChars_stands
    rwa [List.append_nil, headerChars, List.append_nil] at all
  rw [map_headItem_headPieces, List.any_append, List.any_append, any_isAsked_stands,
    any_isAsked_stands, Bool.false_or, Bool.or_false, headerChars_stands]
  cases asked : q.projection with
  | none =>
    have star : (projectionPieces none).map (headItem b) = [.stands [' '], .asked ['*']] := rfl
    rw [star, forcedProjectionWords]
    simp [headerChars, HeaderItem.isAsked]
  | some names =>
    -- A variable that is left is asked for, and then no asterisk stands for the others.
    simp only [Query.wellFormed, asked, Option.all_some, Bool.and_eq_true, List.all_eq_true] at wf
    obtain ⟨⟨⟨inhabited, namesOk⟩, -⟩, -⟩ := wf
    rw [map_headItem_projectionPieces namesOk, any_isAsked_projectionItems, forcedProjectionWords]
    cases free : names.any (isFree b) with
    | true =>
      rw [if_pos rfl, if_pos rfl, headerChars_nil_projectionItems, after]
      simp
    | false =>
      rw [if_neg Bool.false_ne_true, if_neg Bool.false_ne_true,
        headerChars_star (by simpa using inhabited) free, after]
      simp

/-- What becomes of the text of `q`. -/
theorem substitute_line (wf : q.wellFormed) (scannable : q.scannable) :
    substitute b (line q.words) = line (q.forcedWords b) := by
  -- The first brace among the pieces is the one after the keyword.
  rw [substitute_of_pieces (pieces_words wf scannable) fun piece => isBracket_headPieces,
    headerChars_headPieces wf, inBody_bodyWords wf scannable, Query.forcedWords]
  simp

/-! ### What is read -/

theorem forceProjection_of_any {names : List String} (free : names.any (isFree b)) :
    forceProjection b (some names) = some (names.filter (isFree b)) := by
  have left : names.filter (isFree b) ≠ [] := by
    rw [Ne, List.filter_eq_nil_iff]
    obtain ⟨name, listed, freeName⟩ := List.any_eq_true.1 free
    exact fun noneFree => noneFree name listed freeName
  rw [forceProjection, Option.map_some, Option.filter_some, if_pos (decide_eq_true left)]

theorem forceProjection_of_not_any {names : List String} (forced : names.any (isFree b) = false) :
    forceProjection b (some names) = none := by
  have nothing : names.filter (isFree b) = [] :=
    List.filter_eq_nil_iff.2 (List.any_eq_false.1 forced)
  rw [forceProjection, Option.map_some, nothing]
  rfl

theorem projectionTokens_filter {names : List String} {free : String → Bool} :
    projectionTokens (some (names.filter free)) =
      names.flatMap fun name => if free name then [.var name] else [] := by
  rw [projectionTokens]
  induction names with
  | nil => rfl
  | cons name names ih =>
    rw [List.filter_cons, List.flatMap_cons, ← ih]
    split <;> rfl

theorem lexes_forcedProjectionWords {projection : Option (List String)}
    (wf : projection.all fun names => !names.isEmpty && names.all isName) :
    Lexes (line (forcedProjectionWords b projection))
      (projectionTokens (forceProjection b projection)) := by
  cases projection with
  | none => exact lexes_star.one
  | some names =>
    simp only [Option.all_some, Bool.and_eq_true, List.all_eq_true] at wf
    rw [forcedProjectionWords]
    cases free : names.any (isFree b) with
    | true =>
      -- Where a variable was, a blank word is left, which is read as no token.
      have each : ∀ name ∈ names, Lexes (if isFree b name then '?' :: name.toList else [])
          (if isFree b name then [.var name] else []) := by
        intro name listed
        split
        · exact lexes_var (wf.2 name listed)
        · exact .nil
      rw [if_pos rfl, forceProjection_of_any free, projectionTokens_filter]
      exact .map each
    | false =>
      have blanks : Lexes (line (names.tail.map fun _ => [])) [] := by
        have all := Lexes.map (l := names.tail) (f := fun _ => []) (g := fun _ => [])
          fun _ _ => .nil
        rwa [List.flatMap_eq_nil_iff.2 fun _ _ => rfl] at all
      rw [if_neg Bool.false_ne_true, forceProjection_of_not_any free]
      exact lexes_star.cons blanks

/-- What becomes of the text of `q` is read as the query with the variables of `b` forced. -/
theorem lexes_forcedWords (wf : q.wellFormed)
    (terms : ∀ name t, b.get? name = some t → t.wellFormed) :
    Lexes (line (q.forcedWords b)) (q.force b).tokens := by
  have forced := q.wellFormed_force terms wf
  simp only [Query.wellFormed, Bool.and_eq_true] at wf forced
  have head : Lexes (line ("SELECT".toList :: forcedProjectionWords b q.projection ++
      ["WHERE".toList])) (.word "SELECT" :: projectionTokens (q.force b).projection ++
        [.word "WHERE"]) :=
    lexes_select.cons ((lexes_forcedProjectionWords wf.1.1).append lexes_where.one)
  have all := (head.append (lexes_group forced.1.2)).append (lexes_limitWords (q.force b).limit)
  have words : q.forcedWords b = "SELECT".toList :: forcedProjectionWords b q.projection ++
      ["WHERE".toList] ++ groupWords (q.force b).pattern ++ limitWords (q.force b).limit := by
    simp [Query.forcedWords, groupWords, Query.bodyWords]
  rw [words]
  exact all

theorem substitute_blank {cs : List Char} : substitute b (' ' :: cs) = ' ' :: substitute b cs := by
  have plain : pieces (' ' :: cs) = .char ' ' :: pieces cs := pieces_plain (by decide)
  have blank : (!(Piece.char ' ' == Piece.char '\x7b')) = true := by decide
  simp [substitute, plain, blank, headerItems, headerChars, HeaderItem.isAsked]

theorem force_empty (wf : q.wellFormed) : q.force ∅ = q := by
  obtain ⟨projection, patterns, limit⟩ := q
  have places (place : PatternTerm) : place.force ∅ = place := by
    cases place with
    | term t => rfl
    | var name => rw [PatternTerm.force, Binding.get?_empty, Option.map_none, Option.getD_none]
  have pattern : patterns.map (·.force ∅) = patterns := by
    refine List.map_id'' (fun p => ?_) patterns
    rw [TriplePattern.force, places, places, places]
  rw [Query.force, pattern]
  cases projection with
  | none => rfl
  | some names =>
    have free : isFree ∅ = fun _ => true := funext fun name => by simp [isFree]
    rw [forceProjection, free]
    cases names with
    | nil => exact absurd rfl (Query.projection_ne wf)
    | cons name names => simp

theorem eq_empty_of_isEmpty (noneGiven : b.isEmpty) : b = ∅ :=
  congrArg Binding.mk (Std.ExtTreeMap.isEmpty_iff.1 noneGiven)

/-- A query `q` with the variables of `b` forced is read as the query with the variables
replaced. -/
theorem parse_render (wf : q.wellFormed) (scannable : q.scannable)
    (terms : ∀ name t, b.get? name = some t → t.wellFormed) :
    Query.parse (Pattern.render ⟨q.print, b⟩) = .ok (q.force b) := by
  rw [Pattern.render]
  split
  · rename_i noneForced
    obtain rfl := eq_empty_of_isEmpty noneForced
    rw [force_empty wf]
    exact parse_print wf
  · -- The words stand in a line with a blank in front, which neither side minds.
    have tokens := (lexes_forcedWords wf terms).tokensOf_eq
    rw [← substitute_line wf scannable, line_words (q.projection_ne wf), substitute_blank,
      tokensOf_blank] at tokens
    rw [Query.parse, tokenize, Query.print, String.toList_ofList, String.toList_ofList, tokens]
    exact ofTokens_tokens (q.wellFormed_force terms wf)

end GraphBroker.Sparql

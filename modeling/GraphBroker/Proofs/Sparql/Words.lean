import GraphBroker.Sparql.Lexer
import GraphBroker.Sparql.Printer

/-!
# The words of a printed query

The text of a query is a sequence of words with single blanks between them. A word is a
keyword, a brace or a point, or stands for one place of a pattern; a literal is one word
even if there are blanks between its quotes. Since the lexer skips blanks, it is easier to
think of a blank in front of every word.

## Main definitions

* `Sparql.line`: words with a blank in front of each.
* `PatternTerm.wellFormed`, `Query.wellFormed`: what can be written so that it is read back.
* `Query.words`: the words of a query.

## Main statements

* `line_words`: the text of a query consists of its words.
-/

namespace GraphBroker

/-! ### What can be written -/

/-- IRIs that can stand between angle brackets. -/
def isIriText (value : String) : Bool :=
  value.toList.all fun c => c != '>' && !Text.isBlank c

/-- Names of variables and blank nodes: characters for which `isNameChar` holds, at least one. -/
def isName (name : String) : Bool :=
  !name.toList.isEmpty && name.toList.all Sparql.isNameChar

/-- Whether the character may stand in a language tag. -/
def isTagChar (c : Char) : Bool :=
  Text.isAlphanumeric c || c == '-'

/-- Language tags: letters, digits and hyphens, at least one. -/
def isTag (tag : String) : Bool :=
  !tag.toList.isEmpty && tag.toList.all isTagChar

/-- Terms that can be written: no literal has both a datatype and a language. -/
def Term.wellFormed : Term → Bool
  | iri value => isIriText value
  | blank label => isName label
  | literal _ none none => true
  | literal _ (some datatype) none => isIriText datatype
  | literal _ none (some tag) => isTag tag
  | literal _ (some _) (some _) => false

namespace Sparql

/-- Places that can be written. -/
def PatternTerm.wellFormed : PatternTerm → Bool
  | term t => t.wellFormed
  | var name => isName name

/-- Patterns that can be written. -/
def TriplePattern.wellFormed (p : TriplePattern) : Bool :=
  p.places.all PatternTerm.wellFormed

/-- Queries that can be written: some variables or all of them are asked for, and a limit has at
most 64 bits. -/
def Query.wellFormed (q : Query) : Bool :=
  q.projection.all (fun names => !names.isEmpty && names.all isName) &&
    q.pattern.all TriplePattern.wellFormed && q.limit.all (· < 0x10000000000000000)

/-! ### Words -/

/-- The `words` with a blank in front of each. -/
def line (words : List (List Char)) : List Char :=
  words.flatMap (' ' :: ·)

variable {word : List Char} {ws us : List (List Char)} {p : TriplePattern}
  {patterns : List TriplePattern}

@[simp] theorem line_nil : line [] = [] := rfl

@[simp] theorem line_cons : line (word :: ws) = ' ' :: word ++ line ws :=
  List.flatMap_cons

@[simp] theorem line_append : line (ws ++ us) = line ws ++ line us :=
  List.flatMap_append

/-- A blank in front of each of several parts is one in front of all, and one after each part that
separates them. -/
theorem intercalate_blank (separator word : List Char) (ws : List (List Char)) :
    separator.intercalate ((word :: ws).map (' ' :: ·)) =
      ' ' :: (separator ++ [' ']).intercalate (word :: ws) := by
  -- The first part has no separator before it, so the induction is on the others.
  induction ws generalizing word with
  | nil => simp
  | cons next rest ih =>
    rw [List.map_cons, List.map_cons, List.intercalate_cons_cons, ← List.map_cons, ih,
      List.intercalate_cons_cons]
    simp

/-- Some `groups` of words with `word` between them. -/
theorem line_intercalate (groups : List (List (List Char))) :
    line ([word].intercalate groups) = (' ' :: word).intercalate (groups.map line) := by
  induction groups with
  | nil => rfl
  | cons first rest ih =>
    cases rest with
    | nil => simp
    | cons second rest =>
      rw [List.intercalate_cons_cons, line_append, line_append, ih, List.map_cons, List.map_cons,
        List.map_cons, List.intercalate_cons_cons]
      simp

/-- The words of the pattern `p`. -/
def TriplePattern.words (p : TriplePattern) : List (List Char) :=
  p.places.map PatternTerm.chars

/-- The words of a group of `patterns`. -/
def groupWords (patterns : List TriplePattern) : List (List Char) :=
  ['\x7b'] :: [['.']].intercalate (patterns.map TriplePattern.words) ++ [['\x7d']]

/-- The words of a projection. -/
def projectionWords : Option (List String) → List (List Char)
  | none => [['*']]
  | some names => names.map fun name => '?' :: name.toList

/-- The words of a limit. -/
def limitWords : Option Nat → List (List Char)
  | none => []
  | some n => ["LIMIT".toList, Nat.toDigits 10 n]

/-- The words of `q` before the group. -/
def Query.headWords (q : Query) : List (List Char) :=
  "SELECT".toList :: projectionWords q.projection ++ ["WHERE".toList]

/-- The words of the query `q`. -/
def Query.words (q : Query) : List (List Char) :=
  q.headWords ++ groupWords q.pattern ++ limitWords q.limit

theorem line_eq_cons_intercalate :
    line (word :: ws) = ' ' :: [' '].intercalate (word :: ws) := by
  induction ws generalizing word with
  | nil => simp
  | cons next rest ih =>
    rw [line_cons, ih, List.intercalate_cons_cons]
    simp

theorem line_words_pattern : line p.words = ' ' :: p.chars :=
  line_eq_cons_intercalate

theorem line_groupWords : line (groupWords patterns) = ' ' :: groupChars patterns := by
  rw [groupWords, List.cons_append, line_cons, line_append, line_intercalate, List.map_map]
  cases patterns with
  | nil => rfl
  | cons first rest =>
    have each : line ∘ TriplePattern.words = fun p => ' ' :: p.chars :=
      funext fun p => line_words_pattern
    -- The blank after a point is the one in front of the next pattern.
    have joined : [' ', '.'].intercalate ((first :: rest).map fun p => ' ' :: p.chars) =
        ' ' :: " . ".toList.intercalate ((first :: rest).map TriplePattern.chars) := by
      have blanks := intercalate_blank [' ', '.'] first.chars (rest.map TriplePattern.chars)
      rw [← List.map_cons, List.map_map] at blanks
      exact blanks
    rw [each, joined, groupChars]
    · simp
    · rintro ⟨⟩

theorem line_projectionWords {projection : Option (List String)}
    (someAsked : projection ≠ some []) :
    line (projectionWords projection) = ' ' :: projectionChars projection := by
  cases projection with
  | none => rfl
  | some names =>
    cases names with
    | nil => exact absurd rfl someAsked
    | cons first rest => exact line_eq_cons_intercalate

theorem line_headWords {q : Query} (someAsked : q.projection ≠ some []) :
    line q.headWords =
      ' ' :: ("SELECT ".toList ++ projectionChars q.projection ++ " WHERE".toList) := by
  rw [Query.headWords, List.cons_append, line_cons, line_append, line_projectionWords someAsked]
  simp

/-- The text of `q` consists of its words. -/
theorem line_words {q : Query} (someAsked : q.projection ≠ some []) :
    line q.words = ' ' :: q.chars := by
  rw [Query.words, line_append, line_append, line_headWords someAsked, line_groupWords]
  unfold Query.chars
  cases q.limit with
  | none => simp [limitWords]
  | some n => simp [limitWords]

end Sparql

end GraphBroker

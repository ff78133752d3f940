import GraphBroker.Proofs.Sparql.Words
import Mathlib.Data.List.DropRight

/-!
# How lexemes are spelled

The lexer takes one lexeme after another off a text. Which characters spell a lexeme does not
depend on what follows them, except that what follows must not go on with the lexeme. The
grammar below says so for each kind of lexeme, and whatever the lexer reads is spelled so.

## Main definitions

* `Sparql.Quoted`: the characters of a text in quotes.
* `Sparql.Spells`: the characters of a lexeme, with what may follow them.

## Main statements

* `spells_of_lexeme`: what the lexer reads is spelled by the characters that it takes.
-/

namespace GraphBroker.Sparql

open Text

variable {c quote mark : Char} {cs us rest digits decimals name suffix body value : List Char}
  {long : Bool} {l : Lexeme} {t : Token} {p : Char → Bool}

/-! ### The grammar -/

/-- The text `rest` does not go on with a character of the class `p`. -/
def Stops (p : Char → Bool) (rest : List Char) : Prop :=
  ∀ c ∈ rest.head?, p c = false

/-- The characters of a text between quotes `quote`, from what follows the opening ones to the
closing ones, and the text that they stand for. The flag says whether there are three of them at
either end. -/
inductive Quoted (quote : Char) : Bool → List Char → List Char → Prop where
  /-- One quote closes a short text. -/
  | close : Quoted quote false [quote] []
  /-- Three quotes close a long text. -/
  | closeLong : Quoted quote true [quote, quote, quote] []
  /-- An escape with the letter `e` stands for a character. -/
  | escape {long : Bool} {e : Char} {us value : List Char} (inside : Quoted quote long us value) :
      Quoted quote long ('\\' :: e :: us) (unescape e :: value)
  /-- In a long text a quote stands for itself where it does not begin three of them. -/
  | inner {us value : List Char} (stays : closing? quote true us = none)
      (inside : Quoted quote true us value) : Quoted quote true (quote :: us) (quote :: value)
  /-- Any other character `c` stands for itself, a line end in a long text only. -/
  | char {long : Bool} {c : Char} {us value : List Char} (escapes : c ≠ '\\') (closes : c ≠ quote)
      (line : c = '\n' → long = true) (inside : Quoted quote long us value) :
      Quoted quote long (c :: us) (c :: value)

/-- The token that a character is on its own. -/
def sign? : Char → Option Token
  | '\x7b' => some .lbrace
  | '\x7d' => some .rbrace
  | ';' => some .semicolon
  | ',' => some .comma
  | '*' => some .star
  | _ => none

/-- Whether the token is a character on its own, a full stop apart. -/
def Token.isSign : Token → Bool
  | lbrace | rbrace | semicolon | comma | star => true
  | _ => false

theorem isSign_of_sign? {c : Char} {t : Token} (sign : sign? c = some t) : t.isSign := by
  unfold sign? at sign
  split at sign <;> cases sign <;> rfl

/-- Whether a number may start with `c` and go on with these `digits`. -/
def StartsNumber (c : Char) (digits : List Char) : Prop :=
  c.isDigit ∨ (c = '+' ∨ c = '-' ∨ c = '.') ∧ digits ≠ []

/-- The number with the `digits` after its first character `c`. -/
def wholeNumber (c : Char) (digits : List Char) : Token :=
  if c = '.' then .decimal (String.ofList (c :: digits)) else .integer (String.ofList (c :: digits))

/-- The label of a prefixed name: name characters, of which the first is alphabetic. -/
def isLabel (label : List Char) : Bool :=
  label.head?.all isAlphabetic && label.all isNameChar

/-- The characters spell the lexeme if this follows them. -/
inductive Spells : List Char → Lexeme → List Char → Prop where
  /-- A blank. -/
  | blank {c : Char} {rest : List Char} (blank : isBlank c = true) : Spells [c] .gap rest
  /-- A comment goes to the end of its line. -/
  | comment {body rest : List Char} (inside : ∀ c ∈ body, c ≠ '\n')
      (ends : ∀ c ∈ rest.head?, c = '\n') : Spells ('#' :: body) .gap rest
  /-- A brace, a semicolon, a comma or an asterisk. -/
  | sign {c : Char} {t : Token} {rest : List Char} (sign : sign? c = some t) :
      Spells [c] (.token t) rest
  /-- A full stop. -/
  | dot {rest : List Char} (ends : startsWithDigit rest = false) :
      Spells ['.'] (.token .dot) rest
  /-- An IRI, which is `value`. -/
  | iri {value : String} {rest : List Char} (ok : isIriText value) :
      Spells ('<' :: (value.toList ++ ['>'])) (.token (.iri value)) rest
  /-- A variable. -/
  | var {mark : Char} {name : String} {rest : List Char} (marked : mark = '?' ∨ mark = '$')
      (ok : isName name) (ends : Stops isNameChar rest) :
      Spells (mark :: name.toList) (.token (.var name)) rest
  /-- A text in single or double quotes. Two quotes are an empty text unless a third follows. -/
  | string {quote : Char} {us value rest : List Char} (quotes : quote = '"' ∨ quote = '\'')
      (inside : Quoted quote false us value) (short : us = [quote] → rest.head? ≠ some quote) :
      Spells (quote :: us) (.token (.string (String.ofList value))) rest
  /-- A text in triple quotes. -/
  | longString {quote : Char} {us value rest : List Char} (quotes : quote = '"' ∨ quote = '\'')
      (inside : Quoted quote true us value) :
      Spells (quote :: quote :: quote :: us) (.token (.string (String.ofList value))) rest
  /-- A language tag. -/
  | langTag {tag : String} {rest : List Char} (ok : isTag tag) (ends : Stops isTagChar rest) :
      Spells ('@' :: tag.toList) (.token (.langTag tag)) rest
  /-- Two carets. -/
  | datatypeMarker {rest : List Char} : Spells ['^', '^'] (.token .datatypeMarker) rest
  /-- A blank node. -/
  | blankNode {label : String} {rest : List Char} (ok : isName label)
      (ends : Stops isNameChar rest) :
      Spells ('_' :: ':' :: label.toList) (.token (.blankNode label)) rest
  /-- A number without a point. No point with a digit after it follows. -/
  | integer {c : Char} {digits rest : List Char} (starts : StartsNumber c digits) (whole : c ≠ '.')
      (all : ∀ d ∈ digits, d.isDigit) (ends : Stops Char.isDigit rest)
      (noPoint : ∀ tail, rest = '.' :: tail → startsWithDigit tail = false) :
      Spells (c :: digits) (.token (.integer (String.ofList (c :: digits)))) rest
  /-- A number that begins with its point. -/
  | decimal {digits rest : List Char} (inhabited : digits ≠ []) (all : ∀ d ∈ digits, d.isDigit)
      (ends : Stops Char.isDigit rest)
      (noPoint : ∀ tail, rest = '.' :: tail → startsWithDigit tail = false) :
      Spells ('.' :: digits) (.token (.decimal (String.ofList ('.' :: digits)))) rest
  /-- A number that goes on with a point and decimals. -/
  | fraction {c : Char} {digits decimals rest : List Char} (starts : StartsNumber c digits)
      (all : ∀ d ∈ digits, d.isDigit) (inhabited : decimals ≠ [])
      (allDecimals : ∀ d ∈ decimals, d.isDigit) (ends : Stops Char.isDigit rest) :
      Spells (c :: (digits ++ '.' :: decimals))
        (.token (.decimal (String.ofList (c :: (digits ++ '.' :: decimals))))) rest
  /-- A word. No colon follows. -/
  | word {word rest : List Char} (inhabited : word ≠ []) (ok : isLabel word)
      (ends : Stops isNameChar rest) (noColon : rest.head? ≠ some ':') :
      Spells word (.token (.word (String.ofList word))) rest
  /-- A prefixed name, which does not end with a dot. -/
  | prefixedName {label suffix rest : List Char} (ok : isLabel label)
      (all : ∀ c ∈ suffix, isLocalChar c) (noDot : suffix.getLast? ≠ some '.')
      (ends : Stops isLocalChar (rest.dropWhile (· == '.'))) :
      Spells (label ++ ':' :: suffix)
        (.token (.prefixedName (String.ofList label) (String.ofList suffix))) rest

/-! ### Classes of characters -/

theorem of_isName {name : String} (ok : isName name) :
    name.toList ≠ [] ∧ ∀ c ∈ name.toList, isNameChar c := by
  simpa [isName] using ok

theorem of_isTag {tag : String} (ok : isTag tag) :
    tag.toList ≠ [] ∧ ∀ c ∈ tag.toList, isTagChar c := by
  simpa [isTag] using ok

theorem of_isIriText {value : String} (ok : isIriText value) :
    (∀ c ∈ value.toList, c ≠ '>') ∧ ∀ c ∈ value.toList, isBlank c = false := by
  simp only [isIriText, List.all_eq_true, Bool.and_eq_true, bne_iff_ne, Bool.not_eq_true'] at ok
  exact ⟨fun c listed => (ok c listed).1, fun c listed => (ok c listed).2⟩

/-- The blanks, of which there are few. -/
def blanks : List Char :=
  [0x09, 0x0a, 0x0b, 0x0c, 0x0d, 0x20, 0x85, 0xa0, 0x1680, 0x2000, 0x2001, 0x2002, 0x2003, 0x2004,
    0x2005, 0x2006, 0x2007, 0x2008, 0x2009, 0x200a, 0x2028, 0x2029, 0x202f, 0x205f,
    0x3000].map Char.ofNat

theorem mem_blanks (blank : isBlank c) : c ∈ blanks := by
  -- The class is given by code points and ranges of them, all of which are listed.
  simp only [isBlank, Bool.or_eq_true, Bool.and_eq_true, beq_iff_eq, decide_eq_true_eq, Char.le_def,
    UInt32.le_iff_toNat_le, ← Char.toNat_inj, Char.toNat, Char.reduceVal,
    UInt32.reduceToNat] at blank
  rw [← Char.ofNat_toNat c]
  refine List.mem_map_of_mem ?_
  simp only [List.mem_cons, List.not_mem_nil, or_false, Char.toNat]
  omega

/-- A character `c` of a class is none outside of it, such as `d`. -/
theorem ne_of_class {d : Char} (ok : p c) (other : p d = false) : c ≠ d := by
  rintro rfl
  rw [ok] at other
  cases other

/-- A class of characters, of which `c` is one, holds no blank if it holds none of `blanks`. -/
theorem not_isBlank_of_class (ok : p c) (others : blanks.all (!p ·)) : isBlank c = false := by
  rw [Bool.eq_false_iff]
  intro blank
  have other := List.all_eq_true.1 others c (mem_blanks blank)
  exact ne_of_class ok (by simpa using other) rfl

theorem not_isBlank_of_isLocalChar (ok : isLocalChar c) : isBlank c = false :=
  not_isBlank_of_class ok (by decide +kernel)

theorem isNameChar_of_isAlphabetic (alphabetic : isAlphabetic c) : isNameChar c := by
  simp [isNameChar, isAlphanumeric, alphabetic]

theorem not_isDigit_of_isAlphabetic (alphabetic : isAlphabetic c) : c.isDigit = false := by
  -- There are only ten digits, and none of them is a letter.
  have digits : ∀ n < 58, 48 ≤ n → isAlphabetic (Char.ofNat n) = false := by decide +kernel
  rw [Bool.eq_false_iff, Ne, Char.isDigit_iff_toNat]
  rintro ⟨low, high⟩
  have off := digits c.toNat (Nat.lt_succ_of_le high) low
  rw [Char.ofNat_toNat, alphabetic] at off
  cases off

theorem lexeme_alphabetic (alphabetic : isAlphabetic c) : lexeme c cs = wordOrName c cs := by
  have solid : isBlank c = false := not_isBlank_of_isLocalChar
    (by simp [isLocalChar, isNameChar_of_isAlphabetic alphabetic])
  -- The branch for words is the last, and each of those before it is for other characters.
  have other {d : Char} (off : isAlphabetic d = false) : c ≠ d := ne_of_class alphabetic off
  simp only [lexeme, solid, not_isDigit_of_isAlphabetic alphabetic, alphabetic, true_or, if_true,
    other (d := '#') (by decide), other (d := '\x7b') (by decide),
    other (d := '\x7d') (by decide), other (d := '.') (by decide), other (d := ';') (by decide),
    other (d := ',') (by decide), other (d := '*') (by decide), other (d := '<') (by decide),
    other (d := '?') (by decide), other (d := '$') (by decide), other (d := '"') (by decide),
    other (d := '\'') (by decide), other (d := '@') (by decide), other (d := '^') (by decide),
    other (d := '_') (by decide), other (d := '+') (by decide), other (d := '-') (by decide),
    Bool.false_eq_true, false_and, or_self, if_false]

/-! ### Names and digits -/

theorem stops_dropWhile (p : Char → Bool) (cs : List Char) : Stops p (cs.dropWhile p) := by
  intro c first
  have head := List.head?_dropWhile_not p cs
  rw [Option.mem_def.1 first] at head
  simpa using head

theorem takeWhile_stops (all : ∀ c ∈ name, p c) (ends : Stops p rest) :
    (name ++ rest).takeWhile p = name := by
  rw [List.takeWhile_append_of_pos all]
  cases rest with
  | nil => simp
  | cons c rest => simp [ends c rfl]

theorem dropWhile_stops (all : ∀ c ∈ name, p c) (ends : Stops p rest) :
    (name ++ rest).dropWhile p = rest := by
  rw [List.dropWhile_append_of_pos all]
  cases rest with
  | nil => rfl
  | cons c rest => simp [ends c rfl]

/-- What comes before a closing bracket, and the rest from the bracket on. -/
theorem takeWhile_bracket (inside : ∀ c ∈ name, c ≠ '>') (rest : List Char) :
    (name ++ '>' :: rest).takeWhile (· != '>') = name ∧
      (name ++ '>' :: rest).dropWhile (· != '>') = '>' :: rest := by
  have all : ∀ c ∈ name, (c != '>') = true := fun c listed => bne_iff_ne.2 (inside c listed)
  rw [List.takeWhile_append_of_pos all, List.dropWhile_append_of_pos all]
  simp

theorem isName_of_mem {name : String} (inhabited : name.toList ≠ [])
    (all : ∀ c ∈ name.toList, isNameChar c) : isName name := by
  simp only [isName, Bool.and_eq_true, Bool.not_eq_true', List.isEmpty_eq_false_iff,
    List.all_eq_true]
  exact ⟨inhabited, all⟩

theorem isTag_of_mem {tag : String} (inhabited : tag.toList ≠ [])
    (all : ∀ c ∈ tag.toList, isTagChar c) : isTag tag := by
  simp only [isTag, Bool.and_eq_true, Bool.not_eq_true', List.isEmpty_eq_false_iff,
    List.all_eq_true]
  exact ⟨inhabited, all⟩

theorem reverse_of_all_eq {dots : List Char} (all : ∀ d ∈ dots, d = c) : dots.reverse = dots := by
  rw [List.eq_replicate_of_mem all, List.reverse_replicate]

/-- The name at the start of `cs` goes up to the dots at its end, which are left to the rest. -/
theorem localName_eq : localName cs =
    (String.ofList ((cs.takeWhile isLocalChar).rdropWhile (· == '.')),
      (cs.takeWhile isLocalChar).rtakeWhile (· == '.') ++ cs.dropWhile isLocalChar) := by
  have parts := List.rdropWhile_append_rtakeWhile (p := (· == '.')) (l := cs.takeWhile isLocalChar)
  have dots : (cs.takeWhile isLocalChar).reverse.takeWhile (· == '.') =
      (cs.takeWhile isLocalChar).rtakeWhile (· == '.') :=
    (reverse_of_all_eq (c := '.') fun d inside => by simpa using List.mem_takeWhile_imp inside).symm
  rw [localName, dots]
  refine Prod.ext (congrArg String.ofList ?_) rfl
  -- All that counts now is that the two parts are the whole.
  generalize List.rtakeWhile _ _ = dots at parts
  generalize List.rdropWhile _ _ = kept at parts
  rw [← parts]
  simp

theorem stops_dot_of_stops (ends : Stops isLocalChar rest) : rest.dropWhile (· == '.') = rest := by
  cases rest with
  | nil => rfl
  | cons c rest =>
    have other : c ≠ '.' := by
      rintro rfl
      cases ends '.' rfl
    rw [List.dropWhile_cons_of_neg (by simpa using other)]

/-- Dots at the end belong to `rest`, which follows the name `suffix`. -/
theorem localName_eq_iff : localName cs = (String.ofList suffix, rest) ↔
    cs = suffix ++ rest ∧ (∀ c ∈ suffix, isLocalChar c) ∧ suffix.getLast? ≠ some '.' ∧
      Stops isLocalChar (rest.dropWhile (· == '.')) := by
  constructor
  · intro read
    rw [localName_eq, Prod.mk.injEq, String.ofList_inj] at read
    obtain ⟨rfl, rfl⟩ := read
    have parts :=
      List.rdropWhile_append_rtakeWhile (p := (· == '.')) (l := cs.takeWhile isLocalChar)
    refine ⟨?_, fun c inside => ?_, fun last => ?_, ?_⟩
    · rw [← List.append_assoc, parts, List.takeWhile_append_dropWhile]
    · exact List.mem_takeWhile_imp ((List.rdropWhile_prefix (· == '.') _).subset inside)
    · obtain ⟨inhabited, last⟩ := List.mem_getLast?_eq_getLast last
      exact List.rdropWhile_last_not (· == '.') _ inhabited (by rw [← last]; rfl)
    · rw [List.dropWhile_append_of_pos (p := (· == '.')) fun c => List.mem_rtakeWhile_imp,
        stops_dot_of_stops (stops_dropWhile isLocalChar cs)]
      exact stops_dropWhile isLocalChar cs
  · rintro ⟨rfl, all, noDot, ends⟩
    have dots : ∀ d ∈ rest.takeWhile (· == '.'), d = '.' := fun d inside => by
      simpa using List.mem_takeWhile_imp inside
    have body : ∀ c ∈ suffix ++ rest.takeWhile (· == '.'), isLocalChar c := by
      intro c inside
      rcases List.mem_append.1 inside with inside | dot
      · exact all c inside
      · rw [dots c dot]
        decide
    have cut := List.takeWhile_append_dropWhile (p := (· == '.')) (l := rest)
    have text : suffix ++ rest =
        suffix ++ rest.takeWhile (· == '.') ++ rest.dropWhile (· == '.') := by
      rw [List.append_assoc, cut]
    -- The reader goes on over the dots that follow the name, and then gives those back.
    have kept : (suffix ++ rest.takeWhile (· == '.')).reverse.takeWhile (· == '.') =
        rest.takeWhile (· == '.') := by
      rw [List.reverse_append, reverse_of_all_eq dots]
      refine takeWhile_stops (p := (· == '.')) (fun c => List.mem_takeWhile_imp) fun c first => ?_
      rw [List.head?_reverse] at first
      rw [beq_eq_false_iff_ne]
      rintro rfl
      exact noDot first
    rw [localName, text, takeWhile_stops body ends, dropWhile_stops body ends, kept, cut]
    simp

theorem startsWithDigit_of_stops (ends : Stops Char.isDigit rest) :
    startsWithDigit rest = false := by
  cases rest with
  | nil => rfl
  | cons d rest => exact ends d rfl

theorem startsWithDigit_takeWhile :
    startsWithDigit cs = !(cs.takeWhile Char.isDigit).isEmpty := by
  cases cs with
  | nil => rfl
  | cons c cs => cases digit : c.isDigit <;> simp [startsWithDigit, digit]

theorem lexeme_digit (digit : c.isDigit) :
    lexeme c cs = one (number c cs).1 (number c cs).2 := by
  rw [Char.isDigit_iff_toNat] at digit
  -- The reader looks at the first character as such, so that each digit is tried.
  have ten : c.toNat = 48 ∨ c.toNat = 49 ∨ c.toNat = 50 ∨ c.toNat = 51 ∨ c.toNat = 52 ∨
      c.toNat = 53 ∨ c.toNat = 54 ∨ c.toNat = 55 ∨ c.toNat = 56 ∨ c.toNat = 57 := by
    simp only [show '0'.toNat = 48 from rfl, show '9'.toNat = 57 from rfl] at digit
    omega
  rw [← Char.ofNat_toNat c]
  rcases ten with ten | ten | ten | ten | ten | ten | ten | ten | ten | ten <;> rw [ten] <;> rfl

/-! ### Texts in quotes -/

theorem closing?_append {tail : List Char} (closes : closing? quote long rest = some tail) :
    ∃ marks, rest = marks ++ tail ∧ Quoted quote long (quote :: marks) [] := by
  unfold closing? at closes
  split at closes
  · rename_i isLong
    subst isLong
    split at closes
    · split at closes
      · rename_i same
        obtain ⟨rfl, rfl⟩ := same
        cases closes
        exact ⟨[_, _], rfl, .closeLong⟩
      · cases closes
    · cases closes
  · rename_i short
    cases closes
    rw [Bool.not_eq_true] at short
    subst short
    exact ⟨[], rfl, .close⟩

/-- A text `us` in triple quotes ends with them. -/
theorem three_le_length_of_quoted (inside : Quoted quote true us value) : 3 ≤ us.length := by
  -- Whether the text is long is an index of the grammar, which has to vary in the induction.
  generalize isLong : true = long at inside
  induction inside with
  | close => cases isLong
  | closeLong => exact Nat.le_refl _
  | escape _ ih | inner _ _ ih | char _ _ _ _ ih =>
    have := ih isLong
    simp only [List.length_cons]
    omega

theorem closing?_append_eq_none (inside : Quoted quote true us value) :
    closing? quote true (us ++ rest) = none ↔ closing? quote true us = none := by
  -- Two characters after the quote are enough to see whether it closes the text.
  have long := three_le_length_of_quoted inside
  match us, long with
  | d :: e :: us, _ => simp [closing?]

theorem quoted_of_stringBody (read : stringBody quote long cs = .ok (value, rest)) :
    ∃ us, cs = us ++ rest ∧ Quoted quote long us value := by
  fun_induction stringBody quote long cs generalizing value rest with
  | case1 | case2 | case6 => cases read
  | case3 e tail ih =>
    obtain ⟨r, inner, same⟩ := map_eq_ok_iff.1 read
    cases same
    obtain ⟨us, rfl, inside⟩ := ih inner
    exact ⟨'\\' :: e :: us, rfl, .escape inside⟩
  | case4 tail after closes =>
    cases read
    obtain ⟨marks, rfl, inside⟩ := closing?_append closes
    exact ⟨_ :: marks, rfl, inside⟩
  | case5 tail stays _ ih =>
    obtain ⟨r, inner, same⟩ := map_eq_ok_iff.1 read
    cases same
    obtain ⟨us, rfl, inside⟩ := ih inner
    -- A short text cannot go on after its quote.
    cases long with
    | false => cases stays
    | true => exact ⟨_ :: us, rfl, .inner ((closing?_append_eq_none inside).1 stays) inside⟩
  | case7 _ _ escapes closes line ih =>
    obtain ⟨r, inner, same⟩ := map_eq_ok_iff.1 read
    cases same
    obtain ⟨us, rfl, inside⟩ := ih inner
    refine ⟨_ :: us, rfl, .char escapes closes (fun isLine => ?_) inside⟩
    simpa [isLine] using line

theorem stringBody_of_quoted (quotes : quote ≠ '\\') (inside : Quoted quote long us value) :
    stringBody quote long (us ++ rest) = .ok (value, rest) := by
  induction inside with
  | close =>
    rw [List.singleton_append, stringBody.eq_def]
    simp [quotes, closing?]
  | closeLong =>
    rw [List.cons_append, stringBody.eq_def]
    simp [quotes, closing?]
  | escape inside ih =>
    rw [List.cons_append, List.cons_append, stringBody.eq_def]
    simp [ih, Except.map]
  | inner stays inside ih =>
    rw [List.cons_append, stringBody.eq_def]
    simp [quotes, (closing?_append_eq_none inside).2 stays, ih, Except.map]
  | char escapes closes line inside ih =>
    rw [List.cons_append, stringBody.eq_def]
    simp [escapes, closes, ih, Except.map]
    exact line

/-! ### What the lexer reads -/

/-- What `step` reads after `c` is spelled by it and the characters up to the rest. -/
def Reads (c : Char) (cs : List Char) (step : Step) : Prop :=
  ∀ l rest, step = .ok (l, rest) → ∃ us, cs = us ++ rest ∧ Spells (c :: us) l rest

namespace Reads

theorem error {e : SyntaxError} : Reads c cs (.error e) := nofun

theorem one (us : List Char) (spells : Spells (c :: us) (.token t) rest) :
    Reads c (us ++ rest) (one t rest) := by
  rintro l _ ⟨⟩
  exact ⟨us, rfl, spells⟩

theorem ite {q : Prop} [Decidable q] {x y : Step} (left : q → Reads c cs x)
    (right : ¬q → Reads c cs y) : Reads c cs (if q then x else y) := by
  by_cases h : q
  · rw [if_pos h]
    exact left h
  · rw [if_neg h]
    exact right h

theorem named (us : List Char) {make : String → Token} {missing : SyntaxError}
    (spells : ∀ name : String, name.toList ≠ [] → (∀ d ∈ name.toList, p d) →
      ∀ rest, Stops p rest → Spells (c :: (us ++ name.toList)) (.token (make name)) rest) :
    Reads c (us ++ cs) (named p make missing cs) := by
  refine .ite (fun _ => .error) fun inhabited => ?_
  have cut := List.takeWhile_append_dropWhile (p := p) (l := cs)
  have spelled := spells (String.ofList (cs.takeWhile p)) (by simpa using inhabited)
    (fun d inside => List.mem_takeWhile_imp (by simpa using inside)) _ (stops_dropWhile p cs)
  rw [String.toList_ofList] at spelled
  have read := Reads.one _ spelled
  rw [List.append_assoc, cut] at read
  exact read

theorem bracketedIri : Reads '<' cs (bracketedIri cs) := by
  have cut := List.takeWhile_append_dropWhile (p := (· != '>')) (l := cs)
  have inside : ∀ d ∈ cs.takeWhile (· != '>'), d ≠ '>' := fun d inside => by
    simpa using List.mem_takeWhile_imp inside
  unfold Sparql.bracketedIri
  split
  · exact .error
  rename_i d rest after
  refine .ite (fun _ => .error) fun solid => ?_
  -- The text before the bracket ends where a bracket is, and nowhere else.
  obtain rfl : d = '>' := by
    have stops := stops_dropWhile (· != '>') cs
    rw [after] at stops
    simpa using stops d rfl
  have ok : isIriText (String.ofList (cs.takeWhile (· != '>'))) := by
    simp only [Bool.not_eq_true, List.any_eq_false] at solid
    simp only [isIriText, String.toList_ofList, List.all_eq_true, Bool.and_eq_true, bne_iff_ne,
      Bool.not_eq_true']
    exact fun d listed => ⟨inside d listed, solid d listed⟩
  have spelled : Spells _ _ rest := .iri ok
  rw [String.toList_ofList] at spelled
  have read := Reads.one _ spelled
  rw [List.append_assoc, List.singleton_append, ← after, cut] at read
  exact read

theorem quotedString (quotes : c = '"' ∨ c = '\'') : Reads c cs
    ((quotedString c cs).map fun r => (.token (.string (String.ofList r.1)), r.2)) := by
  rintro l _ found
  obtain ⟨⟨value, rest⟩, read, same⟩ := map_eq_ok_iff.1 found
  cases same
  -- What does not open with three quotes is read as a short text, be it empty or not.
  have short (read : stringBody c false cs = .ok (value, rest))
      (notLong : ∀ tail, cs ≠ c :: c :: tail) :
      ∃ us, cs = us ++ rest ∧ Spells (c :: us) (.token (.string (String.ofList value))) rest := by
    obtain ⟨us, rfl, inside⟩ := quoted_of_stringBody read
    refine ⟨us, rfl, .string quotes inside ?_⟩
    rintro rfl third
    obtain ⟨tail, rfl⟩ := List.head?_eq_some_iff.1 third
    exact notLong tail rfl
  unfold Sparql.quotedString at read
  split at read
  · rename_i d e tail
    split at read
    · rename_i opens
      obtain ⟨rfl, rfl⟩ := opens
      obtain ⟨us, rfl, inside⟩ := quoted_of_stringBody read
      exact ⟨_ :: _ :: us, rfl, .longString quotes inside⟩
    · rename_i opens
      refine short read fun tail same => opens ?_
      cases same
      exact ⟨rfl, rfl⟩
  · rename_i opens
    exact short read fun tail same => opens c c tail same

theorem secondCaret : Reads '^' cs (secondCaret cs) := by
  cases cs with
  | nil => exact .error
  | cons d rest =>
    refine .ite (fun caret => ?_) fun _ => .error
    subst caret
    exact .one ['^'] .datatypeMarker

theorem number (starts : c.isDigit ∨ (c = '+' ∨ c = '-' ∨ c = '.') ∧ startsWithDigit cs) :
    Reads c cs (Sparql.one (number c cs).1 (number c cs).2) := by
  have cut := List.takeWhile_append_dropWhile (p := Char.isDigit) (l := cs)
  have all : ∀ d ∈ cs.takeWhile Char.isDigit, d.isDigit := fun d => List.mem_takeWhile_imp
  have ends := stops_dropWhile Char.isDigit cs
  replace starts : StartsNumber c (cs.takeWhile Char.isDigit) := by
    rw [startsWithDigit_takeWhile] at starts
    simpa [StartsNumber] using starts
  -- Unless a point with a digit follows, the number ends here.
  have whole (noPoint : ∀ tail, cs.dropWhile Char.isDigit = '.' :: tail →
      startsWithDigit tail = false) : Reads c cs
        (Sparql.one (wholeNumber c (cs.takeWhile Char.isDigit)) (cs.dropWhile Char.isDigit)) := by
    unfold wholeNumber
    split
    · rename_i point
      subst point
      have inhabited := (starts.resolve_left (by decide)).2
      have read := Reads.one _ (Spells.decimal inhabited all ends noPoint)
      rwa [cut] at read
    · rename_i point
      have read := Reads.one _ (Spells.integer starts point all ends noPoint)
      rwa [cut] at read
  unfold Sparql.number
  split
  · rename_i rest after
    rw [after] at whole cut
    split
    · rename_i point
      have decimals := List.takeWhile_append_dropWhile (p := Char.isDigit) (l := rest)
      rw [startsWithDigit_takeWhile] at point
      have read := Reads.one _ (Spells.fraction starts all (by simpa using point)
        (fun d => List.mem_takeWhile_imp) (stops_dropWhile Char.isDigit rest))
      rw [List.append_assoc, List.cons_append, decimals, cut] at read
      exact read
    · rename_i noPoint
      refine whole fun tail same => ?_
      cases same
      exact Bool.eq_false_iff.2 noPoint
  · rename_i noPoint
    exact whole fun tail after => absurd after (noPoint tail)

theorem prefixedName (us : List Char) {label : List Char} (ok : isLabel label)
    (text : c :: us = label ++ [':']) (cs : List Char) :
    Reads c (us ++ cs) (Sparql.one (.prefixedName (String.ofList label) (localName cs).1)
      (localName cs).2) := by
  have same : localName cs = (String.ofList (localName cs).1.toList, (localName cs).2) := by
    rw [String.ofList_toList]
  obtain ⟨cut, all, noDot, ends⟩ := localName_eq_iff.1 same
  have spelled := Spells.prefixedName ok all noDot ends
  rw [List.append_cons, ← text, String.ofList_toList, List.cons_append] at spelled
  have read := Reads.one _ spelled
  rw [List.append_assoc, ← cut] at read
  exact read

theorem wordOrName (starts : isAlphabetic c ∨ c = ':') : Reads c cs (wordOrName c cs) := by
  by_cases colon : c = ':'
  · subst colon
    have read : Sparql.wordOrName ':' cs =
        Sparql.one (.prefixedName (String.ofList []) (localName cs).1) (localName cs).2 := rfl
    rw [read]
    exact .prefixedName [] rfl rfl cs
  have alphabetic := starts.resolve_right colon
  have cut := List.takeWhile_append_dropWhile (p := isNameChar) (l := cs)
  have ends := stops_dropWhile isNameChar cs
  have ok : isLabel (c :: cs.takeWhile isNameChar) := by
    simp only [isLabel, List.head?_cons, Option.all_some, alphabetic, Bool.true_and,
      List.all_eq_true]
    intro d inside
    rcases List.mem_cons.1 inside with rfl | inside
    · exact isNameChar_of_isAlphabetic alphabetic
    · exact List.mem_takeWhile_imp inside
  -- Unless a colon follows, the name characters are a word.
  have word (noColon : (cs.dropWhile isNameChar).head? ≠ some ':') : Reads c cs
      (Sparql.one (.word (String.ofList (c :: cs.takeWhile isNameChar)))
        (cs.dropWhile isNameChar)) := by
    have read := Reads.one _ (Spells.word (List.cons_ne_nil c _) ok ends noColon)
    rwa [cut] at read
  simp only [Sparql.wordOrName, run,
    List.takeWhile_cons_of_pos (isNameChar_of_isAlphabetic alphabetic),
    List.dropWhile_cons_of_pos (isNameChar_of_isAlphabetic alphabetic)]
  split
  · rename_i after
    rw [after] at word
    exact word (by simp)
  · rename_i d tail after
    rw [after] at word cut
    refine .ite (fun colon => ?_) fun noColon => word (by simpa using noColon)
    subst colon
    have read := Reads.prefixedName (cs.takeWhile isNameChar ++ [':']) ok rfl tail
    rw [List.append_assoc, List.singleton_append, cut] at read
    exact read

end Reads

/-- What the lexer reads is spelled by the characters `us` that it takes after `c`. -/
theorem spells_of_lexeme (read : lexeme c cs = .ok (l, rest)) :
    ∃ us, cs = us ++ rest ∧ Spells (c :: us) l rest := by
  refine (?_ : Reads c cs (lexeme c cs)) l rest read
  have sign (t : Token) (sign : sign? c = some t) : Reads c cs (one t cs) :=
    .one [] (.sign sign)
  -- The branches of the lexer, in its order.
  refine .ite (fun blank => ?_) fun _ => ?_
  · rintro l _ ⟨⟩
    exact ⟨[], rfl, .blank blank⟩
  refine .ite (fun hash => ?_) fun _ => ?_
  · subst hash
    rintro l _ ⟨⟩
    refine ⟨cs.takeWhile (· != '\n'), List.takeWhile_append_dropWhile.symm,
      .comment (fun d inside => by simpa using List.mem_takeWhile_imp inside) fun d first => ?_⟩
    simpa using stops_dropWhile (· != '\n') cs d first
  refine .ite (fun brace => sign _ (by rw [brace]; rfl)) fun _ => ?_
  refine .ite (fun brace => sign _ (by rw [brace]; rfl)) fun _ => ?_
  refine .ite (fun dot => ?_) fun _ => ?_
  · obtain ⟨rfl, ends⟩ := dot
    exact .one [] (.dot (by simpa using ends))
  refine .ite (fun semicolon => sign _ (by rw [semicolon]; rfl)) fun _ => ?_
  refine .ite (fun comma => sign _ (by rw [comma]; rfl)) fun _ => ?_
  refine .ite (fun star => sign _ (by rw [star]; rfl)) fun _ => ?_
  refine .ite (fun angle => angle ▸ .bracketedIri) fun _ => ?_
  refine .ite (fun marked => ?_) fun _ => ?_
  · exact .named [] fun name inhabited all rest ends =>
      .var marked (isName_of_mem inhabited all) ends
  refine .ite (fun quotes => .quotedString quotes) fun _ => ?_
  refine .ite (fun at_ => ?_) fun _ => ?_
  · subst at_
    exact .named [] fun name inhabited all rest ends =>
      .langTag (isTag_of_mem inhabited all) ends
  refine .ite (fun caret => caret ▸ .secondCaret) fun _ => ?_
  refine .ite (fun blankNode => ?_) fun _ => ?_
  · obtain ⟨rfl, colon⟩ := blankNode
    obtain ⟨tail, rfl⟩ := List.head?_eq_some_iff.1 colon
    exact .named [':'] fun name inhabited all rest ends =>
      .blankNode (isName_of_mem inhabited all) ends
  refine .ite (fun starts => .number starts) fun _ => ?_
  exact .ite (fun starts => .wordOrName starts) fun _ => .error

end GraphBroker.Sparql

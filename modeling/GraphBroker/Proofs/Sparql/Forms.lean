import GraphBroker.Proofs.Sparql.Segments
import Mathlib.Computability.RegularExpressions

/-!
# The forms of tokens

Each kind of token has a form. Names and tags are over characters of their own, an IRI has neither
a closing bracket nor a blank, a word begins with a letter, and numbers are written as integers or
decimals. The lexer keeps to these forms but for one kind of text: a number that begins with its
point may go on with another point. `1.5.6` is read as the two numbers `1.5` and `.6`, while `.5.6`
is read as one.

## Main definitions

* `Form.integer`, `Form.decimal`: how numbers are written.
* `Form.xsdDecimal`: the lexical forms of the decimals of XML Schema.
* `Token.HasForm`: the token is written as its kind is.
* `Token.PointsTwice`: the token is a number that begins with its point and goes on with another.

## Main statements

* `hasForm_iff_of_spells`: what the lexer takes for a token has its form unless it points twice.
* `pointsTwice_iff_of_spells`: this can be told from the characters that the token is read from.
-/

namespace GraphBroker

/-! ### How numbers are written -/

namespace Form

open RegularExpression

/-- One of the characters `cs`. -/
def oneOf (cs : List Char) : RegularExpression Char :=
  (cs.map char).sum

/-- A digit: `[0-9]`. -/
def digit : RegularExpression Char :=
  oneOf "0123456789".toList

/-- Digits, at least one: `[0-9]+`. -/
def digits : RegularExpression Char :=
  digit * star digit

/-- A sign, which may be missing: `[+-]?`. -/
def sign : RegularExpression Char :=
  1 + oneOf ['+', '-']

/-- A number without a point: `[+-]?[0-9]+`. The lexical forms of the integers of XML Schema are
the same. -/
def integer : RegularExpression Char :=
  sign * digits

/-- A number with a point: `[+-]?[0-9]*\.[0-9]+`. -/
def decimal : RegularExpression Char :=
  sign * (star digit * (char '.' * digits))

/-- A number that begins with its point and goes on with another: `\.[0-9]+\.[0-9]+`. -/
def twoPoints : RegularExpression Char :=
  char '.' * (digits * (char '.' * digits))

/-- The lexical forms of the decimals of XML Schema: `[+-]?([0-9]+(\.[0-9]*)?|\.[0-9]+)`. -/
def xsdDecimal : RegularExpression Char :=
  sign * (digits * (1 + char '.' * star digit) + char '.' * digits)

variable {c : Char} {cs us w : List Char} {P Q : RegularExpression Char}

theorem mem_oneOf : w ∈ (oneOf cs).matches' ↔ ∃ c ∈ cs, w = [c] := by
  induction cs with
  | nil => simp [oneOf]
  | cons d cs ih =>
    rw [oneOf, List.map_cons, List.sum_cons, matches'_add, Language.mem_add,
      List.exists_mem_cons_iff]
    exact or_congr Iff.rfl ih

theorem mem_digitChars : c ∈ "0123456789".toList ↔ c.isDigit := by
  constructor
  · have all : "0123456789".toList.all Char.isDigit := by decide
    exact List.all_eq_true.1 all c
  · intro digit
    obtain ⟨low, high⟩ := Char.isDigit_iff_toNat.1 digit
    have all : ∀ n < 58, 48 ≤ n → Char.ofNat n ∈ "0123456789".toList := by decide
    rw [← Char.ofNat_toNat c]
    exact all _ (Nat.lt_succ_of_le high) low

theorem mem_star_digit : w ∈ (star digit).matches' ↔ ∀ c ∈ w, c.isDigit := by
  constructor
  · rintro parts c listed
    obtain ⟨words, rfl, each⟩ := Language.mem_kstar.1 parts
    obtain ⟨word, isWord, inside⟩ := List.mem_flatten.1 listed
    obtain ⟨d, isDigit, rfl⟩ := mem_oneOf.1 (each word isWord)
    rw [List.mem_singleton.1 inside]
    exact mem_digitChars.1 isDigit
  · intro all
    refine Language.mem_kstar.2 ⟨w.map fun c => [c], ?_, fun word isWord => ?_⟩
    · rw [← List.flatMap_def, List.flatMap_singleton']
    obtain ⟨c, listed, rfl⟩ := List.mem_map.1 isWord
    exact mem_oneOf.2 ⟨c, mem_digitChars.2 (all c listed), rfl⟩

theorem mem_digits : w ∈ digits.matches' ↔ w ≠ [] ∧ ∀ c ∈ w, c.isDigit := by
  constructor
  · intro parts
    obtain ⟨first, isFirst, rest, isRest, rfl⟩ := Language.mem_mul.1 parts
    obtain ⟨c, isDigit, rfl⟩ := mem_oneOf.1 isFirst
    refine ⟨List.cons_ne_nil c rest, List.forall_mem_cons.2 ⟨mem_digitChars.1 isDigit, ?_⟩⟩
    exact mem_star_digit.1 isRest
  · rintro ⟨inhabited, all⟩
    obtain ⟨c, rest, rfl⟩ := List.exists_cons_of_ne_nil inhabited
    obtain ⟨isDigit, isRest⟩ := List.forall_mem_cons.1 all
    exact Language.mem_mul.2
      ⟨[c], mem_oneOf.2 ⟨c, mem_digitChars.2 isDigit, rfl⟩, rest, mem_star_digit.2 isRest, rfl⟩

theorem mem_sign : w ∈ sign.matches' ↔ w = [] ∨ w = ['+'] ∨ w = ['-'] := by
  rw [sign, matches'_add, Language.mem_add, mem_oneOf]
  simp [Language.mem_one]

/-- What begins with the character `c` is that character and what follows it. -/
theorem mem_char_mul : w ∈ (char c * P).matches' ↔ ∃ us ∈ P.matches', w = c :: us := by
  constructor
  · intro parts
    obtain ⟨_, rfl, us, isRest, rfl⟩ := Language.mem_mul.1 parts
    exact ⟨us, isRest, rfl⟩
  · rintro ⟨us, isRest, rfl⟩
    exact Language.mem_mul.2 ⟨[c], rfl, us, isRest, rfl⟩

theorem cons_mem_char_mul (is : us ∈ P.matches') : c :: us ∈ (char c * P).matches' :=
  mem_char_mul.2 ⟨us, is, rfl⟩

theorem mem_decimal : w ∈ decimal.matches' ↔
    ∃ mark whole decimals, w = mark ++ (whole ++ '.' :: decimals) ∧
      mark ∈ sign.matches' ∧ (∀ c ∈ whole, c.isDigit) ∧ decimals ∈ digits.matches' := by
  constructor
  · intro parts
    obtain ⟨mark, isMark, _, isRest, rfl⟩ := Language.mem_mul.1 parts
    obtain ⟨whole, isWhole, _, isFraction, rfl⟩ := Language.mem_mul.1 isRest
    obtain ⟨decimals, areDecimals, rfl⟩ := mem_char_mul.1 isFraction
    exact ⟨mark, whole, decimals, rfl, isMark, mem_star_digit.1 isWhole, areDecimals⟩
  · rintro ⟨mark, whole, decimals, rfl, isMark, isWhole, areDecimals⟩
    exact Language.append_mem_mul isMark
      (Language.append_mem_mul (mem_star_digit.2 isWhole) (cons_mem_char_mul areDecimals))

theorem mem_twoPoints : w ∈ twoPoints.matches' ↔ ∃ us vs, w = '.' :: (us ++ '.' :: vs) ∧
    us ∈ digits.matches' ∧ vs ∈ digits.matches' := by
  constructor
  · intro parts
    obtain ⟨_, isRest, rfl⟩ := mem_char_mul.1 parts
    obtain ⟨us, isFirst, _, isFraction, rfl⟩ := Language.mem_mul.1 isRest
    obtain ⟨vs, isSecond, rfl⟩ := mem_char_mul.1 isFraction
    exact ⟨us, vs, rfl, isFirst, isSecond⟩
  · rintro ⟨us, vs, rfl, isFirst, isSecond⟩
    exact cons_mem_char_mul (Language.append_mem_mul isFirst (cons_mem_char_mul isSecond))

/-! ### Counting points -/

theorem count_of_all_isDigit (all : ∀ c ∈ w, c.isDigit) : w.count '.' = 0 := by
  refine List.count_eq_zero.2 fun listed => ?_
  exact absurd (all '.' listed) (by decide)

theorem count_of_mem_digits (are : w ∈ digits.matches') : w.count '.' = 0 :=
  count_of_all_isDigit (mem_digits.1 are).2

theorem count_of_mem_sign (is : w ∈ sign.matches') : w.count '.' = 0 := by
  obtain rfl | rfl | rfl := mem_sign.1 is <;> rfl

theorem count_of_mem_decimal (is : w ∈ decimal.matches') : w.count '.' = 1 := by
  obtain ⟨mark, whole, decimals, rfl, isMark, isWhole, areDecimals⟩ := mem_decimal.1 is
  rw [List.count_append, List.count_append, List.count_cons_self, count_of_mem_sign isMark,
    count_of_all_isDigit isWhole, count_of_mem_digits areDecimals]

theorem count_of_mem_twoPoints (is : w ∈ twoPoints.matches') : w.count '.' = 2 := by
  obtain ⟨us, vs, rfl, isFirst, isSecond⟩ := mem_twoPoints.1 is
  rw [List.count_cons_self, List.count_append, List.count_cons_self,
    count_of_mem_digits isFirst, count_of_mem_digits isSecond]

/-- A decimal of XML Schema has one point at most, as does each `w` that `xsdDecimal` matches. -/
theorem count_of_mem_xsdDecimal (is : w ∈ xsdDecimal.matches') : w.count '.' ≤ 1 := by
  obtain ⟨mark, isMark, rest, isRest, rfl⟩ := Language.mem_mul.1 is
  rw [List.count_append, count_of_mem_sign isMark, Nat.zero_add]
  rcases (Language.mem_add _ _ _).1 isRest with isRest | isRest
  · obtain ⟨whole, isWhole, tail, isTail, rfl⟩ := Language.mem_mul.1 isRest
    rw [List.count_append, count_of_mem_digits isWhole, Nat.zero_add]
    rcases (Language.mem_add _ _ _).1 isTail with none | isTail
    · rw [(Language.mem_one _).1 none]
      exact Nat.zero_le 1
    · obtain ⟨decimals, areDecimals, rfl⟩ := mem_char_mul.1 isTail
      rw [List.count_cons_self, count_of_all_isDigit (mem_star_digit.1 areDecimals)]
  · obtain ⟨decimals, areDecimals, rfl⟩ := mem_char_mul.1 isRest
    rw [List.count_cons_self, count_of_mem_digits areDecimals]

/-- Each number with a point, written like `decimal`, is written like a decimal of XML Schema. -/
theorem mem_xsdDecimal_of_mem_decimal (is : w ∈ decimal.matches') : w ∈ xsdDecimal.matches' := by
  obtain ⟨mark, whole, decimals, rfl, isMark, isWhole, areDecimals⟩ := mem_decimal.1 is
  refine Language.append_mem_mul isMark ((Language.mem_add _ _ _).2 ?_)
  -- The standard has the number without digits before its point apart.
  cases whole with
  | nil => exact .inr (cons_mem_char_mul areDecimals)
  | cons c whole =>
    have isInteger := mem_digits.2 ⟨List.cons_ne_nil c whole, isWhole⟩
    refine .inl (Language.append_mem_mul isInteger ((Language.mem_add _ _ _).2 (.inr ?_)))
    exact cons_mem_char_mul (mem_star_digit.2 (mem_digits.1 areDecimals).2)

end Form

namespace Sparql

open Text

variable {c : Char} {cs us rest digits decimals : List Char} {l : Lexeme} {t : Token}
  {ts : List Token} {segments : List Segment}

/-! ### What the lexer takes for a number -/

/-- Before its digits a number that begins with `c` has a sign, a digit, or nothing. -/
theorem StartsNumber.exists_sign (starts : StartsNumber c digits) (whole : c ≠ '.')
    (all : ∀ d ∈ digits, d.isDigit) : ∃ mark us, c :: digits = mark ++ us ∧
      mark ∈ Form.sign.matches' ∧ us ∈ Form.digits.matches' := by
  rcases starts with digit | ⟨rfl | rfl | rfl, inhabited⟩
  · exact ⟨[], c :: digits, rfl, Form.mem_sign.2 (.inl rfl),
      Form.mem_digits.2 ⟨List.cons_ne_nil c digits, List.forall_mem_cons.2 ⟨digit, all⟩⟩⟩
  · exact ⟨['+'], digits, rfl, Form.mem_sign.2 (.inr (.inl rfl)),
      Form.mem_digits.2 ⟨inhabited, all⟩⟩
  · exact ⟨['-'], digits, rfl, Form.mem_sign.2 (.inr (.inr rfl)),
      Form.mem_digits.2 ⟨inhabited, all⟩⟩
  · exact absurd rfl whole

theorem mem_integer (starts : StartsNumber c digits) (whole : c ≠ '.')
    (all : ∀ d ∈ digits, d.isDigit) : c :: digits ∈ Form.integer.matches' := by
  obtain ⟨mark, us, same, isMark, areDigits⟩ := starts.exists_sign whole all
  rw [same]
  exact Language.append_mem_mul isMark areDigits

theorem mem_decimal_of_point (inhabited : digits ≠ []) (all : ∀ d ∈ digits, d.isDigit) :
    '.' :: digits ∈ Form.decimal.matches' :=
  Form.mem_decimal.2 ⟨[], [], digits, rfl, Form.mem_sign.2 (.inl rfl), nofun,
    Form.mem_digits.2 ⟨inhabited, all⟩⟩

theorem mem_decimal_of_fraction (starts : StartsNumber c digits) (whole : c ≠ '.')
    (all : ∀ d ∈ digits, d.isDigit) (inhabited : decimals ≠ [])
    (allDecimals : ∀ d ∈ decimals, d.isDigit) :
    c :: (digits ++ '.' :: decimals) ∈ Form.decimal.matches' := by
  obtain ⟨mark, us, same, isMark, areDigits⟩ := starts.exists_sign whole all
  refine Form.mem_decimal.2 ⟨mark, us, decimals, ?_, isMark, (Form.mem_digits.1 areDigits).2,
    Form.mem_digits.2 ⟨inhabited, allDecimals⟩⟩
  rw [← List.cons_append, same, List.append_assoc]

/-- Where the number begins with its point, the second one is taken all the same, with the
`decimals` after it. -/
theorem mem_twoPoints_of_fraction (starts : StartsNumber '.' digits)
    (all : ∀ d ∈ digits, d.isDigit) (inhabited : decimals ≠ [])
    (allDecimals : ∀ d ∈ decimals, d.isDigit) :
    '.' :: (digits ++ '.' :: decimals) ∈ Form.twoPoints.matches' := by
  have inhabitedWhole : digits ≠ [] := (starts.resolve_left (by decide)).2
  exact Form.mem_twoPoints.2 ⟨digits, decimals, rfl, Form.mem_digits.2 ⟨inhabitedWhole, all⟩,
    Form.mem_digits.2 ⟨inhabited, allDecimals⟩⟩

/-! ### Tokens -/

namespace Token

/-- The token is written as its kind is. -/
def HasForm : Token → Prop
  | iri value => isIriText value
  | prefixedName _ suffix => suffix.toList.getLast? ≠ some '.'
  | var name => isName name
  | langTag tag => isTag tag
  | integer digits => digits.toList ∈ Form.integer.matches'
  | decimal digits => digits.toList ∈ Form.decimal.matches' ∧ digits.toList.count '.' = 1
  | blankNode label => isName label
  | word text => text.toList.head?.any isAlphabetic
  | _ => True

/-- The token is a number that begins with its point and goes on with another, as in `.5.6`. -/
def PointsTwice : Token → Prop
  | decimal digits => digits.toList ∈ Form.twoPoints.matches'
  | _ => False

instance : DecidablePred HasForm
  | iri value => inferInstanceAs (Decidable (isIriText value))
  | prefixedName _ suffix => inferInstanceAs (Decidable (suffix.toList.getLast? ≠ some '.'))
  | var name | blankNode name => inferInstanceAs (Decidable (isName name))
  | langTag tag => inferInstanceAs (Decidable (isTag tag))
  | integer digits => inferInstanceAs (Decidable (digits.toList ∈ Form.integer.matches'))
  | decimal digits => inferInstanceAs
      (Decidable (digits.toList ∈ Form.decimal.matches' ∧ digits.toList.count '.' = 1))
  | word text => inferInstanceAs (Decidable (text.toList.head?.any isAlphabetic))
  | string _ | datatypeMarker | lbrace | rbrace | dot | semicolon | comma | star => isTrue trivial

instance : DecidablePred PointsTwice
  | decimal digits => inferInstanceAs (Decidable (digits.toList ∈ Form.twoPoints.matches'))
  | iri _ | prefixedName _ _ | var _ | string _ | langTag _ | datatypeMarker | integer _
  | blankNode _ | word _ | lbrace | rbrace | dot | semicolon | comma | star => isFalse id

/-- If `t` is a number with two points it is not written as a decimal is. -/
theorem PointsTwice.not_hasForm (twice : t.PointsTwice) : ¬t.HasForm := by
  cases t with
  | decimal digits =>
    rintro ⟨-, once⟩
    rw [Form.count_of_mem_twoPoints twice] at once
    cases once
  | _ => exact twice.elim

example : ¬(Token.decimal ".5.6").HasForm := by decide +kernel

end Token

theorem hasForm_or_pointsTwice (spells : Spells us (.token t) rest) :
    t.HasForm ∨ t.PointsTwice := by
  cases spells with
  | sign sign =>
    unfold sign? at sign
    split at sign <;> cases sign <;> exact .inl trivial
  | dot | string | longString | datatypeMarker => exact .inl trivial
  | iri ok | var _ ok _ | langTag ok _ | blankNode ok _ => exact .inl ok
  | integer starts whole all _ _ =>
    refine .inl ?_
    rw [Token.HasForm, String.toList_ofList]
    exact mem_integer starts whole all
  | decimal inhabited all _ _ =>
    refine .inl ?_
    have is := mem_decimal_of_point inhabited all
    rw [Token.HasForm, String.toList_ofList]
    exact ⟨is, Form.count_of_mem_decimal is⟩
  | @fraction c digits decimals _ starts all inhabited allDecimals _ =>
    -- The fraction is taken whatever the number begins with, its point included.
    by_cases point : c = '.'
    · subst point
      refine .inr ?_
      rw [Token.PointsTwice, String.toList_ofList]
      exact mem_twoPoints_of_fraction starts all inhabited allDecimals
    · refine .inl ?_
      have is := mem_decimal_of_fraction starts point all inhabited allDecimals
      rw [Token.HasForm, String.toList_ofList]
      exact ⟨is, Form.count_of_mem_decimal is⟩
  | word inhabited ok _ _ =>
    obtain ⟨c, name, rfl⟩ := List.exists_cons_of_ne_nil inhabited
    refine .inl ?_
    rw [Token.HasForm, String.toList_ofList]
    exact (of_isLabel ok).1
  | prefixedName _ _ noDot _ =>
    refine .inl ?_
    rw [Token.HasForm, String.toList_ofList]
    exact noDot

/-- What the lexer takes for a token `t` has the form of its kind unless it `PointsTwice`. -/
theorem hasForm_iff_of_spells (spells : Spells us (.token t) rest) :
    t.HasForm ↔ ¬t.PointsTwice :=
  ⟨fun form twice => twice.not_hasForm form, (hasForm_or_pointsTwice spells).resolve_right⟩

/-! ### Where a number points twice -/

/-- What begins with a point and does not end there, with `us` after it, is a number. -/
theorem eq_decimal_of_point (spells : Spells ('.' :: us) l rest) (inhabited : us ≠ []) :
    l = .token (.decimal (String.ofList ('.' :: us))) := by
  -- Of the lexemes that have a first character of their own, none begins with a point.
  generalize same : '.' :: us = text at spells
  have other {d : Char} {tail : List Char} (off : '.' ≠ d) (same : '.' :: us = d :: tail) : False :=
    off (List.cons.inj same).1
  cases spells with
  | blank | dot => exact absurd (List.cons.inj same).2 inhabited
  | comment | iri | langTag | datatypeMarker | blankNode => exact (other (by decide) same).elim
  | sign => exact absurd (List.cons.inj same).2 inhabited
  | var marked =>
    rcases marked with rfl | rfl <;> exact (other (by decide) same).elim
  | string quotes | longString quotes =>
    rcases quotes with rfl | rfl <;> exact (other (by decide) same).elim
  | integer _ whole => exact absurd (List.cons.inj same).1.symm whole
  | decimal | fraction => rfl
  | word inhabited ok =>
    obtain ⟨c, name, rfl⟩ := List.exists_cons_of_ne_nil inhabited
    exact (other (ne_of_class (of_isLabel ok).1 (by decide)).symm same).elim
  | @prefixedName label suffix _ ok =>
    cases label with
    | nil => exact (other (by decide) same).elim
    | cons c name => exact (other (ne_of_class (of_isLabel ok).1 (by decide)).symm same).elim

/-- A number with a point is the characters `us` that it is read from. -/
theorem chars_of_decimal {digits : String} (spells : Spells us (.token (.decimal digits)) rest) :
    us = digits.toList := by
  cases spells with
  | sign sign =>
    unfold sign? at sign
    split at sign <;> cases sign
  | decimal | fraction => rw [String.toList_ofList]

/-- That a number `PointsTwice` can be told from the characters `us` that it is read from. -/
theorem pointsTwice_iff_of_spells (spells : Spells us l rest) :
    (∃ t, l = .token t ∧ t.PointsTwice) ↔ us ∈ Form.twoPoints.matches' := by
  constructor
  · rintro ⟨t, rfl, twice⟩
    cases t with
    | decimal digits =>
      rw [chars_of_decimal spells]
      exact twice
    | _ => exact twice.elim
  · intro twice
    obtain ⟨whole, decimals, rfl, -, -⟩ := Form.mem_twoPoints.1 twice
    have inhabited : whole ++ '.' :: decimals ≠ [] := by simp
    refine ⟨_, eq_decimal_of_point spells inhabited, ?_⟩
    rw [Token.PointsTwice, String.toList_ofList]
    exact twice

/-! ### Texts -/

theorem segmentsOf_of_lexeme (read : lexeme c cs = .ok (l, rest)) : segmentsOf (c :: cs) =
    (segmentsOf rest).map (⟨(c :: cs).take (cs.length + 1 - rest.length), l⟩ :: ·) := by
  rw [segmentsOf.eq_def]
  dsimp only
  split <;> rename_i found <;> rw [read] at found <;> cases found
  rfl

/-- If the text `cs` has tokens it has segments, and the tokens are theirs. -/
theorem exists_segmentsOf (read : tokensOf cs = .ok ts) :
    ∃ segments, segmentsOf cs = .ok segments ∧ tokensIn segments = ts := by
  fun_induction tokensOf cs generalizing ts with
  | case1 =>
    cases read
    exact ⟨[], by rw [segmentsOf.eq_def], rfl⟩
  | case2 => cases read
  | case3 c cs rest gap ih =>
    obtain ⟨segments, found, rfl⟩ := ih read
    rw [segmentsOf_of_lexeme gap, found]
    exact ⟨_, rfl, rfl⟩
  | case4 c cs t rest found ih =>
    obtain ⟨others, later, rfl⟩ := map_eq_ok_iff.1 read
    obtain ⟨segments, found', rfl⟩ := ih later
    rw [segmentsOf_of_lexeme found, found']
    exact ⟨_, rfl, rfl⟩

theorem Cut.exists_spells (cut : Cut segments) (listed : t ∈ tokensIn segments) :
    ∃ s ∈ segments, ∃ rest, Spells s.chars (.token t) rest := by
  obtain ⟨s, isSegment, token⟩ := mem_tokensIn.1 listed
  obtain ⟨rest, spells⟩ := cut.spells_of_mem isSegment
  rw [token] at spells
  exact ⟨s, isSegment, rest, spells⟩

theorem Cut.hasForm_iff (cut : Cut segments) (listed : t ∈ tokensIn segments) :
    t.HasForm ↔ ¬t.PointsTwice := by
  obtain ⟨s, -, rest, spells⟩ := cut.exists_spells listed
  exact hasForm_iff_of_spells spells

/-- All tokens of `segments` have their forms exactly if no segment points twice. -/
theorem Cut.forall_hasForm_iff (cut : Cut segments) : (∀ t ∈ tokensIn segments, t.HasForm) ↔
    ∀ s ∈ segments, s.chars ∉ Form.twoPoints.matches' := by
  constructor
  · intro form s isSegment twice
    obtain ⟨rest, spells⟩ := cut.spells_of_mem isSegment
    obtain ⟨t, token, twice⟩ := (pointsTwice_iff_of_spells spells).2 twice
    exact twice.not_hasForm (form t (mem_tokensIn.2 ⟨s, isSegment, token⟩))
  · intro once t listed
    obtain ⟨s, isSegment, rest, spells⟩ := cut.exists_spells listed
    refine (hasForm_iff_of_spells spells).2 fun twice => once s isSegment ?_
    exact (pointsTwice_iff_of_spells spells).1 ⟨t, rfl, twice⟩

end Sparql

end GraphBroker

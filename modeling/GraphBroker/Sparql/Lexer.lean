import GraphBroker.Sparql.Error
import GraphBroker.Text.Blank

/-!
# Splitting a text into tokens

A text is read from the left. Blanks and comments separate tokens; a comment
runs from a number sign to the end of its line. Each step reads one lexeme and
leaves a rest that is no longer than what followed the first character.

## Main definitions

* `Sparql.lexeme`: the lexeme that starts with a given character.
* `Sparql.tokensOf`: the tokens of a list of characters.
* `Sparql.tokenize`: the tokens of a text.

## Main statements

* `lexeme_rest_length_le`: a lexeme leaves no more than what followed its first character.
-/

namespace GraphBroker.Sparql

open Text

/-- What a step of the lexer reads. -/
inductive Lexeme where
  /-- A blank or a comment. -/
  | gap
  /-- A token. -/
  | token (t : Token)
deriving DecidableEq, Repr

/-- The longest initial part whose characters all satisfy `p`, as a text, and the rest. -/
def run (p : Char → Bool) (cs : List Char) : String × List Char :=
  (String.ofList (cs.takeWhile p), cs.dropWhile p)

/-- Whether the character may stand after the colon of a prefixed name. -/
def isLocalChar (c : Char) : Bool :=
  isNameChar c || c == '.'

/-- The part after the colon of a prefixed name: name characters and dots, the dots at the
end left to the rest. -/
def localName (cs : List Char) : String × List Char :=
  let body := cs.takeWhile isLocalChar
  let dots := body.reverse.takeWhile (· == '.')
  (String.ofList (body.take (body.length - dots.length)), dots ++ cs.dropWhile isLocalChar)

/-- The character that an escape in quotes stands for. -/
def unescape : Char → Char
  | 'n' => '\n'
  | 't' => '\t'
  | 'r' => '\r'
  | 'b' => '\x08'
  | 'f' => '\x0c'
  | c => c

/-- What follows the closing quotes, if a quote with this rest closes the text: three in a row
if `long`, else one. -/
def closing? (quote : Char) (long : Bool) (rest : List Char) : Option (List Char) :=
  if long then
    match rest with
    | d :: e :: tail => if d = quote ∧ e = quote then some tail else none
    | _ => none
  else some rest

/-- The text up to the closing quotes, and what follows them. -/
def stringBody (quote : Char) (long : Bool) :
    List Char → Except SyntaxError (List Char × List Char)
  | [] => .error .unterminatedString
  | c :: rest =>
    if c = '\\' then
      match rest with
      | [] => .error .danglingEscape
      | e :: tail => (stringBody quote long tail).map fun r => (unescape e :: r.1, r.2)
    else if c = quote then
      match closing? quote long rest with
      | some tail => .ok ([], tail)
      | none => (stringBody quote long rest).map fun r => (c :: r.1, r.2)
    else if c = '\n' ∧ !long then .error .newlineInString
    else (stringBody quote long rest).map fun r => (c :: r.1, r.2)

/-- The text in quotes that starts after an opening quote, and what follows it. -/
def quotedString (quote : Char) (cs : List Char) : Except SyntaxError (List Char × List Char) :=
  match cs with
  | c :: d :: rest =>
    if c = quote ∧ d = quote then stringBody quote true rest else stringBody quote false cs
  | _ => stringBody quote false cs

/-- Whether the first character is a digit. -/
def startsWithDigit (cs : List Char) : Bool :=
  cs.head?.any Char.isDigit

/-- The number that starts with `c`, and what follows it. -/
def number (c : Char) (cs : List Char) : Token × List Char :=
  let whole := c :: cs.takeWhile Char.isDigit
  match cs.dropWhile Char.isDigit with
  | '.' :: rest =>
    if startsWithDigit rest then
      (.decimal (String.ofList (whole ++ '.' :: rest.takeWhile Char.isDigit)),
        rest.dropWhile Char.isDigit)
    else
      let text := String.ofList whole
      (if c = '.' then .decimal text else .integer text, '.' :: rest)
  | rest =>
    let text := String.ofList whole
    (if c = '.' then .decimal text else .integer text, rest)

/-- A token with these characters left over. -/
abbrev Step := Except SyntaxError (Lexeme × List Char)

/-- A token, and what follows it. -/
def one (t : Token) (rest : List Char) : Step :=
  .ok (.token t, rest)

/-- A token made of a name, which must not be empty, and what follows the name. -/
def named (p : Char → Bool) (make : String → Token) (missing : SyntaxError) (cs : List Char) :
    Step :=
  if (cs.takeWhile p).isEmpty then .error missing
  else one (make (run p cs).1) (run p cs).2

/-- The IRI that starts after an opening angle bracket, and what follows it. -/
def bracketedIri (cs : List Char) : Step :=
  match cs.dropWhile (· != '>') with
  | [] => .error .unterminatedIri
  | _ :: rest =>
    let value := cs.takeWhile (· != '>')
    if value.any isBlank then .error .blankInIri else one (.iri (String.ofList value)) rest

/-- The second of two carets, and what follows it. -/
def secondCaret : List Char → Step
  | c :: rest => if c = '^' then one .datatypeMarker rest else .error .loneCaret
  | [] => .error .loneCaret

/-- The word or prefixed name that starts with `c`, and what follows it. -/
def wordOrName (c : Char) (cs : List Char) : Step :=
  let name := run isNameChar (c :: cs)
  match name.2 with
  | [] => one (.word name.1) []
  | d :: tail =>
    if d = ':' then one (.prefixedName name.1 (localName tail).1) (localName tail).2
    else one (.word name.1) (d :: tail)

/-- The lexeme that starts with `c` and goes on in `cs`, and what follows it. -/
def lexeme (c : Char) (cs : List Char) : Step :=
  if isBlank c then .ok (.gap, cs)
  else if c = '#' then .ok (.gap, cs.dropWhile (· != '\n'))
  else if c = '\x7b' then one .lbrace cs
  else if c = '\x7d' then one .rbrace cs
  else if c = '.' ∧ !startsWithDigit cs then one .dot cs
  else if c = ';' then one .semicolon cs
  else if c = ',' then one .comma cs
  else if c = '*' then one .star cs
  else if c = '<' then bracketedIri cs
  else if c = '?' ∨ c = '$' then named isNameChar .var .emptyVariable cs
  else if c = '"' ∨ c = '\'' then
    (quotedString c cs).map fun r => (.token (.string (String.ofList r.1)), r.2)
  else if c = '@' then
    named (fun d => isAlphanumeric d || d == '-') .langTag .emptyLanguageTag cs
  else if c = '^' then secondCaret cs
  else if c = '_' ∧ cs.head? = some ':' then named isNameChar .blankNode .emptyBlankNode cs.tail
  else if c.isDigit ∨ ((c = '+' ∨ c = '-' ∨ c = '.') ∧ startsWithDigit cs) then
    one (number c cs).1 (number c cs).2
  else if isAlphabetic c ∨ c = ':' then wordOrName c cs
  else .error (.unexpectedCharacter c)

/-! ### Each step leaves less than it was given -/

theorem length_closing?_le {quote : Char} {long : Bool} {rest tail : List Char}
    (h : closing? quote long rest = some tail) : tail.length ≤ rest.length := by
  unfold closing? at h
  split at h
  · split at h
    · split at h <;> simp_all; omega
    · simp at h
  · simp_all

theorem length_stringBody_le {quote : Char} {long : Bool} {cs body rest : List Char}
    (h : stringBody quote long cs = .ok (body, rest)) : rest.length ≤ cs.length := by
  fun_induction stringBody quote long cs generalizing body rest with
  | case1 => simp at h
  | case2 => simp at h
  | case3 e tail ih =>
    obtain ⟨r, hr, hb⟩ := map_eq_ok_iff.1 h
    cases hb
    have := ih hr
    simp only [List.length_cons]
    omega
  | case4 =>
    rename_i hclosing _
    cases h
    exact Nat.le_succ_of_le (length_closing?_le hclosing)
  | case6 => simp at h
  | case5 | case7 =>
    rename_i ih
    obtain ⟨r, hr, hb⟩ := map_eq_ok_iff.1 h
    cases hb
    exact Nat.le_succ_of_le (ih hr)

theorem length_quotedString_le {quote : Char} {cs body rest : List Char}
    (h : quotedString quote cs = .ok (body, rest)) : rest.length ≤ cs.length := by
  unfold quotedString at h
  split at h
  · split at h
    · have := length_stringBody_le h
      simp only [List.length_cons]
      omega
    · exact length_stringBody_le h
  · exact length_stringBody_le h

theorem length_dropWhile_le {α : Type} (p : α → Bool) (l : List α) :
    (l.dropWhile p).length ≤ l.length :=
  (List.dropWhile_sublist p).length_le

theorem length_number_le (c : Char) (cs : List Char) : (number c cs).2.length ≤ cs.length := by
  have h := length_dropWhile_le Char.isDigit cs
  unfold number
  split
  · rename_i rest heq
    rw [heq, List.length_cons] at h
    split
    · have := length_dropWhile_le Char.isDigit rest
      simp only
      omega
    · simpa using h
  · exact h

theorem length_localName_le (cs : List Char) : (localName cs).2.length ≤ cs.length := by
  have parts : (cs.takeWhile isLocalChar).length + (cs.dropWhile isLocalChar).length =
      cs.length := by
    rw [← List.length_append, List.takeWhile_append_dropWhile]
  have dots :=
    (List.takeWhile_sublist (l := (cs.takeWhile isLocalChar).reverse) (· == '.')).length_le
  rw [List.length_reverse] at dots
  simp only [localName, List.length_append]
  omega

/-- A step leaves at most the characters `cs`. -/
def Leaves (cs : List Char) (step : Step) : Prop :=
  ∀ l rest, step = .ok (l, rest) → rest.length ≤ cs.length

namespace Leaves

variable {cs : List Char}

theorem one {t : Token} {rest : List Char} (h : rest.length ≤ cs.length) :
    Leaves cs (one t rest) := by
  rintro l rest' ⟨⟩
  exact h

theorem error {e : SyntaxError} : Leaves cs (.error e) := nofun

theorem ite {p : Prop} [Decidable p] {x y : Step} (hx : p → Leaves cs x)
    (hy : ¬p → Leaves cs y) : Leaves cs (if p then x else y) := by
  by_cases h : p
  · rw [if_pos h]; exact hx h
  · rw [if_neg h]; exact hy h

theorem named {p : Char → Bool} {make : String → Token} {missing : SyntaxError} :
    Leaves cs (named p make missing cs) :=
  ite (fun _ => error) fun _ => one (length_dropWhile_le p cs)

theorem bracketedIri : Leaves cs (bracketedIri cs) := by
  have shorter := length_dropWhile_le (· != '>') cs
  unfold Sparql.bracketedIri
  split
  · exact error
  · rename_i heq
    rw [heq, List.length_cons] at shorter
    exact ite (fun _ => error) fun _ => one (by omega)

theorem secondCaret : Leaves cs (secondCaret cs) := by
  cases cs with
  | nil => exact error
  | cons c rest => exact ite (fun _ => one (Nat.le_succ _)) fun _ => error

/-- What follows a word or a prefixed name is shorter when its first character is alphabetic
or a colon. -/
theorem wordOrName {c : Char} (hc : isAlphabetic c = true ∨ c = ':') :
    Leaves cs (wordOrName c cs) := by
  have name := length_dropWhile_le isNameChar cs
  by_cases hn : isNameChar c
  · simp only [Sparql.wordOrName, run, List.dropWhile_cons_of_pos hn]
    split
    · exact one (Nat.zero_le _)
    · rename_i d tail heq
      rw [heq, List.length_cons] at name
      have := length_localName_le tail
      exact ite (fun _ => one (by omega)) fun _ => one (by simpa using name)
  · simp only [Sparql.wordOrName, run, List.dropWhile_cons_of_neg hn]
    refine ite (fun _ => one (length_localName_le cs)) fun hcolon => ?_
    rcases hc with ha | hc
    · exact absurd (by simp [isNameChar, isAlphanumeric, ha]) hn
    · exact absurd hc hcolon

end Leaves

theorem lexeme_rest_length_le {c : Char} {cs rest : List Char} {l : Lexeme}
    (h : lexeme c cs = .ok (l, rest)) : rest.length ≤ cs.length := by
  refine (?_ : Leaves cs (lexeme c cs)) l rest h
  have whole (t : Token) : Leaves cs (one t cs) := .one (Nat.le_refl _)
  refine .ite (fun _ => ?_) fun _ => ?_
  · rintro l rest ⟨⟩
    exact Nat.le_refl _
  refine .ite (fun _ => ?_) fun _ => ?_
  · rintro l rest ⟨⟩
    exact length_dropWhile_le _ cs
  iterate 6 refine .ite (fun _ => whole _) fun _ => ?_
  refine .ite (fun _ => .bracketedIri) fun _ => ?_
  refine .ite (fun _ => .named) fun _ => ?_
  refine .ite (fun _ => ?_) fun _ => ?_
  · intro l rest h
    obtain ⟨r, hr, hb⟩ := map_eq_ok_iff.1 h
    cases hb
    exact length_quotedString_le hr
  refine .ite (fun _ => .named) fun _ => ?_
  refine .ite (fun _ => .secondCaret) fun _ => ?_
  refine .ite (fun _ => ?_) fun _ => ?_
  · intro l rest h
    have := Leaves.named l rest h
    rw [List.length_tail] at this
    omega
  refine .ite (fun _ => .one (length_number_le c cs)) fun _ => ?_
  exact .ite (fun hc => .wordOrName hc) fun _ => .error

/-! ### The tokens of a text -/

/-- The tokens of a list of characters. -/
def tokensOf : List Char → Except SyntaxError (List Token)
  | [] => .ok []
  | c :: cs =>
    match _h : lexeme c cs with
    | .error e => .error e
    | .ok (.gap, rest) => tokensOf rest
    | .ok (.token t, rest) => (tokensOf rest).map (t :: ·)
termination_by cs => cs.length
decreasing_by all_goals exact Nat.lt_succ_of_le (lexeme_rest_length_le _h)

/-- The tokens of a text. -/
def tokenize (text : String) : Except SyntaxError (List Token) :=
  tokensOf text.toList

end GraphBroker.Sparql

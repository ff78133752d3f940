import GraphBroker.Decimal.Double
import GraphBroker.Json.Basic

/-!
# Reading JSON

A reader for the JSON grammar. Nothing may follow the value but blanks. Where
the grammar holds but a text or a number denotes nothing, the value is
`Json.unreadable`, so that a decoder may still pass over it.

## Main definitions

* `Json.read?`: the value that a text spells.
-/

namespace GraphBroker.Json

/-- What follows a part of the text: it is shorter than the text. -/
abbrev Rest (input : List Char) := { rest : List Char // rest.length < input.length }

/-- Drops the blanks of the grammar at the start. -/
def skipBlanks : List Char → List Char
  | [] => []
  | c :: rest =>
    if c == ' ' || c == '\n' || c == '\t' || c == '\r' then skipBlanks rest else c :: rest

theorem length_skipBlanks_le (input : List Char) : (skipBlanks input).length ≤ input.length := by
  induction input with
  | nil => simp [skipBlanks]
  | cons c rest ih =>
    simp only [skipBlanks]
    split
    · exact Nat.le_succ_of_le ih
    · exact Nat.le_refl _

theorem length_lt_of_skipBlanks {input rest : List Char} {c : Char}
    (h : skipBlanks input = c :: rest) : rest.length < input.length := by
  have := length_skipBlanks_le input
  rw [h, List.length_cons] at this
  omega

/-! ### Texts -/

/-- A piece of a text between quotes: a character, or a UTF-16 code unit that was written by
its number. -/
inductive Piece where
  /-- A character. -/
  | char (c : Char)
  /-- A code unit. -/
  | unit (n : Nat)

/-- The value of a hexadecimal digit. -/
def hexDigit? (c : Char) : Option Nat :=
  if c.isDigit then some (c.toNat - '0'.toNat)
  else if 'a' ≤ c ∧ c ≤ 'f' then some (c.toNat - 'a'.toNat + 10)
  else if 'A' ≤ c ∧ c ≤ 'F' then some (c.toNat - 'A'.toNat + 10)
  else none

/-- The code unit that four hexadecimal digits write. -/
def unit? (a b c d : Char) : Option Nat := do
  return ((← hexDigit? a) * 16 + (← hexDigit? b)) * 256 + (← hexDigit? c) * 16 + (← hexDigit? d)

/-- The character that a letter after a backslash writes. -/
def escape? : Char → Option Char
  | '"' => some '"'
  | '\\' => some '\\'
  | '/' => some '/'
  | 'b' => some '\x08'
  | 'f' => some '\x0c'
  | 'n' => some '\n'
  | 'r' => some '\r'
  | 't' => some '\t'
  | _ => none

/-- The pieces up to the closing quote, latest first, and what follows the quote. -/
def pieces? (read : List Piece) : List Char → Option (List Piece × List Char)
  | [] => none
  | '"' :: rest => some (read, rest)
  | '\\' :: 'u' :: a :: b :: c :: d :: rest =>
    match unit? a b c d with
    | some n => pieces? (.unit n :: read) rest
    | none => none
  | '\\' :: c :: rest =>
    match escape? c with
    | some e => pieces? (.char e :: read) rest
    | none => none
  | c :: rest => if c.toNat < 0x20 ∨ c = '\\' then none else pieces? (.char c :: read) rest

theorem length_of_pieces? {read pieces : List Piece} {input rest : List Char}
    (h : pieces? read input = some (pieces, rest)) : rest.length < input.length := by
  fun_induction pieces? read input <;> simp_all <;> omega

/-- What the pieces spell, if every surrogate has its partner. A character may stand for
something else where it is not written by its number. -/
def spelled? {α : Type} (plain written : Char → List α) : List Piece → Option (List α)
  | [] => some []
  | .char c :: rest => (spelled? plain written rest).map (plain c ++ ·)
  | .unit n :: rest =>
    if n < 0xD800 ∨ 0xDFFF < n then
      (spelled? plain written rest).map (written (Char.ofNat n) ++ ·)
    else
      match rest with
      | .unit m :: tail =>
        if n < 0xDC00 ∧ 0xDC00 ≤ m ∧ m ≤ 0xDFFF then
          let n := 0x10000 + (n - 0xD800) * 1024 + (m - 0xDC00)
          (spelled? plain written tail).map (written (Char.ofNat n) ++ ·)
        else none
      | _ => none

/-- The text after an opening quote; no text where a surrogate stands alone. -/
def quoted? (input : List Char) : Option (Option String × Rest input) :=
  match h : pieces? [] input with
  | some (pieces, rest) =>
    some ((spelled? ([·]) ([·]) pieces.reverse).map String.ofList, ⟨rest, length_of_pieces? h⟩)
  | none => none

/-! ### Numbers -/

/-- The digits at the start and what follows them. -/
def digits (input : List Char) : List Char × List Char :=
  (input.takeWhile Char.isDigit, input.dropWhile Char.isDigit)

/-- A number by its parts. -/
structure Numeral where
  /-- Whether it has a minus sign. -/
  negative : Bool
  /-- The digits before the point. -/
  whole : List Char
  /-- The digits after the point. -/
  fraction : List Char
  /-- The exponent, if there is one. -/
  exponent : Option Int
  /-- Whether it has a point. -/
  pointed : Bool
  /-- The number as it is written. -/
  spelling : String

/-- Reads digits into a 64-bit word as long as they fit; and how many digits are left. -/
def word : Nat → List Char → Nat × Nat
  | n, [] => (n, 0)
  | n, d :: ds =>
    let next := 10 * n + (d.toNat - '0'.toNat)
    if next < 0x10000000000000000 then word next ds else (n, ds.length + 1)

/-- The greatest power of ten that a double is multiplied by. -/
def greatestPower : Int := 308

/-- The greatest exponent that is counted. -/
def greatestExponent : Int := 0x7FFFFFFF

/-- Whether the number is too large for a double. Of its digits those count that fit a 64-bit
word, as a double, which is then multiplied by a power of ten. -/
def Numeral.isHuge (n : Numeral) : Bool :=
  let (start, dropped) := word 0 n.whole
  let (significand, left) := word start n.fraction
  let exponent := n.exponent.getD 0
  let power := dropped - (n.fraction.length - left : Nat) + exponent
  if significand = 0 ∨ exponent < -greatestExponent then false
  else if greatestExponent < exponent ∨ greatestPower < power then true
  else
    0 ≤ power && (Double.ofNat significand).isInfiniteTimes (Double.ofDecimal false 1 power)

/-- The value that a number denotes. -/
def Numeral.toJson (n : Numeral) : Json :=
  if n.isHuge then unreadable
  else if n.pointed || n.exponent.isSome then real n.spelling
  else
    let value := Text.ofDigits n.whole
    if n.negative then
      if value = 0 ∨ 0x8000000000000000 < value then real n.spelling else int (-value)
    else if value < 0x10000000000000000 then int value else real n.spelling

/-- The fraction of a number, if it has one, and what follows it. -/
def fraction? : List Char → Option (Bool × List Char × List Char)
  | '.' :: rest =>
    match digits rest with
    | ([], _) => none
    | (ds, tail) => some (true, ds, tail)
  | rest => some (false, [], rest)

/-- The exponent of a number, if it has one, and what follows it. -/
def exponent? : List Char → Option (Option Int × List Char)
  | c :: rest =>
    if c = 'e' ∨ c = 'E' then
      let (sign, tail) : Int × List Char :=
        match rest with
        | '+' :: tail => (1, tail)
        | '-' :: tail => (-1, tail)
        | tail => (1, tail)
      match digits tail with
      | ([], _) => none
      | (ds, after) => some (some (sign * Text.ofDigits ds), after)
    else some (none, c :: rest)
  | [] => some (none, [])

/-- The number at the start, and what follows it. -/
def numeral? (input : List Char) : Option (Numeral × List Char) := do
  let (negative, unsigned) := match input with
    | '-' :: rest => (true, rest)
    | rest => (false, rest)
  let (whole, afterWhole) ← match unsigned with
    | '0' :: rest => if (rest.head?.any Char.isDigit) then none else some (['0'], rest)
    | rest =>
      match digits rest with
      | ([], _) => none
      | (ds, tail) => some (ds, tail)
  let (pointed, fraction, afterFraction) ← fraction? afterWhole
  let (exponent, rest) ← exponent? afterFraction
  let spelling := String.ofList (input.take (input.length - rest.length))
  return (⟨negative, whole, fraction, exponent, pointed, spelling⟩, rest)

/-! ### Values -/

/-- The constant or the number at the start, and what follows it. -/
def bare? : List Char → Option (Json × List Char)
  | 'n' :: 'u' :: 'l' :: 'l' :: rest => some (null, rest)
  | 't' :: 'r' :: 'u' :: 'e' :: rest => some (bool true, rest)
  | 'f' :: 'a' :: 'l' :: 's' :: 'e' :: rest => some (bool false, rest)
  | input => (numeral? input).map fun (n, rest) => (n.toJson, rest)

mutual

/-- The value at the start, and what follows it. -/
def value? (input : List Char) : Option (Json × Rest input) :=
  match h : skipBlanks input with
  | [] => none
  | c :: rest =>
    have shorter := length_lt_of_skipBlanks h
    if c = '"' then
      match quoted? rest with
      | some (some value, tail) => some (text value, ⟨tail, Nat.lt_trans tail.2 shorter⟩)
      | some (none, tail) => some (unreadable, ⟨tail, Nat.lt_trans tail.2 shorter⟩)
      | none => none
    else if c = '[' then
      match items? true rest with
      | some (items, tail) => some (array items, ⟨tail, Nat.lt_trans tail.2 shorter⟩)
      | none => none
    else if c = '\x7b' then
      match members? true rest with
      | some (some members, tail) => some (object members, ⟨tail, Nat.lt_trans tail.2 shorter⟩)
      | some (none, tail) => some (unreadable, ⟨tail, Nat.lt_trans tail.2 shorter⟩)
      | none => none
    else
      match bare? (c :: rest) with
      | some (value, tail) =>
        if h : tail.length < input.length then some (value, ⟨tail, h⟩) else none
      | none => none
termination_by 2 * input.length

/-- The items up to the closing bracket, and what follows it. Only at the start may there be
no item at all. -/
def items? (atStart : Bool) (input : List Char) : Option (List Json × Rest input) :=
  match h : skipBlanks input with
  | ']' :: rest => if atStart then some ([], ⟨rest, length_lt_of_skipBlanks h⟩) else none
  | _ =>
    match value? input with
    | none => none
    | some (item, afterItem) =>
      match h : skipBlanks afterItem.1 with
      | ']' :: rest =>
        some ([item], ⟨rest, Nat.lt_trans (length_lt_of_skipBlanks h) afterItem.2⟩)
      | ',' :: rest =>
        have shorter := Nat.lt_trans (length_lt_of_skipBlanks h) afterItem.2
        match items? false rest with
        | some (items, tail) => some (item :: items, ⟨tail, Nat.lt_trans tail.2 shorter⟩)
        | none => none
      | _ => none
termination_by 2 * input.length + 1

/-- The members up to the closing brace, and what follows it. The members are missing where a
name is no text. Only at the start may there be no member at all. -/
def members? (atStart : Bool) (input : List Char) :
    Option (Option (List (String × Json)) × Rest input) :=
  match h : skipBlanks input with
  | '\x7d' :: rest =>
    if atStart then some (some [], ⟨rest, length_lt_of_skipBlanks h⟩) else none
  | '"' :: rest =>
    match quoted? rest with
    | none => none
    | some (name, afterName) =>
      match hc : skipBlanks afterName.1 with
      | ':' :: beforeValue =>
        have shorter : beforeValue.length < input.length :=
          Nat.lt_trans (length_lt_of_skipBlanks hc)
            (Nat.lt_trans afterName.2 (length_lt_of_skipBlanks h))
        match value? beforeValue with
        | none => none
        | some (value, afterValue) =>
          let member := name.map fun n => (n, value)
          match hv : skipBlanks afterValue.1 with
          | '\x7d' :: tail =>
            some (member.map ([·]), ⟨tail,
              Nat.lt_trans (length_lt_of_skipBlanks hv) (Nat.lt_trans afterValue.2 shorter)⟩)
          | ',' :: next =>
            have shorterNext : next.length < input.length :=
              Nat.lt_trans (length_lt_of_skipBlanks hv) (Nat.lt_trans afterValue.2 shorter)
            match members? false next with
            | some (members, tail) =>
              some (return (← member) :: (← members), ⟨tail, Nat.lt_trans tail.2 shorterNext⟩)
            | none => none
          | _ => none
      | _ => none
  | _ => none
termination_by 2 * input.length

end

/-- The value that the text spells. -/
def read? (input : String) : Option Json :=
  match value? input.toList with
  | some (json, rest) => if (skipBlanks rest).isEmpty then some json else none
  | none => none

end GraphBroker.Json

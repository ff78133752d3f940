import GraphBroker.Json.Reader
import GraphBroker.Text.Utf8

/-!
# Decoding JSON from the left

A decoder takes what it asks for from the start of bytes and stops where they do
not go on as they should. So it tells bytes that are no JSON from JSON of another
shape by what comes first. Values that nobody asks for are passed over; only their
spelling matters. After a decoder has stopped, another one may go on from there.

## Main definitions

* `Flaw`: why a decoder stops.
* `Decoder`: a decoder.
* `Decoder.text`, `Decoder.list`, `Decoder.record`, `Decoder.value`: decoders by shape.
* `Decoder.attempt`: goes on after a flaw.
* `Decoder.run?`: decodes all of some bytes.
-/

namespace GraphBroker.Json

/-- Why a decoder stops. -/
inductive Flaw where
  /-- The bytes break off or are spelled wrong. -/
  | spelling
  /-- There is a value of another shape. -/
  | shape
deriving DecidableEq, Repr

/-- Decodes what is at the start of bytes, each of which is given as the character with its
number. After a flaw, what is left tells where the decoder has stopped. -/
abbrev Decoder (α : Type) := EStateM Flaw (List Char) α

namespace Decoder

/-- The next character after blanks, which stays where it is. -/
def peek : Decoder Char := do
  match skipBlanks (← get) with
  | [] => throw .spelling
  | c :: rest =>
    set (c :: rest)
    return c

/-- Passes over one character. -/
def skip : Decoder Unit :=
  modify (List.drop 1)

/-- Goes on if what is at the start is spelled right. -/
def spelled {α : Type} (read : List Char → Option (α × List Char)) : Decoder α := do
  match read (← get) with
  | some (a, rest) =>
    set rest
    return a
  | none => throw .spelling

/-- Passes over a value. -/
def ignored : Decoder Unit :=
  spelled fun input => (value? input).map fun found => ((), found.2.1)

/-! ### Plain values -/

/-- The text that follows an opening quote. A text in which a surrogate stands alone breaks off
there, and nothing can go on inside a text. -/
def quoted : Decoder String := do
  let pieces ← spelled (pieces? [])
  match spelled? (fun c => [UInt8.ofNat c.toNat]) String.utf8EncodeChar pieces.reverse with
  | some bytes =>
    match Utf8.decode bytes with
    | .ok decoded => return decoded
    | .error _ => throw .spelling
  | none =>
    set ([] : List Char)
    throw .spelling

/-- Whether a number breaks off within its exponent, which is beyond what is counted already
before its last digit. -/
def breaksOff (n : Numeral) : Bool :=
  n.exponent.any fun e => greatestExponent < e / 10

/-- A number. -/
def number : Decoder Json := do
  let n ← spelled numeral?
  if n.isHuge then
    if breaksOff n then set ([] : List Char)
    throw .spelling
  return n.toJson

/-- A constant or a number. -/
def bare : Decoder Json := do
  let c ← peek
  if c = '-' || c.isDigit then number else spelled bare?

/-- Stops at a value that has another shape than the one asked for. A plain value is read
first, so that its spelling counts. -/
def misshapen {α : Type} : Decoder α := do
  let c ← peek
  if c = '"' then
    skip
    let _ ← quoted
  else if !(c = '[' || c = '\x7b') then
    let _ ← bare
  throw .shape

/-- A text. -/
def text : Decoder String := do
  if (← peek) = '"' then
    skip
    quoted
  else misshapen

/-- A signed 64-bit number. -/
def int64 : Decoder Int := do
  let c ← peek
  if c = '-' || c.isDigit then
    match (← number).int64? with
    | some n => return n
    | none => throw .shape
  else misshapen

/-! ### Arrays and objects -/

/-- Goes on after a flaw: where there was one, there is no value. -/
def attempt {α : Type} (decode : Decoder α) : Decoder (Option α) :=
  tryCatch (some <$> decode) fun _ => return none

/-- The end of an array. A comma is passed over, though it does not belong there. -/
def arrayEnd : Decoder Unit := do
  match ← peek with
  | ']' => skip
  | ',' =>
    skip
    let _ ← peek
    throw .spelling
  | _ => throw .spelling

/-- The end of an object. -/
def objectEnd : Decoder Unit := do
  if (← peek) = '\x7d' then skip else throw .spelling

/-- What stands between an opening bracket and an end. The end is looked for even after a flaw,
which comes first. -/
def enclosed {α : Type} (content : Decoder α) (close : Decoder Unit) : Decoder α := do
  skip
  let found ← tryCatch (Except.ok <$> content) fun flaw => return Except.error flaw
  match found with
  | .ok a =>
    close
    return a
  | .error flaw =>
    let _ ← attempt close
    throw flaw

/-- Whether another item of an array follows. -/
def hasItem (atStart : Bool) : Decoder Bool := do
  match ← peek with
  | ']' => return false
  | c =>
    if atStart then return true
    if c ≠ ',' then throw .spelling
    skip
    if (← peek) = ']' then throw .spelling
    return true

/-- The name of the next member of an object, if another one follows. -/
def nextName (atStart : Bool) : Decoder (Option String) := do
  let c ← peek
  if c = '\x7d' then return none
  if !atStart then
    if c ≠ ',' then throw .spelling
    skip
  if (← peek) ≠ '"' then throw .spelling
  skip
  some <$> quoted

/-- The colon after a name. -/
def colon : Decoder Unit := do
  if (← peek) = ':' then skip else throw .spelling

/-- The items of an array; at most so many. -/
def items {α : Type} (decode : Decoder α) : Nat → Bool → Decoder (List α)
  | 0, _ => throw .spelling
  | n + 1, atStart => do
    if ← hasItem atStart then
      let item ← decode
      return item :: (← items decode n false)
    else return []

/-- The members of an object; at most so many. -/
def members {α : Type} (decode : Decoder α) : Nat → Bool → Decoder (List (String × α))
  | 0, _ => throw .spelling
  | n + 1, atStart => do
    match ← nextName atStart with
    | none => return []
    | some name =>
      colon
      let value ← decode
      return (name, value) :: (← members decode n false)

/-- How many parts may follow. -/
def bound : Decoder Nat := do
  return (← get).length

/-- An array. -/
def list {α : Type} (decode : Decoder α) : Decoder (List α) := do
  if (← peek) = '[' then
    let n ← bound
    enclosed (items decode n true) arrayEnd
  else misshapen

/-- Any value, with at most so many arrays and objects around its innermost one. -/
def value : Nat → Decoder Json
  | 0 => do
    match ← peek with
    | '[' | '\x7b' => throw .spelling
    | '"' => .text <$> text
    | _ => bare
  | depth + 1 => do
    let n ← bound
    match ← peek with
    | '[' => .array <$> enclosed (items (value depth) n true) arrayEnd
    | '\x7b' => .object <$> enclosed (members (value depth) n true) objectEnd
    | '"' => .text <$> text
    | _ => bare

/-- A value that is not an array or an object. -/
def plain : Decoder Json := do
  match ← peek with
  | '[' => enclosed (throw .shape) arrayEnd
  | '\x7b' => enclosed (throw .shape) objectEnd
  | '"' => .text <$> text
  | _ => bare

/-- `null`, or a value to be decoded. -/
def nullable {α : Type} (decode : Decoder α) : Decoder (Option α) := do
  if (← peek) = 'n' then
    let _ ← bare
    return none
  else some <$> decode

/-! ### Records -/

section Record

variable {σ : Type} (names : List String) (step : σ → String → Decoder σ)

/-- The known members of an object; at most so many. A known name may not come twice. -/
def named : Nat → Bool → List String → σ → Decoder σ
  | 0, _, _, _ => throw .spelling
  | n + 1, atStart, seen, state => do
    match ← nextName atStart with
    | none => return state
    | some name =>
      if names.contains name then
        if seen.contains name then throw .shape
        colon
        named n false (name :: seen) (← step state name)
      else
        colon
        ignored
        named n false seen state

/-- The members of an array, one for each name as long as there are any. -/
def placed (step : σ → String → Decoder σ) : List String → Bool → σ → Decoder σ
  | [], _, state => return state
  | name :: names, atStart, state => do
    if ← hasItem atStart then placed step names false (← step state name) else return state

/-- An object with known members, or the array of these. What follows from the members may be
missing some of them. -/
def record {α : Type} (start : σ) (finish : σ → Option α) : Decoder α := do
  let finished (state : σ) : Decoder α :=
    match finish state with
    | some a => return a
    | none => throw .shape
  let n ← bound
  match ← peek with
  | '[' => enclosed (placed step names true start >>= finished) arrayEnd
  | '\x7b' => enclosed (named names step n true [] start >>= finished) objectEnd
  | _ => misshapen

end Record

/-! ### All of some bytes -/

/-- What a decoder finds in bytes, after which nothing may follow but blanks. -/
def run {α : Type} (decode : Decoder α) (bytes : List UInt8) : Except Flaw α :=
  match EStateM.run decode (bytes.map fun b => Char.ofNat b.toNat) with
  | .ok a rest => if (skipBlanks rest).isEmpty then .ok a else .error .spelling
  | .error flaw _ => .error flaw

end Decoder

end GraphBroker.Json

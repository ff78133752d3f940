import GraphBroker.Decimal.Shortest
import GraphBroker.Json.Basic

/-!
# Reading single settings

A setting comes either from a JSON document, where it has to have the right type,
or from layered files and variables, where texts, numbers and truth values stand
for one another.

## Main definitions

* `Leaves`: how the single values of a configuration are read.
* `Leaves.strict`: as the types say.
* `Leaves.lenient`: with conversions.
-/

namespace GraphBroker.Config

/-- How the single values of a configuration are read. -/
structure Leaves where
  /-- A text. -/
  text? : Json → Option String
  /-- A truth value. -/
  bool? : Json → Option Bool
  /-- A whole number between bounds. -/
  int? : Int → Int → Json → Option Int
  /-- One of several names. -/
  name? : List String → Json → Option String
  /-- Whether an array that stands for a section may go on after its last member. -/
  longer : Bool

/-- A natural number of that many bits. -/
def Leaves.nat? (leaves : Leaves) (bits : Nat) (json : Json) : Option Nat :=
  (leaves.int? 0 (Nat.pow 2 bits - 1) json).map Int.toNat

/-- A signed 64-bit number. -/
def Leaves.int64? (leaves : Leaves) : Json → Option Int :=
  leaves.int? (-0x8000000000000000) 0x7FFFFFFFFFFFFFFF

/-- The members of a section with the given names. -/
def Leaves.fields? (leaves : Leaves) (names : List String) : Json → Option Json.Fields
  | .array items =>
    (Json.array (if leaves.longer then items.take names.length else items)).fields? names
  | json => json.fields? names

/-- Values have the types asked for. -/
def Leaves.strict : Leaves where
  text? := Json.text?
  bool? := Json.bool?
  int? := Json.intBetween?
  name? names json := json.alternative?.filter names.contains
  longer := false

/-! ### Conversions -/

/-- The whole number that a text spells: an optional sign and at least one digit. -/
def wholeNumber? (text : String) : Option Int :=
  let (negative, ds) := match text.toList with
    | '-' :: ds => (true, ds)
    | '+' :: ds => (false, ds)
    | ds => (false, ds)
  if ds.isEmpty || !ds.all Char.isDigit then none
  else some (if negative then -(Text.ofDigits ds : Int) else Text.ofDigits ds)

/-- The truth value that a word stands for. -/
def truthOf? (word : String) : Option Bool :=
  if ["1", "true", "on", "yes"].contains word.toLower then some true
  else if ["0", "false", "off", "no"].contains word.toLower then some false
  else none

/-- The number that a word stands for. A natural number has no minus sign. -/
def numberOf? (natural : Bool) (word : String) : Option Int :=
  if ["true", "on", "yes"].contains word.toLower then some 1
  else if ["false", "off", "no"].contains word.toLower then some 0
  else if natural && word.startsWith "-" then none
  else wholeNumber? word

/-- A number kept between bounds. -/
def clamp (low high n : Int) : Int :=
  max low (min high n)

/-- The whole number that stands for a double, kept in a word of 64 bits. -/
def wholeOf (natural : Bool) (d : Double) : Int :=
  let low : Int := if natural then 0 else -0x8000000000000000
  let high : Int := if natural then 0xFFFFFFFFFFFFFFFF else 0x7FFFFFFFFFFFFFFF
  match d with
  | .nan => 0
  | .infinite negative => if negative then low else high
  | d => clamp low high (d.round?.getD 0)

/-- Texts, numbers and truth values stand for one another. -/
def Leaves.lenient : Leaves where
  text?
    | .text value => some value
    | .bool value => some (if value then "true" else "false")
    | .int value => some (toString value)
    | .real spelling => (Double.ofText? spelling).map Double.toText
    | _ => none
  bool?
    | .bool value => some value
    | .int value => some (value != 0)
    | .real spelling => (Double.ofText? spelling).map (!·.isZero)
    | .text value => truthOf? value
    | _ => none
  int? low high json :=
    let natural : Bool := 0 ≤ low
    let found := match json with
      | .bool value => some (if value then 1 else 0)
      | .int value => some value
      | .real spelling => (Double.ofText? spelling).map (wholeOf natural)
      | .text value => numberOf? natural value
      | _ => none
    found.bind fun n => if low ≤ n ∧ n ≤ high then some n else none
  name? names json :=
    let given := match json with
      | .text name => some name
      | .object [(name, _)] => some name
      | _ => none
    given.filter names.contains
  longer := true

end GraphBroker.Config

/-!
# JSON values

The values that travel between a broker and its clients, and the schema-directed
way to take them apart. A record is an object with known members, or the array
of its members in their order; members that are not known are passed over.

## Main definitions

* `Json`: a JSON value.
* `Json.depth`, `Json.isReadable`, `Json.within?`: a value that is kept whole has to
  denote something throughout and must not be nested too deep.
* `Json.Fields`, `Json.fields?`: the known members of a record.
* `Fields.required?`, `Fields.optional?`, `Fields.defaulted?`: how one member is read.
* `Json.Place`: whether a value is read from its text or from a value that is kept whole.
* `Json.variant?`: a value that names its own kind in the member `type`.
-/

namespace GraphBroker

/-- A JSON value. The texts and numbers that a decoder asks for are told apart
from those whose spelling is right but which denote nothing. -/
inductive Json where
  /-- The literal `null`. -/
  | null
  /-- A truth value. -/
  | bool (value : Bool)
  /-- A number without fraction and exponent that fits a signed or an unsigned 64-bit word. -/
  | int (value : Int)
  /-- Any other number, by its spelling. -/
  | real (spelling : String)
  /-- A text. -/
  | text (value : String)
  /-- An array. -/
  | array (items : List Json)
  /-- An object, with its members in the order in which they were written. -/
  | object (members : List (String × Json))
  /-- A text with half a surrogate pair, an object with such a name, or a number beyond every
  double: it may be passed over but not used. -/
  | unreadable

namespace Json

mutual

/-- How many arrays and objects stand around the innermost value. -/
def depth : Json → Nat
  | array items => depthItems items + 1
  | object members => depthMembers members + 1
  | _ => 0

/-- The greatest depth among the items. -/
def depthItems : List Json → Nat
  | [] => 0
  | item :: rest => max item.depth (depthItems rest)

/-- The greatest depth among the members. -/
def depthMembers : List (String × Json) → Nat
  | [] => 0
  | (_, value) :: rest => max value.depth (depthMembers rest)

end

mutual

/-- Whether every part of the value denotes something. -/
def isReadable : Json → Bool
  | array items => readableItems items
  | object members => readableMembers members
  | unreadable => false
  | _ => true

/-- Whether every item denotes something. -/
def readableItems : List Json → Bool
  | [] => true
  | item :: rest => item.isReadable && readableItems rest

/-- Whether every member denotes something. -/
def readableMembers : List (String × Json) → Bool
  | [] => true
  | (_, value) :: rest => value.isReadable && readableMembers rest

end

/-- How deep a value that is kept whole may be nested, the outermost value included. -/
def maxDepth : Nat := 127

/-- The value itself if it can be kept whole below `level` arrays and objects. -/
def within? (level : Nat) (json : Json) : Option Json :=
  if json.isReadable && level + json.depth ≤ maxDepth then some json else none

/-! ### Plain values -/

/-- The text that the value is. -/
def text? : Json → Option String
  | text value => some value
  | _ => none

/-- The truth value that the value is. -/
def bool? : Json → Option Bool
  | bool value => some value
  | _ => none

/-- The whole number that the value is, if it lies between the bounds. -/
def intBetween? (low high : Int) : Json → Option Int
  | int value => if low ≤ value ∧ value ≤ high then some value else none
  | _ => none

/-- A signed 64-bit number. -/
def int64? (json : Json) : Option Int :=
  json.intBetween? (-0x8000000000000000) 0x7FFFFFFFFFFFFFFF

/-- A natural number of that many bits. -/
def nat? (bits : Nat) (json : Json) : Option Nat :=
  (json.intBetween? 0 (Nat.pow 2 bits - 1)).map Int.toNat

/-- The items of an array, each decoded. -/
def list? {α : Type} (decode : Json → Option α) : Json → Option (List α)
  | array items => items.mapM decode
  | _ => none

/-- `null`, or a value to be decoded. -/
def nullable? {α : Type} (decode : Json → Option α) : Json → Option (Option α)
  | null => some none
  | json => (decode json).map some

/-- The name of a plain alternative: a text, or an object whose only member is that name
with the value `null`. -/
def alternative? : Json → Option String
  | text name => some name
  | object [(name, null)] => some name
  | _ => none

/-! ### Records -/

/-- The known members of a record as they were given. -/
structure Fields where
  /-- The members, by name. -/
  given : List (String × Json)
  /-- Whether the record was an array of its members. -/
  positional : Bool

/-- The members of a record with the given names. A name may be given once, and an array
may not be longer than the list of names. -/
def fields? (names : List String) : Json → Option Fields
  | object members =>
    let known := members.filter fun member => names.contains member.1
    if (known.map Prod.fst).Nodup then some ⟨known, false⟩ else none
  | array items =>
    if items.length ≤ names.length then some ⟨names.zip items, true⟩ else none
  | _ => none

namespace Fields

/-- The member of the given name. -/
def get? (fields : Fields) (name : String) : Option Json :=
  fields.given.lookup name

/-- A member that has to be there. -/
def required? {α : Type} (fields : Fields) (name : String) (decode : Json → Option α) : Option α :=
  (fields.get? name).bind decode

/-- A member that may be `null`, or missing from an object. -/
def optional? {α : Type} (fields : Fields) (name : String) (decode : Json → Option α) :
    Option (Option α) :=
  match fields.get? name with
  | some json => json.nullable? decode
  | none => if fields.positional then none else some none

/-- A member that stands for `default` where it is missing. -/
def defaulted? {α : Type} (fields : Fields) (name : String) (default : α)
    (decode : Json → Option α) : Option α :=
  match fields.get? name with
  | some json => decode json
  | none => some default

end Fields

/-! ### Values that name their kind -/

/-- Where a value stands while it is taken apart. -/
inductive Place where
  /-- In its text, below that many arrays and objects. -/
  | below (level : Nat)
  /-- Inside a value that is kept whole. -/
  | kept
deriving DecidableEq

namespace Place

/-- A value that stands alone in its text. -/
def outermost : Place := below 0

/-- The place that many arrays and objects further in. -/
def inside (steps : Nat) : Place → Place
  | below level => below (level + steps)
  | kept => kept

/-- The value, if it can be kept whole at its place. What stands inside a value that is kept
whole is kept with it. -/
def keep? : Place → Json → Option Json
  | below level, json => json.within? level
  | kept, json => some json

/-- The kind that a value names. Inside a value that is kept whole the number of a kind stands
for it as well as its name. -/
def kind? (numbered : List String) : Place → Json → Option String
  | _, text name => some name
  | kept, int number => if 0 ≤ number then numbered[number.toNat]? else none
  | _, _ => none

end Place

/-- The kind of a value and what remains of it: the member `type` of an object and its other
members, or the first item of an array and its other items. The value is kept whole. -/
def variant? (place : Place) (json : Json) (numbered : List String := []) :
    Option (String × Json) := do
  match ← place.keep? json with
  | object members =>
    match members.partition fun member => member.1 == "type" with
    | ([(_, kind)], rest) => return (← place.kind? numbered kind, object rest)
    | _ => none
  | array (kind :: rest) => return (← place.kind? numbered kind, array rest)
  | _ => none

/-! ### Writing members -/

/-- A member that is left out when there is no value. -/
def member? (name : String) (value : Option Json) : List (String × Json) :=
  value.toList.map fun json => (name, json)

/-- A text, or `null`. -/
def ofText? : Option String → Json
  | some value => text value
  | none => null

/-- An array of texts. -/
def ofTexts (values : List String) : Json :=
  array (values.map text)

end Json

end GraphBroker

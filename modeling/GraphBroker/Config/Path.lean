import GraphBroker.Json.Reader

/-!
# Paths to settings

The outermost names of a layer may lead further in: parts with points between
them lead through tables, and a number in brackets leads to an item of a list.
What a path leads through is made where it is not there.

## Main definitions

* `Step`: one step of a path.
* `Path.ofName`: the path that a name writes.
* `Path.change`: a value with a change at the end of a path.
-/

namespace GraphBroker.Config

/-- One step of a path. -/
inductive Step where
  /-- To a member of a table. -/
  | member (name : String)
  /-- To an item of a list. A negative number counts from the end. -/
  | item (number : Int)
deriving DecidableEq, Repr

/-- The steps from the outermost table to a setting. -/
abbrev Path := List Step

namespace Path

/-- Whether a character may stand in a part of a path. -/
def isPlain (c : Char) : Bool :=
  c.isAlphanum || c == '_' || c == '-'

/-- Blanks are passed over. -/
def skipBlanks (input : List Char) : List Char :=
  input.dropWhile fun c => c == ' ' || c == '\t'

/-- A member at the start, and what follows it. -/
def member? (input : List Char) : Option (Step × List Char) :=
  match input.takeWhile isPlain with
  | [] => none
  | name => some (.member (String.ofList name), input.dropWhile isPlain)

/-- An item at the start, after its opening bracket, and what follows its closing bracket. The
number fits a signed 64-bit word. -/
def item? (input : List Char) : Option (Step × List Char) :=
  let (negative, start) := match skipBlanks input with
    | '-' :: rest => (true, rest)
    | rest => (false, rest)
  let (ds, rest) := Json.digits start
  let n : Int := if negative then -(Text.ofDigits ds : Int) else Text.ofDigits ds
  match skipBlanks rest with
  | ']' :: rest =>
    if ds.isEmpty || n < -0x8000000000000000 || 0x7FFFFFFFFFFFFFFF < n then none
    else some (.item n, rest)
  | _ => none

/-- The steps after the first one; at most so many. -/
def steps? : Nat → List Char → Option Path
  | _, [] => some []
  | 0, _ => none
  | n + 1, c :: input => do
    let (step, rest) ← if c = '.' then member? input else if c = '[' then item? input else none
    return step :: (← steps? n rest)

/-- The path that a name writes; a name that writes none stands for itself. -/
def ofName (name : String) : Path :=
  let found := do
    let (first, rest) ← member? name.toList
    return first :: (← steps? rest.length rest)
  found.getD [.member name]

/-- The members of a table; none of another value. -/
def members : Json → List (String × Json)
  | .object members => members
  | _ => []

/-- The items of a list; none of another value. -/
def items : Json → List Json
  | .array items => items
  | _ => []

/-- The members with another value under a name. -/
def put (members : List (String × Json)) (name : String) (value : Json) : List (String × Json) :=
  if (members.lookup name).isSome then
    members.map fun member => if member.1 == name then (name, value) else member
  else members ++ [(name, value)]

/-- The items, filled up so that there is one of the given number; and its place. -/
def filled (items : List Json) (number : Int) : List Json × Nat :=
  let place := if number < 0 then items.length + number else number
  if place < 0 then (List.replicate place.natAbs .null ++ items, 0)
  else (items ++ List.replicate (place.toNat + 1 - items.length) .null, place.toNat)

/-- A value with a change at the end of a path. -/
def change (f : Json → Json) : Path → Json → Json
  | [], json => f json
  | .member name :: path, json =>
    let given := members json
    .object (put given name (change f path ((given.lookup name).getD .null)))
  | .item number :: path, json =>
    let (given, place) := filled (items json) number
    .array (given.modify place (change f path))

end Path

end GraphBroker.Config

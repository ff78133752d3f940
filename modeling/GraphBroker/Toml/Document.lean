import GraphBroker.Toml.Scalar

/-!
# TOML documents

A document is a sequence of lines. A line gives a value to a name in the current
table, or makes another table the current one. A name may have several parts,
which lead from table to table.

## Main definitions

* `Toml.Node`: a document while it is being read.
* `Toml.Node.assign?`, `Toml.Node.enter?`: what the lines do.
* `Toml.read?`: a document as a value.
-/

namespace GraphBroker.Toml

/-! ### Documents in the making -/

/-- How a table came to be. -/
inductive Origin where
  /-- On the way to a table of a header. -/
  | passed
  /-- By a header of its own. -/
  | headed
  /-- By a name with several parts. -/
  | dotted
deriving DecidableEq, Repr

/-- A document while it is being read. -/
inductive Node where
  /-- A value to which nothing can be added. -/
  | leaf (value : Json)
  /-- A table. -/
  | table (origin : Origin) (members : List (String × Node))
  /-- Tables under one name, the latest first. -/
  | tables (items : List (List (String × Node)))

namespace Node

mutual

/-- The value that has been read. -/
def value : Node → Json
  | leaf value => value
  | table _ members => .object (valueMembers members)
  | tables items => .array (valueItems items).reverse

/-- The values of the members. -/
def valueMembers : List (String × Node) → List (String × Json)
  | [] => []
  | (name, node) :: rest => (name, node.value) :: valueMembers rest

/-- The values of the tables. -/
def valueItems : List (List (String × Node)) → List Json
  | [] => []
  | members :: rest => .object (valueMembers members) :: valueItems rest

end

/-- The members with another node under a name. -/
def put (members : List (String × Node)) (name : String) (node : Node) : List (String × Node) :=
  if (members.lookup name).isSome then
    members.map fun member => if member.1 == name then (name, node) else member
  else members ++ [(name, node)]

/-- The members after a value is given to a name. The tables that its parts lead through may
not have a header of their own, but for the latest of several tables. A table that is given a
member has to be open: the current one, or one without a header of its own. -/
def assign? (isOpen : Bool) :
    List String → Json → List (String × Node) → Option (List (String × Node))
  | [], _, _ => none
  | [name], value, members =>
    if !isOpen || (members.lookup name).isSome then none
    else some (members ++ [(name, leaf value)])
  | name :: rest, value, members =>
    match members.lookup name with
    | none => (assign? true rest value []).map fun inner => put members name (table .dotted inner)
    | some (table .headed _) | some (leaf _) | some (tables []) => none
    | some (table origin inner) =>
      (assign? true rest value inner).map fun inner => put members name (table origin inner)
    | some (tables (inner :: items)) =>
      (assign? false rest value inner).map fun inner => put members name (tables (inner :: items))

/-- What a header does at the end of its path: it opens a table, or one more of several. -/
def opened? (several : Bool) : Option Node → Option Node
  | none => some (if several then tables [[]] else table .headed [])
  | some (table .passed inner) => if several then none else some (table .headed inner)
  | some (tables items) => if several then some (tables ([] :: items)) else none
  | some _ => none

/-- The members after a header with the given path. Where the path leads through several tables
under one name, the latest one is meant. -/
def enter? (several : Bool) : List String → List (String × Node) → Option (List (String × Node))
  | [], _ => none
  | [name], members => (opened? several (members.lookup name)).map (put members name)
  | name :: rest, members =>
    match members.lookup name with
    | none => (enter? several rest []).map fun inner => put members name (table .passed inner)
    | some (table origin inner) =>
      (enter? several rest inner).map fun inner => put members name (table origin inner)
    | some (tables (inner :: items)) =>
      (enter? several rest inner).map fun inner => put members name (tables (inner :: items))
    | some _ => none

/-- The members after a change of the current table, which a path leads to. -/
def within? (change : List (String × Node) → Option (List (String × Node))) :
    List String → List (String × Node) → Option (List (String × Node))
  | [], members => change members
  | name :: rest, members =>
    match members.lookup name with
    | some (table origin inner) =>
      (within? change rest inner).map fun inner => put members name (table origin inner)
    | some (tables (inner :: items)) =>
      (within? change rest inner).map fun inner => put members name (tables (inner :: items))
    | _ => none

end Node

/-! ### Reading -/

/-- Blanks within a line are passed over. -/
def skipBlanks (input : List Char) : List Char :=
  input.dropWhile fun c => c == ' ' || c == '\t'

/-- What follows a comment, if one stands at the start and can be read. -/
def skipComment? : List Char → Option (List Char)
  | '#' :: rest =>
    match rest.dropWhile isPlain with
    | [] => some []
    | after => if (afterBreak? after).isSome then some after else none
  | input => some input

/-- Blanks, comments and line breaks are passed over; at most so many lines. -/
def skipLines? : Nat → List Char → Option (List Char)
  | 0, _ => none
  | n + 1, input => do
    let rest ← skipComment? (skipBlanks input)
    match afterBreak? rest with
    | some next => skipLines? n next
    | none => some rest

/-- One part of a name. -/
def part? (input : List Char) : Option (String × List Char) :=
  let isBare := fun c : Char => c.isAlphanum || c == '_' || c == '-'
  match input.takeWhile isBare with
  | [] => quotedLine? input
  | bare => some (String.ofList bare, input.dropWhile isBare)

/-- How many parts a name may have, and how deep a value may be nested. -/
def maxDepth : Nat := 80

/-- The parts of a name with points between, at most so many, and what follows them after
blanks. -/
def parts? : Nat → List Char → Option (List String × List Char)
  | 0, _ => none
  | n + 1, input => do
    let (first, rest) ← part? (skipBlanks input)
    match skipBlanks rest with
    | '.' :: rest =>
      let (more, rest) ← parts? n rest
      return (first :: more, rest)
    | rest => return ([first], rest)

/-- A name, and what follows it after blanks. -/
def name? (input : List Char) : Option (List String × List Char) :=
  parts? maxDepth input

section Nested

variable (element : List Char → Option (Json × List Char))

/-- The items of an array up to its end, over several lines; at most so many. -/
def items? : Nat → List Char → Option (List Json × List Char)
  | 0, _ => none
  | n + 1, input => do
    match ← skipLines? (input.length + 1) input with
    | ']' :: rest => return ([], rest)
    | start =>
      let (first, rest) ← element start
      match ← skipLines? (rest.length + 1) rest with
      | ',' :: rest =>
        let (more, rest) ← items? n rest
        return (first :: more, rest)
      | ']' :: rest => return ([first], rest)
      | _ => none

/-- The members of a table within a value up to its end, over several lines; at most so many. -/
def inline? : Nat → List (String × Node) → List Char → Option (List (String × Node) × List Char)
  | 0, _, _ => none
  | n + 1, members, input => do
    match ← skipLines? (input.length + 1) input with
    | '\x7d' :: rest => return (members, rest)
    | start =>
      let (name, rest) ← name? start
      match ← skipLines? (rest.length + 1) rest with
      | '=' :: rest =>
        let (value, rest) ← element (← skipLines? (rest.length + 1) rest)
        let members ← Node.assign? true name value members
        match ← skipLines? (rest.length + 1) rest with
        | ',' :: rest => inline? n members rest
        | '\x7d' :: rest => return (members, rest)
        | _ => none
      | _ => none

end Nested

/-- A value without others in it. -/
def plain? (input : List Char) : Option (Json × List Char) :=
  match input with
  | '"' :: _ | '\'' :: _ => (quoted? input).map fun found => (.text found.1, found.2)
  | _ => word? input

/-- A value, nested at most so deep. -/
def value? : Nat → List Char → Option (Json × List Char)
  | 0, input => plain? input
  | depth + 1, input =>
    match input with
    | '[' :: rest =>
      (items? (value? depth) (rest.length + 1) rest).map fun found => (.array found.1, found.2)
    | '\x7b' :: rest =>
      (inline? (value? depth) (rest.length + 1) [] rest).map fun found =>
        (.object (Node.valueMembers found.1), found.2)
    | _ => plain? input

/-- The path of a header, with what follows its closing brackets, and whether it opens one of
several tables. -/
def header? (input : List Char) : Option (Bool × List String × List Char) :=
  match input with
  | '[' :: '[' :: rest => do
    let (path, rest) ← name? rest
    match rest with
    | ']' :: ']' :: rest => return (true, path, rest)
    | _ => none
  | '[' :: rest => do
    let (path, rest) ← name? rest
    match rest with
    | ']' :: rest => return (false, path, rest)
    | _ => none
  | _ => none

/-- The end of a line, after which the next one starts. -/
def endOfLine? (input : List Char) : Option (List Char) := do
  match ← skipComment? (skipBlanks input) with
  | [] => some []
  | rest => afterBreak? rest

/-- The members after the lines of a document, at most so many, in the table that a path leads
to. -/
def lines : Nat → List String → List (String × Node) → List Char → Option (List (String × Node))
  | 0, _, _, _ => none
  | n + 1, current, members, input => do
    match ← skipLines? (input.length + 1) input with
    | [] => return members
    | '[' :: rest =>
      let (several, path, rest) ← header? ('[' :: rest)
      lines n path (← Node.enter? several path members) (← endOfLine? rest)
    | start =>
      let (name, rest) ← name? start
      match rest with
      | '=' :: rest =>
        let (value, rest) ← value? maxDepth (skipBlanks rest)
        lines n current (← Node.within? (Node.assign? true name value) current members)
          (← endOfLine? rest)
      | _ => none

/-- A text without the mark of the order of bytes, which may stand at its start. -/
def unmarked : List Char → List Char
  | '\ufeff' :: rest => rest
  | cs => cs

/-- The document that a text spells. A mark may have been put in front twice. -/
def read? (text : String) : Option Json :=
  let cs := unmarked (unmarked text.toList)
  (lines (cs.length + 2) [] [] cs).map fun members => .object (Node.valueMembers members)

end GraphBroker.Toml

import GraphBroker.Json.Basic

/-!
# JSON texts

Writes a value on one line without spaces, or over several lines with two
spaces for each level.

## Main definitions

* `Json.compress`: the shortest text of a value.
* `Json.pretty`: the text laid out over several lines.
-/

namespace GraphBroker.Json

/-- Four hexadecimal digits of a code unit. -/
def hex4 (unit : Nat) : List Char :=
  let digits := Nat.toDigits 16 unit
  List.replicate (4 - digits.length) '0' ++ digits

/-- What stands for a character inside a JSON text. -/
def escaped (c : Char) : List Char :=
  if c = '"' then ['\\', '"']
  else if c = '\\' then ['\\', '\\']
  else if c = '\n' then ['\\', 'n']
  else if c = '\r' then ['\\', 'r']
  else if c = '\t' then ['\\', 't']
  else if c = '\x08' then ['\\', 'b']
  else if c = '\x0c' then ['\\', 'f']
  else if c.toNat < 0x20 then '\\' :: 'u' :: hex4 c.toNat
  else [c]

/-- A text in quotes. -/
def quote (value : String) : String :=
  String.ofList ('"' :: (value.toList.flatMap escaped ++ ['"']))

mutual

/-- The shortest text of a value. -/
def compress : Json → String
  | null => "null"
  | bool true => "true"
  | bool false => "false"
  | int value => toString value
  | real spelling => spelling
  | text value => quote value
  | array items => "[" ++ compressItems items ++ "]"
  | object members => "\x7b" ++ compressMembers members ++ "\x7d"
  | unreadable => "null"

/-- The items with commas between them. -/
def compressItems : List Json → String
  | [] => ""
  | [item] => item.compress
  | item :: rest => item.compress ++ "," ++ compressItems rest

/-- The members with commas between them. -/
def compressMembers : List (String × Json) → String
  | [] => ""
  | [(name, value)] => quote name ++ ":" ++ value.compress
  | (name, value) :: rest => quote name ++ ":" ++ value.compress ++ "," ++ compressMembers rest

end

/-- A line break and the blanks of a level. -/
def lineBreak (level : Nat) : String :=
  String.ofList ('\n' :: List.replicate (2 * level) ' ')

mutual

/-- The text of a value that starts at the given level. -/
def prettyAt (level : Nat) : Json → String
  | array [] => "[]"
  | array items => "[" ++ prettyItems (level + 1) items ++ lineBreak level ++ "]"
  | object [] => "\x7b\x7d"
  | object members => "\x7b" ++ prettyMembers (level + 1) members ++ lineBreak level ++ "\x7d"
  | null => "null"
  | bool true => "true"
  | bool false => "false"
  | int value => toString value
  | real spelling => spelling
  | text value => quote value
  | unreadable => "null"

/-- The items, each on a line of its own. -/
def prettyItems (level : Nat) : List Json → String
  | [] => ""
  | [item] => lineBreak level ++ item.prettyAt level
  | item :: rest => lineBreak level ++ item.prettyAt level ++ "," ++ prettyItems level rest

/-- The members, each on a line of its own. -/
def prettyMembers (level : Nat) : List (String × Json) → String
  | [] => ""
  | [(name, value)] => lineBreak level ++ quote name ++ ": " ++ value.prettyAt level
  | (name, value) :: rest =>
    lineBreak level ++ quote name ++ ": " ++ value.prettyAt level ++ "," ++
      prettyMembers level rest

end

/-- The text of a value laid out over several lines. -/
def pretty (json : Json) : String :=
  json.prettyAt 0

end GraphBroker.Json

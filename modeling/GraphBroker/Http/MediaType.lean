import GraphBroker.Text.Blank

/-!
# Media types

A media type names a kind of content, `type/subtype`, where the subtype may end
in a suffix after a plus sign. Parameters may follow after semicolons.

## Main definitions

* `MediaType`, `MediaType.ofString?`.
* `MediaType.isJson`: the kinds of content that are JSON.
-/

namespace GraphBroker.Http

/-- A kind of content, in lower case and without its parameters. -/
structure MediaType where
  /-- The general kind. -/
  type : String
  /-- The particular kind, without its suffix. -/
  subtype : String
  /-- What it is written in. -/
  suffix : Option String
deriving DecidableEq, Repr

namespace MediaType

/-- The characters of names and of values without quotes. -/
def isToken (c : Char) : Bool :=
  c.isAlphanum || "!#$%&'*+-.^_`|~".toList.contains c

/-- What follows the value of a parameter: nothing, or a semicolon and more parameters. -/
def afterQuoted : List Char → Option (List Char)
  | [] => some []
  | ';' :: rest => some rest
  | ' ' :: rest => afterQuoted rest
  | _ => none

/-- Where in a parameter one is. -/
inductive Place where
  /-- Before the name. -/
  | start
  /-- In the name. -/
  | name
  /-- Before the value. -/
  | value
  /-- In a value without quotes. -/
  | plain
  /-- After the opening quote. -/
  | opened
  /-- In a value with quotes. -/
  | quoted
  /-- After the closing quote. -/
  | closed

/-- Whether parameters can be read, from a place in one of them. A value has at least one
character, and a name is followed by a value. -/
def parametersFrom : Place → List Char → Bool
  | .start, [] => true
  | .start, c :: rest =>
    if c == ' ' then parametersFrom .start rest else isToken c && parametersFrom .name rest
  | .name, [] => false
  | .name, c :: rest =>
    if c == '=' then parametersFrom .value rest else isToken c && parametersFrom .name rest
  | .value, [] => true
  | .value, c :: rest =>
    if c == '"' then parametersFrom .opened rest else isToken c && parametersFrom .plain rest
  | .plain, [] => true
  | .plain, c :: rest =>
    if c == ';' then parametersFrom .start rest else isToken c && parametersFrom .plain rest
  | .opened, [] => false
  | .opened, c :: rest => c != '\t' && parametersFrom .quoted rest
  | .quoted, [] => false
  | .quoted, c :: rest =>
    if c == '"' then parametersFrom .closed rest else c != '\t' && parametersFrom .quoted rest
  | .closed, [] => true
  | .closed, c :: rest =>
    if c == ';' then parametersFrom .start rest else c == ' ' && parametersFrom .closed rest

/-- The subtype and the suffix of a name: the suffix follows the last plus sign that does not
stand at the start. -/
def splitSuffix (name : List Char) : List Char × Option (List Char) :=
  let suffix := (name.reverse.takeWhile (· != '+')).reverse
  let rest := (name.reverse.dropWhile (· != '+')).drop 1
  if rest.isEmpty then (name, none) else (rest.reverse, some suffix)

/-- The media type that a text spells. -/
def ofString? (text : String) : Option MediaType :=
  let cs := text.toList
  let type := cs.takeWhile isToken
  match cs.dropWhile isToken with
  | '/' :: afterSlash =>
    let name := afterSlash.takeWhile isToken
    let lower (cs : List Char) : String := (String.ofList cs).toLower
    let found : MediaType :=
      ⟨lower type, lower (splitSuffix name).1, (splitSuffix name).2.map lower⟩
    match afterSlash.dropWhile isToken with
    | [] => if type.isEmpty then none else some found
    | ';' :: rest =>
      if type.isEmpty || name.isEmpty || !parametersFrom .start rest then none else some found
    | _ => none
  | _ => none

/-- Whether content of this kind is JSON. -/
def isJson (m : MediaType) : Bool :=
  m.type == "application" && (m.subtype == "json" || m.suffix == some "json")

end MediaType

/-- A content type without its parameters and the blanks around it. -/
def essence (contentType : String) : String :=
  Text.trim (String.ofList (contentType.toList.takeWhile (· != ';')))

end GraphBroker.Http

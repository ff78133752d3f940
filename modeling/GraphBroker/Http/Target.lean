/-!
# Targets of requests

A request is aimed at a path, which a query may follow. A scheme and a host may
come before the path. There may also be a host alone, or the asterisk that stands
for all paths.

## Main definitions

* `Target.isHost`: whether characters are a host, with a user before it and a port behind.
* `Target.path?`: the path of a target, if it can be sent.
-/

namespace GraphBroker.Http.Target

/-! ### Paths -/

/-- Whether a character may stand in a path. -/
def inPath (c : Char) : Bool :=
  '!' ≤ c && !"<>`".toList.contains c

/-- Whether a character may stand in a query. -/
def inQuery (c : Char) : Bool :=
  '!' ≤ c && !"\"<>".toList.contains c

/-- Whether a character belongs to a path and does not end it. -/
def goesOn (c : Char) : Bool :=
  c != '?' && c != '#'

/-- The path at the start, if it and its query can be sent. What follows a number sign does not
count. -/
def pathOf? (cs : List Char) : Option String :=
  let path := cs.takeWhile goesOn
  let query := match cs.dropWhile goesOn with
    | '?' :: rest => rest.takeWhile (· != '#')
    | _ => []
  if path.all inPath && query.all inQuery then some (String.ofList path) else none

/-! ### Hosts -/

/-- What has been met in a host. -/
structure Scan where
  /-- How many colons there are behind the last at sign or bracket. -/
  colons : Nat := 0
  /-- Whether a bracket has been opened. -/
  isOpened : Bool := false
  /-- Whether it has been closed. -/
  isClosed : Bool := false
  /-- Whether there is a percent sign behind the last at sign or bracket. -/
  hasPercent : Bool := false
  /-- Whether the last character is an at sign. -/
  endsInAt : Bool := false
deriving DecidableEq, Repr

/-- How many colons an address may have. -/
def maxColons : Nat := 8

/-- What has been met after one more character, if it may come next. -/
def Scan.step? (s : Scan) (c : Char) : Option Scan :=
  let next := { s with endsInAt := c == '@' }
  if c = ':' then
    if s.colons < maxColons then some { next with colons := s.colons + 1 } else none
  else if c = '[' then
    if s.hasPercent || s.isOpened then none else some { next with isOpened := true }
  else if c = ']' then
    if !s.isOpened || s.isClosed then none
    else some { next with isClosed := true, colons := 0, hasPercent := false }
  else if c = '@' then some { next with colons := 0, hasPercent := false }
  else if c = '%' then some { next with hasPercent := true }
  else if c.isAlphanum || "!$&'()*+,-.;=_~".toList.contains c then some next
  else none

/-- Whether characters are a host. Only a user may have percent signs, and at most one colon
comes before a port. -/
def isHost (cs : List Char) : Bool :=
  match cs.foldlM Scan.step? {} with
  | some s => s.isOpened == s.isClosed && s.colons ≤ 1 && !s.hasPercent && !s.endsInAt
  | none => false

/-! ### Targets -/

/-- The greatest number of bytes of a target. -/
def maxSize : Nat := 65534

/-- The greatest number of characters of a scheme. -/
def maxScheme : Nat := 64

/-- The scheme of a target, if it has one, and what follows it. -/
def scheme? (target : List Char) : Option (List Char × List Char) :=
  let inScheme := fun c : Char => c.isAlphanum || c == '+' || c == '-' || c == '.'
  match target.dropWhile inScheme with
  | ':' :: '/' :: '/' :: rest => some (target.takeWhile inScheme, rest)
  | _ => none

/-- The path behind a host, which has to be there. -/
def behindHost? (cs : List Char) : Option String :=
  let inHost := fun c : Char => c != '/' && goesOn c
  let host := cs.takeWhile inHost
  if host.isEmpty || !isHost host then none
  else (pathOf? (cs.dropWhile inHost)).map fun path => if path.isEmpty then "/" else path

/-- The path of a target, if the target can be sent. A host alone has none. -/
def path? (target : String) : Option String :=
  if maxSize < target.utf8ByteSize then none
  else
    match target.toList with
    | [] => none
    | ['*'] => some "*"
    | '/' :: rest => pathOf? ('/' :: rest)
    | cs =>
      match scheme? cs with
      | some (scheme, rest) => if maxScheme < scheme.length then none else behindHost? rest
      | none => if isHost cs then some "" else none

end GraphBroker.Http.Target

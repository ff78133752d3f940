/-!
# Patterns of paths

A pattern stands for paths. A name in braces stands for what is left of a
segment, a name after an asterisk in braces for what is left of the path; neither
may be empty. Two equal braces stand for one of them.

## Main definitions

* `Pattern`: a pattern by its parts.
* `Pattern.ofText?`: the pattern that a text spells.
* `Pattern.covers`: whether a path is one of those that a pattern stands for.
-/

namespace GraphBroker.Http

/-- A part of a pattern. -/
inductive Part where
  /-- A character that stands for itself. -/
  | literal (c : Char)
  /-- What is left of a segment. -/
  | segment
  /-- What is left of the path. -/
  | rest
deriving DecidableEq, Repr

/-- A pattern by its parts. -/
abbrev Pattern := List Part

namespace Pattern

/-- The characters, each with whether it is a brace that stands for itself. -/
def unescape : List Char → List (Char × Bool)
  | '\x7b' :: '\x7b' :: cs => ('\x7b', true) :: unescape cs
  | '\x7d' :: '\x7d' :: cs => ('\x7d', true) :: unescape cs
  | c :: cs => (c, false) :: unescape cs
  | [] => []

/-- What follows a name and its closing brace. -/
def afterName? : List (Char × Bool) → Option (List (Char × Bool))
  | [] => none
  | ('\x7d', false) :: cs => some cs
  | (c, _) :: cs => if c = '*' ∨ c = '/' then none else afterName? cs

/-- The part that stands in braces, and what follows it. Behind the braces a new segment starts,
or the path ends. -/
def braced? : List (Char × Bool) → Option (Part × List (Char × Bool))
  | [] | ('\x7d', _) :: _ => none
  | (c, _) :: cs => do
    let after ← afterName? cs
    if c = '*' then
      if after.isEmpty && after.length + 1 < cs.length then some (.rest, []) else none
    else
      match after with
      | [] => some (.segment, [])
      | (d, _) :: _ => if d = '/' then some (.segment, after) else none

/-- The parts that characters spell; at most so many. -/
def parts? : Nat → List (Char × Bool) → Option Pattern
  | _, [] => some []
  | 0, _ => none
  | n + 1, (c, plain) :: cs =>
    if plain || !(c = '\x7b' || c = '\x7d') then (parts? n cs).map (.literal c :: ·)
    else if c = '\x7d' then none
    else do
      let (part, after) ← braced? cs
      return part :: (← parts? n after)

/-- How many segments a pattern may leave open. -/
def maxSegments : Nat := 25

/-- The pattern that a text spells. It starts with a slash, and no segment starts with a colon
or an asterisk. -/
def ofText? (text : String) : Option Pattern :=
  let isPlain (segment : String) : Bool := !segment.startsWith ":" && !segment.startsWith "*"
  if text.startsWith "/" && (text.splitOn "/").all isPlain then
    (parts? text.length (unescape text.toList)).filter fun parts =>
      parts.count .segment ≤ maxSegments
  else none

/-- Whether characters are one of the paths that a pattern stands for. -/
def covers : Pattern → List Char → Bool
  | [], cs => cs.isEmpty
  | .literal c :: parts, d :: cs => c == d && covers parts cs
  | .literal _ :: _, [] => false
  | .segment :: parts, cs =>
    cs.head?.any (· != '/') && covers parts (cs.dropWhile (· != '/'))
  | .rest :: _, cs => !cs.isEmpty

end Pattern

end GraphBroker.Http

import GraphBroker.Fault.Basic

/-!
# Messages in fragments

A message may arrive in several fragments, of which the last is marked. They are
kept until then. A message that grows too large is thrown away as a whole.

## Main definitions

* `Fragments`: what has arrived of a message.
* `Fragments.push`: one more fragment.
-/

namespace GraphBroker

/-- What has arrived of a message that is not complete. -/
structure Fragments where
  /-- The greatest number of bytes of a message. -/
  maxSize : Nat
  /-- The text so far. -/
  buffer : String := ""
  /-- The number of fragments so far. -/
  count : Nat := 0
deriving DecidableEq, Repr

namespace Fragments

/-- Nothing has arrived. -/
def clear (f : Fragments) : Fragments :=
  { maxSize := f.maxSize }

/-- Whether a message has arrived in part. -/
def isPending (f : Fragments) : Bool :=
  f.count != 0

/-- The fault of a message that is too large. -/
def tooLarge (maxSize received : Nat) : Fault :=
  .protocol ("Message exceeds maximum size of " ++ toString maxSize ++ " bytes (" ++
    toString received ++ " received)")

/-- Takes one more fragment `chunk`. The last one completes the message. -/
def push (f : Fragments) (chunk : String) (isLast : Bool) :
    Outcome (Option String) × Fragments :=
  let received := f.buffer.utf8ByteSize + chunk.utf8ByteSize
  if f.maxSize < received then (.error (tooLarge f.maxSize received), f.clear)
  else if isLast && f.count == 0 then (.ok (some chunk), f)
  else if isLast then (.ok (some (f.buffer ++ chunk)), f.clear)
  else (.ok none, { f with buffer := f.buffer ++ chunk, count := f.count + 1 })

end Fragments

end GraphBroker

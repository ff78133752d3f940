/-!
# States of a gate

A gate is open, then closing, then closed, and never goes back.

## Main definitions

* `GateState`, `GateState.advance`.
-/

namespace GraphBroker

/-- The states of a gate. -/
inductive GateState where
  /-- Messages go both ways. -/
  | opened
  /-- The connection is going away. -/
  | closing
  /-- The connection is gone. -/
  | closed
deriving DecidableEq, Repr, Inhabited

namespace GateState

/-- The place of the state in the life of a gate. -/
def rank : GateState → Nat
  | opened => 0
  | closing => 1
  | closed => 2

/-- All states in their order. -/
def all : List GateState := [opened, closing, closed]

/-- The state as one word. -/
def name : GateState → String
  | opened => "open"
  | closing => "closing"
  | closed => "closed"

/-- The state as it is shown. -/
def label : GateState → String
  | opened => "OPEN"
  | closing => "CLOSING"
  | closed => "CLOSED"

/-- The state of the given `name`. -/
def ofName? (name : String) : Option GateState :=
  all.find? (·.name == name)

/-- Whether `s` comes after `t`. -/
def isAfter (s t : GateState) : Bool :=
  t.rank < s.rank

/-- The later one of `s` and `next`. -/
def advance (s next : GateState) : GateState :=
  if next.isAfter s then next else s

end GateState

end GraphBroker

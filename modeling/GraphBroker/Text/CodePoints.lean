/-!
# Sets of code points

A Unicode property is a set of code points, written as the list of its runs. A
run is a pair of its first and its last member.
-/

namespace GraphBroker.Text

/-- A set of code points as a list of runs, each given by its two ends. -/
abbrev CodePoints := List (Nat × Nat)

/-- Whether a code point lies in one of the runs. -/
def CodePoints.has (runs : CodePoints) (point : Nat) : Bool :=
  runs.any fun run => run.1 ≤ point && point ≤ run.2

end GraphBroker.Text

import GraphBroker.Cli.Run

/-!
# The command line

No transport is linked into the program: every exchange finds the network
unreachable, and the program says so.
-/

open GraphBroker

/-- Carries out what the arguments ask for. A run holds no token at its start and uses a token
as soon as it has it, so the time of day does not matter. -/
def main (arguments : List String) : IO UInt32 := do
  let (run, _) := Cli.run 0 arguments (⟨⟩ : Unreachable)
  IO.print run.stdout
  IO.eprint run.stderr
  return UInt32.ofNat run.exit

import GraphBroker.Config.Basic
import GraphBroker.Fault.Basic

/-!
# Secrets of clients

A secret is stored so that it can be checked but not read off. How it is hidden
does not matter here: what is stored matches exactly the secret it was made of.

## Main definitions

* `HashCost`: what it costs to hide a secret, within bounds.
* `StoredSecret`: a stored secret; `StoredSecret.verify` checks a candidate.
-/

namespace GraphBroker

/-- What it costs to hide a secret. -/
structure HashCost where
  /-- The memory in KiB. -/
  memoryKib : Nat
  /-- The number of rounds. -/
  iterations : Nat
deriving DecidableEq, Repr

namespace HashCost

/-- The cost that the settings ask for: at least 8 KiB and one round. -/
def ofConfig (config : AuthConfig) : Outcome HashCost :=
  if config.hashMemoryKib < 8 then
    .error (.configuration "Invalid Argon2 parameters: memory cost is too small")
  else if config.hashIterations < 1 then
    .error (.configuration "Invalid Argon2 parameters: time cost is too small")
  else .ok ⟨config.hashMemoryKib, config.hashIterations⟩

/-- How a stored secret starts. -/
def label (c : HashCost) : String :=
  "$argon2id$v=19$m=" ++ toString c.memoryKib ++ ",t=" ++ toString c.iterations ++ ",p=1"

end HashCost

/-- A stored secret. -/
structure StoredSecret where
  /-- The one text that matches. -/
  secret : String
deriving DecidableEq, Repr

namespace StoredSecret

/-- Stores a secret. -/
def ofSecret (secret : String) : StoredSecret := ⟨secret⟩

/-- Whether `candidate` is the secret. -/
def verify (s : StoredSecret) (candidate : String) : Bool :=
  s.secret == candidate

@[simp] theorem verify_ofSecret {secret candidate : String} :
    (ofSecret secret).verify candidate = true ↔ secret = candidate := by
  simp [verify, ofSecret]

end StoredSecret

end GraphBroker

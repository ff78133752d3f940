import GraphBroker.Text.Base64
import GraphBroker.Uuid

/-!
# A supply of fresh values

Names and secrets that have not been used before are drawn from a supply, which
counts how far it has been used up.

## Main definitions

* `Supply`, with `Supply.uuid` and `Supply.secret`.
-/

namespace GraphBroker

/-- A supply of fresh values. -/
structure Supply where
  /-- The number from which the next value is made. -/
  next : Nat
deriving DecidableEq, Repr, Inhabited

namespace Supply

/-- The supply after a value has been drawn. -/
def rest (s : Supply) : Supply := ⟨s.next + 1⟩

/-- The next name. -/
def uuid (s : Supply) : Uuid := .ofNat s.next

/-- The 32 bytes of a number. -/
def bytes (n : Nat) : List UInt8 :=
  (List.range 32).reverse.map fun i => UInt8.ofNat (n / Nat.pow 256 i)

/-- The next secret: 32 bytes in base 64. -/
def secret (s : Supply) : String :=
  String.ofList (Base64.encode .url (bytes s.next))

end Supply

end GraphBroker

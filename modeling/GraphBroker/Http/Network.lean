import GraphBroker.Text.Digits
import GraphBroker.Text.Utf8

/-!
# Networks

Where requests are sent to, as seen by the one who sends them: an exchange either
brings a reply or fails, and it may change the network.

## Main definitions

* `Network`: the networks whose states are of a given type.
* `Outgoing`, `Reply`: the two halves of an exchange.
* `Unreachable`, `Scripted`: a network on which nothing answers, and one that gives replies in
  their order and remembers what was sent.
-/

namespace GraphBroker

/-- What is sent, always by `POST`. -/
structure Outgoing where
  /-- Where it is sent to. -/
  url : String
  /-- What the body is. -/
  contentType : Option String := none
  /-- What the reply should be. -/
  accept : Option String := none
  /-- Who asks. -/
  authorization : Option String := none
  /-- The body. -/
  body : String := ""
deriving DecidableEq, Repr

/-- What comes back. -/
structure Reply where
  /-- The status. -/
  status : Nat
  /-- The bytes of the body. -/
  body : List UInt8
deriving DecidableEq, Repr

/-- The body of a reply as text. -/
def Reply.text (r : Reply) : String :=
  Utf8.decodeLossy r.body

/-- Networks whose states are of the type `ν`. -/
class Network (ν : Type) where
  /-- Sends a request and waits for the reply, which may not come. -/
  exchange : Outgoing → ν → Option Reply × ν
  /-- Whether one can listen at a host. -/
  binds : String → ν → Bool
  /-- Whether a channel can be opened at a URL. -/
  connects : String → ν → Bool
  /-- What comes over the channel at a URL after a text is sent, until the channel is closed. -/
  listen : String → String → ν → List String

/-- Whether a text is one of the four numbers of an address. -/
def isOctet (text : String) : Bool :=
  text.length ≤ 3 && !text.isEmpty && text.toList.all Char.isDigit &&
    Text.ofDigits text.toList < 256

/-- Whether a host is known to a machine that nobody tells about others: it is an address of
four numbers, the address that stands for all of the machine's own, or the machine itself. -/
def isKnownHost (host : String) : Bool :=
  let numbers := host.splitOn "."
  ["localhost", "::", "[::]"].contains host || (numbers.length == 4 && numbers.all isOctet)

/-- A network on which nothing answers. -/
structure Unreachable where
deriving DecidableEq, Repr, Inhabited

instance : Network Unreachable where
  exchange _ network := (none, network)
  binds host _ := isKnownHost host
  connects _ _ := false
  listen _ _ _ := []

/-- A network that gives replies in their order, until none is left, and remembers what was
sent. A reply that is missing is a connection that breaks. -/
structure Scripted where
  /-- The replies that are left. -/
  replies : List (Option Reply) := []
  /-- What was sent, the oldest first. -/
  sent : List Outgoing := []
deriving DecidableEq, Repr, Inhabited

instance : Network Scripted where
  exchange request network :=
    (network.replies.head?.join, ⟨network.replies.tail, network.sent ++ [request]⟩)
  binds host _ := isKnownHost host
  connects _ _ := false
  listen _ _ _ := []

end GraphBroker

/-!
# Faults

What a request can fail with. The kind of a fault decides the status and, unless
the fault names another one, the code under which a client is told of it.

## Main definitions

* `FaultKind`: the kinds, with `FaultKind.status`, `FaultKind.code` and `FaultKind.label`.
* `Fault`: a kind, a message and possibly a code of its own.
-/

namespace GraphBroker

/-- The kinds of fault. -/
inductive FaultKind where
  /-- A message could not be read or breaks the rules of the channel. -/
  | protocol
  /-- A resource that is not served. -/
  | notFound
  /-- Missing or wrong credentials, a wrong token, or a registration denied. -/
  | security
  /-- A good token past its time. -/
  | tokenExpired
  /-- The query engine refused a request. -/
  | execution
  /-- A connection failed. -/
  | transport
  /-- The configuration is wrong. -/
  | configuration
  /-- A value could not be encoded or decoded. -/
  | serialization
  /-- Anything else. -/
  | internal
deriving DecidableEq, Repr

namespace FaultKind

/-- The HTTP status of a fault of this kind. -/
def status : FaultKind → Nat
  | protocol | serialization | execution => 400
  | notFound => 404
  | security | tokenExpired => 401
  | transport => 502
  | configuration | internal => 500

/-- The code of a fault of this kind. -/
def code : FaultKind → String
  | protocol => "parsing_failed"
  | notFound => "wrong_path"
  | security => "invalid_client"
  | tokenExpired => "invalid_grant"
  | execution => "execution_error"
  | transport => "transport_error"
  | configuration => "configuration_error"
  | serialization => "serialization_error"
  | internal => "internal_error"

/-- The kind as one word. -/
def name : FaultKind → String
  | protocol => "Protocol"
  | notFound => "NotFound"
  | security => "Security"
  | tokenExpired => "TokenExpired"
  | execution => "Execution"
  | transport => "Transport"
  | configuration => "Configuration"
  | serialization => "Serialization"
  | internal => "Internal"

/-- The kind in front of a message. -/
def label : FaultKind → String
  | protocol => "PROTOCOL"
  | notFound => "NOT_FOUND"
  | security => "SECURITY"
  | tokenExpired => "TOKEN_EXPIRED"
  | execution => "EXECUTION"
  | transport => "TRANSPORT"
  | configuration => "CONFIGURATION"
  | serialization => "SERIALIZATION"
  | internal => "INTERNAL"

/-- All kinds. -/
def all : List FaultKind :=
  [protocol, notFound, security, tokenExpired, execution, transport, configuration,
    serialization, internal]

/-- The kind with the given name. -/
def ofName? (name : String) : Option FaultKind :=
  all.find? (·.name == name)

end FaultKind

/-- The codes that a fault may carry instead of the one of its kind. -/
inductive FaultCode where
  /-- The identity may not register or use the broker. -/
  | unauthorizedClient
  /-- The grant asked for is not offered. -/
  | unsupportedGrantType
deriving DecidableEq, Repr

/-- The text of a code. -/
def FaultCode.text : FaultCode → String
  | unauthorizedClient => "unauthorized_client"
  | unsupportedGrantType => "unsupported_grant_type"

/-- Why a request failed. -/
structure Fault where
  /-- The kind of fault. -/
  kind : FaultKind
  /-- The message for a person. -/
  message : String
  /-- A code in place of the one of the kind. -/
  ownCode : Option FaultCode := none
deriving DecidableEq, Repr

namespace Fault

/-- A fault of the kind `protocol`. -/
def protocol (message : String) : Fault := { kind := .protocol, message }

/-- A fault of the kind `notFound`. -/
def notFound (message : String) : Fault := { kind := .notFound, message }

/-- A fault of the kind `security`. -/
def security (message : String) : Fault := { kind := .security, message }

/-- A fault of the kind `tokenExpired`. -/
def tokenExpired (message : String) : Fault := { kind := .tokenExpired, message }

/-- A fault of the kind `execution`. -/
def execution (message : String) : Fault := { kind := .execution, message }

/-- A fault of the kind `transport`. -/
def transport (message : String) : Fault := { kind := .transport, message }

/-- A fault of the kind `configuration`. -/
def configuration (message : String) : Fault := { kind := .configuration, message }

/-- A fault of the kind `internal`. -/
def internal (message : String) : Fault := { kind := .internal, message }

/-- A JSON text that does not spell a value of the type asked for. The star stands for the
description of the spot. -/
def unreadableJson : Fault :=
  { kind := .serialization, message := "JSON serialization error: *" }

/-- The fault with a code of its own. -/
def withCode (fault : Fault) (code : FaultCode) : Fault :=
  { fault with ownCode := some code }

/-- The HTTP status under which the fault is reported. -/
def status (fault : Fault) : Nat := fault.kind.status

/-- The code under which the fault is reported. -/
def code (fault : Fault) : String :=
  match fault.ownCode with
  | some own => own.text
  | none => fault.kind.code

/-- The fault on one line: its kind, a colon and its message. -/
def line (fault : Fault) : String :=
  fault.kind.label ++ ": " ++ fault.message

instance : ToString Fault := ⟨line⟩

end Fault

/-- What a request comes to: a value or a fault. -/
abbrev Outcome := Except Fault

theorem map_eq_ok_iff {ε α β : Type} {f : α → β} {x : Except ε α} {b : β} :
    x.map f = .ok b ↔ ∃ a, x = .ok a ∧ f a = b := by
  cases x <;> simp [Except.map]

theorem bind_eq_ok_iff {ε α β : Type} {x : Except ε α} {f : α → Except ε β} {b : β} :
    x >>= f = .ok b ↔ ∃ a, x = .ok a ∧ f a = .ok b := by
  cases x <;> simp [bind, Except.bind]

end GraphBroker

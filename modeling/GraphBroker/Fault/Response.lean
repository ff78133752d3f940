import GraphBroker.Fault.Basic
import GraphBroker.Json.Basic

/-!
# Error responses

How a fault is told to a client, and what fault a client makes of it. A client
recognises an error by the member `error`.

## Main definitions

* `ErrorResponse`: status, code and description.
* `Fault.response`: the response that tells of a fault.
* `ErrorResponse.toFault`: the fault that a client reads from a response.
-/

namespace GraphBroker

/-- What a client is told about a fault. -/
structure ErrorResponse where
  /-- The HTTP status. -/
  status : Nat
  /-- The code. -/
  error : String
  /-- The message. -/
  description : String
deriving DecidableEq, Repr

/-- The response that tells of the fault. -/
def Fault.response (fault : Fault) : ErrorResponse :=
  ⟨fault.status, fault.code, fault.message⟩

namespace ErrorResponse

/-- Whether the response says that a token is past its time, so that the client should get
another one and try once more. -/
def isTokenExpired (r : ErrorResponse) : Bool :=
  r.status == 401 && r.error == "invalid_grant"

/-- The kind of fault that the response tells of. -/
def kind (r : ErrorResponse) : FaultKind :=
  if r.status = 401 then
    if r.error = "invalid_grant" then .tokenExpired else .security
  else if r.status = 404 then .notFound
  else if r.error = "execution_error" then .execution
  else if r.status = 400 then .protocol
  else if r.status = 502 then .transport
  else .internal

/-- The fault that a client reads from the response. -/
def toFault (r : ErrorResponse) : Fault :=
  let fault : Fault := { kind := r.kind, message := r.description }
  if r.error = FaultCode.unauthorizedClient.text then fault.withCode .unauthorizedClient
  else fault

/-- The members of the response. -/
def members (r : ErrorResponse) : List (String × Json) :=
  [("status_code", .int r.status), ("error", .text r.error),
    ("error_description", .text r.description)]

/-- The response as JSON. -/
def toJson (r : ErrorResponse) : Json :=
  .object r.members

/-- The response that a JSON value spells. -/
def ofJson? (json : Json) : Option ErrorResponse := do
  let fields ← json.fields? ["status_code", "error", "error_description"]
  return {
    status := ← fields.required? "status_code" (Json.nat? 16)
    error := ← fields.required? "error" Json.text?
    description := ← fields.required? "error_description" Json.text? }

end ErrorResponse

end GraphBroker

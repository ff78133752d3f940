import GraphBroker.Fault.Basic
import GraphBroker.Json.Stream
import GraphBroker.Json.Writer
import GraphBroker.Text.Base64

/-!
# Access tokens

A token is three parts with dots between them. The middle part holds the claims:
whom the token is for, who issued it, and when it starts and ends to be good.

## Main definitions

* `Claims`: what a token says, with `Claims.isExpired`.
* `AccessToken`: the text of a token; `AccessToken.claims` reads it without checking the signature.
-/

namespace GraphBroker

/-- What a token says. -/
structure Claims where
  /-- Whom the token is for. -/
  subject : String
  /-- Who issued the token. -/
  issuer : String
  /-- The second from which on it is good. -/
  issuedAt : Int
  /-- The last second at which it is good. -/
  expiresAt : Int
  /-- Tells the token from all others. -/
  id : String
deriving DecidableEq, Repr

namespace Claims

/-- For how many seconds the token is good. -/
def period (c : Claims) : Int :=
  c.expiresAt - c.issuedAt

/-- Whether the token is past its time `now`. -/
def isExpired (c : Claims) (now : Int) : Bool :=
  c.issuedAt + c.period < now

/-- The claims as JSON. -/
def toJson (c : Claims) : Json :=
  .object [("sub", .text c.subject), ("iss", .text c.issuer), ("iat", .int c.issuedAt),
    ("exp", .int c.expiresAt), ("jti", .text c.id)]

/-- The claims that a JSON value spells. -/
def ofJson? (json : Json) : Option Claims := do
  let fields ← json.fields? ["sub", "iss", "iat", "exp", "jti"]
  return {
    subject := ← fields.required? "sub" Json.text?
    issuer := ← fields.required? "iss" Json.text?
    issuedAt := ← fields.required? "iat" Json.int64?
    expiresAt := ← fields.required? "exp" Json.int64?
    id := ← fields.defaulted? "jti" "" Json.text? }

/-- Decodes claims. -/
def decoder : Json.Decoder Claims :=
  .record ["sub", "iss", "iat", "exp", "jti"]
    (fun (given : List (String × Json)) name => do
      let value ← if name = "iat" ∨ name = "exp" then .int <$> .int64 else .text <$> .text
      return (name, value) :: given)
    [] fun given => ofJson? (.object given)

/-- The claims that `bytes` spell. -/
def ofBytes? (bytes : List UInt8) : Option Claims :=
  (decoder.run bytes).toOption

end Claims

/-- The JSON value that bytes spell. -/
def Json.ofBytes? (bytes : List UInt8) : Option Json :=
  match Utf8.decode bytes with
  | .ok decoded => Json.read? decoded
  | .error _ => none

/-- The text of a token. -/
structure AccessToken where
  /-- The text. -/
  text : String
deriving DecidableEq, Repr, Inhabited

namespace AccessToken

/-- The part after the first dot, up to the next one. -/
def payload? (t : AccessToken) : Option (List Char) :=
  match t.text.toList.dropWhile (· != '.') with
  | [] => none
  | _ :: rest => some (rest.takeWhile (· != '.'))

/-- The characters `cs` without the equality signs at their end. -/
def unpadded (cs : List Char) : List Char :=
  (cs.reverse.dropWhile (· == '=')).reverse

/-- The claims of `t`, whose signature is not checked. -/
def claims (t : AccessToken) : Outcome Claims :=
  match t.payload? with
  | none => .error (.security "Token is not a compact JWS")
  | some payload =>
    match Base64.decode? .url (unpadded payload) with
    | none => .error (.security "Token payload is not base64url")
    | some bytes =>
      match Claims.ofBytes? bytes with
      | some claims => .ok claims
      | none => .error (.security "Token claims are unreadable")

/-- The start of a token, as it is shown where the token is not to be told. -/
def shown (t : AccessToken) : String :=
  "Token(" ++ String.ofList (t.text.toList.take 8) ++ "…)"

end AccessToken

end GraphBroker

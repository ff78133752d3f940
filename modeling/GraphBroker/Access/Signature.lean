import GraphBroker.Access.TokenHeader
import GraphBroker.Digest.Sha256

/-!
# Signed tokens

A token is signed with a secret key: its last part is the keyed hash of the two
parts before it. A token is accepted if its header names that method, the
signature is right, the claims can be read and the issuer is the one expected.

## Main definitions

* `AccessToken.sign`: the token with given claims.
* `AccessToken.issue`: a token for a subject and a period.
* `AccessToken.verify`: the claims of a token that is accepted.
-/

namespace GraphBroker

namespace AccessToken

/-- A text in base 64. -/
def part (text : String) : String :=
  String.ofList (Base64.encode .url (Utf8.encode text))

/-- The header of tokens that are issued. -/
def headerJson : Json :=
  .object [("typ", .text "JWT"), ("alg", .text signatureMethod)]

/-- The signature of `text` under `key`. -/
def signature (key text : String) : List UInt8 :=
  Digest.hmac (Utf8.encode key) (Utf8.encode text)

/-- The token with `claims`, signed with `key`. -/
def sign (key : String) (claims : Claims) : AccessToken :=
  let signed := part headerJson.compress ++ "." ++ part claims.toJson.compress
  ⟨signed ++ "." ++ String.ofList (Base64.encode .url (signature key signed))⟩

/-- A token for `subject` that is good from `issuedAt` on for `period` seconds. -/
def issue (key subject issuer : String) (issuedAt period : Int) (id : String) : AccessToken :=
  sign key ⟨subject, issuer, issuedAt, issuedAt + period, id⟩

/-! ### Verifying -/

/-- The fault of a token that cannot be accepted for a reason of its own. -/
def refused (reason : String) : Fault :=
  .security ("Token validation failed: " ++ reason)

/-- The fault of a token that cannot be read. The star stands for the description. -/
def unreadable : Fault := refused "*"

/-- What `value` is, or the fault of a token that cannot be read. -/
def orUnreadable {α : Type} (value : Option α) : Outcome α :=
  match value with
  | some a => .ok a
  | none => .error unreadable

/-- The parts of a text before and after its last dot. -/
def cutLast? (text : List Char) : Option (List Char × List Char) :=
  match text.reverse.dropWhile (· != '.') with
  | [] => none
  | _ :: before => some (before.reverse, (text.reverse.takeWhile (· != '.')).reverse)

/-- What is said of a token besides its claims, each time whether it is said. -/
structure Remarks where
  /-- When it ends to be good. -/
  ends : Bool := false
  /-- Whom it is for. -/
  subject : Bool := false
  /-- Who issued it. -/
  issuer : Bool := false
  /-- Who is to accept it. -/
  audience : Bool := false
  /-- How many of these are given, with the start of the time at which it is good. -/
  given : Nat := 0

/-- Whether a value is a natural number. -/
def isNatural : Json → Bool
  | .int n => 0 ≤ n
  | _ => false

/-- Whether a value is a text or an array of texts. -/
def isNames (json : Json) : Bool :=
  json.text?.isSome || (json.list? Json.text?).isSome

/-- Whether a decoder finds a value other than `null` of which something holds. What it finds
else does no harm as long as one can go on after it. -/
def said {α : Type} (holds : α → Bool) (decode : Json.Decoder α) : Json.Decoder Bool := do
  return match ← Json.Decoder.attempt (Json.Decoder.nullable decode) with
    | some (some a) => holds a
    | _ => false

/-- Decodes one remark. -/
def remark (r : Remarks) (name : String) : Json.Decoder Remarks := do
  let r := { r with given := r.given + 1 }
  let names := said isNames (Json.Decoder.value (Json.maxDepth - 1))
  match name with
  | "exp" => return { r with ends := ← said isNatural .plain }
  | "nbf" =>
    let _ ← said isNatural .plain
    return r
  | "sub" => return { r with subject := ← said (fun _ => true) .text }
  | "iss" => return { r with issuer := ← names }
  | _ => return { r with audience := ← names }

/-- Decodes the remarks. An array has to hold all of them. -/
def remarks : Json.Decoder Remarks := do
  let isArray := (← Json.Decoder.peek) = '['
  .record ["exp", "nbf", "sub", "iss", "aud"] remark {} fun r =>
    if isArray && r.given < 5 then none else some r

/-- The checks on the `claims` of a token with a right signature, where `issuer` is expected. -/
def checkClaims (r : Remarks) (claims : Claims) (issuer : String) : Outcome Unit := do
  if !r.subject then throw (refused "Missing required claim: sub")
  if !r.issuer then throw (refused "Missing required claim: iss")
  if !r.ends then throw (refused "Missing required claim: exp")
  if claims.issuer ≠ issuer then throw (.security "Token issued by another authority")
  if r.audience then throw (refused "InvalidAudience")

/-- The claims of `t`, if it is accepted under `key` where `issuer` is expected. -/
def verify (key issuer : String) (t : AccessToken) : Outcome Claims :=
  match cutLast? t.text.toList with
  | none => .error (.security "Invalid token format")
  | some (signed, tag) =>
    match cutLast? signed with
    | none => .error (.security "Invalid token format")
    | some (header, payload) => do
      let headerBytes ← orUnreadable (Base64.decode? .url header)
      let method ← orUnreadable ((Json.ofBytes? headerBytes).bind TokenHeader.method?)
      if method ≠ signatureMethod then throw (refused "InvalidAlgorithm")
      let given ← orUnreadable (Base64.decode? .url tag)
      if given ≠ signature key (String.ofList signed) then
        throw (.security "Invalid token signature")
      let bytes ← orUnreadable (Base64.decode? .url payload)
      let claims ← orUnreadable (Claims.ofBytes? bytes)
      checkClaims (← orUnreadable (remarks.run bytes).toOption) claims issuer
      return claims

end AccessToken

end GraphBroker

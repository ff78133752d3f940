import GraphBroker.Json.Stream

/-!
# Grants

What a client sends to register and to get a token, and what it gets.

## Main definitions

* `RegistrationRequest`, `ClientCredentials`, `TokenGrant`, with their JSON.
-/

namespace GraphBroker

/-- What a client sends to register. -/
structure RegistrationRequest where
  /-- The name of the identity. -/
  identity : String
  /-- The grants asked for. -/
  grants : List String := []
deriving DecidableEq, Repr

/-- The only grant that is offered. -/
def clientCredentialsGrant : String := "client_credentials"

namespace RegistrationRequest

/-- A request for the grant that is offered. -/
def ofIdentity (identity : String) : RegistrationRequest :=
  ⟨identity, [clientCredentialsGrant]⟩

/-- The request as JSON. -/
def toJson (r : RegistrationRequest) : Json :=
  .object [("register", .object [("client_identity", .text r.identity),
    ("grant_types", Json.ofTexts r.grants)])]

/-- The request that a JSON value spells. -/
def ofJson? (json : Json) : Option RegistrationRequest := do
  let outer ← json.fields? ["register"]
  outer.required? "register" fun inner => do
    let fields ← inner.fields? ["client_identity", "grant_types"]
    return {
      identity := ← fields.required? "client_identity" Json.text?
      grants := ← fields.defaulted? "grant_types" [] (Json.list? Json.text?) }

/-- Decodes what a request to register asks for. -/
def inner : Json.Decoder RegistrationRequest :=
  .record ["client_identity", "grant_types"]
    (fun (given : Option String × List String) name =>
      if name = "client_identity" then do return (some (← .text), given.2)
      else do return (given.1, ← .list .text))
    (none, []) fun given => given.1.map fun identity => ⟨identity, given.2⟩

/-- Decodes a request to register. -/
def decoder : Json.Decoder RegistrationRequest :=
  .record ["register"] (fun _ _ => some <$> inner) none id

end RegistrationRequest

/-- What a client gets on registration. -/
structure ClientCredentials where
  /-- The name to use. -/
  id : String
  /-- The secret to use. -/
  secret : String
  /-- A signature; none is given today. -/
  signature : Option String := none
deriving DecidableEq, Repr

namespace ClientCredentials

/-- The answer to a registration as JSON. -/
def toJson (c : ClientCredentials) : Json :=
  .object [("credentials", .object [("client_id", .text c.id), ("client_secret", .text c.secret),
    ("signature", Json.ofText? c.signature)])]

/-- The credentials in the answer to a registration that a JSON value spells. -/
def ofJson? (json : Json) : Option ClientCredentials := do
  let outer ← json.fields? ["credentials"]
  outer.required? "credentials" fun inner => do
    let fields ← inner.fields? ["client_id", "client_secret", "signature"]
    return {
      id := ← fields.required? "client_id" Json.text?
      secret := ← fields.required? "client_secret" Json.text?
      signature := ← fields.optional? "signature" Json.text? }

end ClientCredentials

/-- A token with the times between which it is good. -/
structure TokenGrant where
  /-- The text of the token. -/
  accessToken : String
  /-- How the token is to be presented. -/
  tokenType : String := "bearer"
  /-- For how many seconds it is good. -/
  expiresIn : Int
  /-- The second from which on it is good. -/
  issuedAt : Int
  /-- The last second at which it is good. -/
  expiresAt : Int
deriving DecidableEq, Repr

namespace TokenGrant

/-- The grant as JSON. -/
def toJson (g : TokenGrant) : Json :=
  .object [("access_token", .text g.accessToken), ("token_type", .text g.tokenType),
    ("expires_in", .int g.expiresIn), ("issued_at", .int g.issuedAt),
    ("expires_at", .int g.expiresAt)]

/-- The grant that a JSON value spells. -/
def ofJson? (json : Json) : Option TokenGrant := do
  let fields ← json.fields? ["access_token", "token_type", "expires_in", "issued_at", "expires_at"]
  return {
    accessToken := ← fields.required? "access_token" Json.text?
    tokenType := ← fields.required? "token_type" Json.text?
    expiresIn := ← fields.required? "expires_in" Json.int64?
    issuedAt := ← fields.required? "issued_at" Json.int64?
    expiresAt := ← fields.required? "expires_at" Json.int64? }

end TokenGrant

end GraphBroker

import GraphBroker.Access.Grant
import GraphBroker.Access.Header
import GraphBroker.Access.Registry
import GraphBroker.Access.Signature

/-!
# The authority

The authority registers clients, issues tokens and checks them. Fresh secrets,
fresh token names and the time come from outside.

## Main definitions

* `Authority`: the registry with the key for tokens.
* `Authority.register`, `Authority.requestToken`: what a client asks for.
* `Authority.validate`, `Authority.authorize`: whether a request may go ahead.
-/

namespace GraphBroker

/-- Who may use the broker, and how this is checked. -/
structure Authority where
  /-- The identities. -/
  registry : Registry
  /-- The key that tokens are signed with. -/
  key : String
  /-- Whether requests need a token. -/
  enabled : Bool
deriving DecidableEq

namespace Authority

/-- The authority that the settings describe. -/
def ofConfig (config : AuthConfig) : Outcome Authority := do
  let _ ← HashCost.ofConfig config
  return ⟨.ofConfig config, config.jwtSecret, config.enabled⟩

/-- The fault of an identity `who` that may not do what it asks for. -/
def notAuthorized (who : String) : Fault :=
  (Fault.security (who ++ " is not authorized")).withCode .unauthorizedClient

/-- Stores the fresh `secret` of `uid`, if this is known and not revoked, and hands it out. -/
def register (a : Authority) (uid secret : String) : Outcome ClientCredentials × Authority :=
  let refused : Outcome ClientCredentials := .error (notAuthorized ("Client identity " ++ uid))
  match (a.registry.identity? uid).filter fun _ => a.registry.isAuthorized uid with
  | none => (refused, a)
  | some identity =>
    match a.registry.storeCredentials identity secret with
    | (true, registry) => (.ok ⟨uid, secret, none⟩, { a with registry })
    | (false, _) => (refused, a)

/-- The answer that hands out `token`. -/
def grant (token : AccessToken) : Outcome TokenGrant := do
  let claims ← token.claims
  return {
    accessToken := token.text
    expiresIn := claims.period
    issuedAt := claims.issuedAt
    expiresAt := claims.expiresAt }

/-- A token for the client named in `header` with its secret: the current one while it is good, else
a fresh one with the name `id`. -/
def requestToken (a : Authority) (now : Int) (header id : String) :
    Outcome TokenGrant × Authority :=
  match Header.basic header with
  | .error fault => (.error fault, a)
  | .ok (uid, secret) =>
    if !a.registry.checkCredentials uid secret then
      (.error (.security "Client credentials are not valid"), a)
    else if !a.registry.isAuthorized uid then (.error (notAuthorized ("Client " ++ uid)), a)
    else
      let issue := fun period => .ok (AccessToken.issue a.key uid a.registry.issuer now period id)
      let (token, registry) := a.registry.currentOrIssue uid now issue
      (token.bind grant, { a with registry })

/-- The claims of the token in `header`, if it is good `now` and its subject may use the broker. -/
def validate (a : Authority) (now : Int) (header : Option String) : Outcome Claims := do
  let some given := header | throw (.security "Missing bearer token")
  let text ← Header.bearer given
  let claims ← AccessToken.verify a.key a.registry.issuer ⟨text⟩
  if !a.registry.isAuthorized claims.subject then
    throw (notAuthorized ("Client " ++ claims.subject))
  if claims.isExpired now then throw (.tokenExpired "Token is expired")
  return claims

/-- The claims that a request with this `header` is made under; none where requests need no
token. -/
def authorize (a : Authority) (now : Int) (header : Option String) : Outcome (Option Claims) :=
  if a.enabled then (a.validate now header).map some else .ok none

end Authority

end GraphBroker

import GraphBroker.Access.Secret
import GraphBroker.Access.AccessToken
import Std.Data.ExtTreeMap

/-!
# The registry of identities

The registry keeps one record for each identity: its description, its secret,
its current token, for how long its tokens are good, and whether it may use the
broker. An identity that has been revoked stays revoked. The identities listed
for tests are never revoked.

## Main definitions

* `Record`, `Registry`.
* `Registry.addIdentity`, `Registry.revoke`, `Registry.storeCredentials`,
  `Registry.addToken`, `Registry.currentOrIssue` and the other operations.
* `Registry.isAuthorized`, `Registry.checkCredentials` and the other questions.
-/

namespace GraphBroker

open Std

/-- What is known about an identity. -/
structure Record where
  /-- Its description. -/
  identity : DigitalIdentity
  /-- Its secret, once it has registered. -/
  secret : Option StoredSecret := none
  /-- The token issued to it last. -/
  token : Option AccessToken := none
  /-- For how many seconds its tokens are good. -/
  period : Int
  /-- Whether it may use the broker. -/
  authorized : Bool := true
deriving DecidableEq

/-- The records of all identities. -/
structure Registry where
  /-- The records by name. -/
  records : ExtTreeMap String Record
  /-- For how many seconds tokens of new records are good. -/
  expiry : ExpiryConfig
  /-- The issuer named in tokens. -/
  issuer : String
  /-- The identities that are never revoked. -/
  exempt : List String
deriving DecidableEq

namespace Registry

/-- The record of `uid`. -/
def get? (r : Registry) (uid : String) : Option Record :=
  r.records[uid]?

/-- The registry with `record` under the name `uid`, whether there was one before or not. -/
def put (r : Registry) (uid : String) (record : Record) : Registry :=
  { r with records := r.records.insert uid record }

/-- The registry after a `change` of the record of `uid`, if it is there. -/
def modify (r : Registry) (uid : String) (change : Record → Record) : Registry :=
  match r.get? uid with
  | some record => r.put uid (change record)
  | none => r

/-- The number of records. -/
def size (r : Registry) : Nat := r.records.size

/-- Whether there is no record. -/
def isEmpty (r : Registry) : Bool := r.records.isEmpty

@[simp] theorem get?_put {r : Registry} {uid other : String} {record : Record} :
    (r.put uid record).get? other = if uid = other then some record else r.get? other := by
  simp only [get?, put, ExtTreeMap.getElem?_insert, LawfulEqCmp.compare_eq_iff_eq]

theorem get?_modify {r : Registry} {uid other : String} {change : Record → Record} :
    (r.modify uid change).get? other =
      if uid = other then (r.get? other).map change else r.get? other := by
  unfold modify
  split
  · rename_i record h
    rw [get?_put]
    split
    · rename_i e
      rw [← e, h]
      rfl
    · rfl
  · rename_i h
    split
    · rename_i e
      rw [← e, h]
      rfl
    · rfl

/-! ### Identities -/

/-- Whether `uid` is listed for tests. -/
def isExempt (r : Registry) (uid : String) : Bool :=
  r.exempt.contains uid

/-- For how many seconds tokens of a new record of `identity` are good. -/
def initialPeriod (r : Registry) (identity : DigitalIdentity) : Int :=
  if r.isExempt identity.uid then r.expiry.test
  else match identity.kind with
    | .device => r.expiry.device
    | .application => r.expiry.application
    | .user => r.expiry.user
    | .test => r.expiry.other

/-- Adds `identity`. If it is known only its description is replaced. -/
def addIdentity (r : Registry) (identity : DigitalIdentity) : Registry :=
  match r.get? identity.uid with
  | some record => r.put identity.uid { record with identity }
  | none => r.put identity.uid { identity, period := r.initialPeriod identity }

/-- Whether `uid` is known and has not been revoked. -/
def isAuthorized (r : Registry) (uid : String) : Bool :=
  (r.get? uid).any (·.authorized)

/-- Revokes `uid` for good, unless it is listed for tests. -/
def revoke (r : Registry) (uid : String) : Registry :=
  if r.isExempt uid then r else r.modify uid ({ · with authorized := false })

/-- The description of `uid`. -/
def identity? (r : Registry) (uid : String) : Option DigitalIdentity :=
  (r.get? uid).map (·.identity)

/-- What the broker presents to a query engine on behalf of `uid`. -/
def endpoint? (r : Registry) (uid : String) : Option Credentials :=
  (r.identity? uid).bind (·.endpoint)

/-- The registry at the start: the identities that `config` lists for tests, then the others. -/
def ofConfig (config : AuthConfig) : Registry :=
  let bare : Registry := ⟨∅, config.expiry, config.issuer, config.testIdentities⟩
  let listed := config.testIdentities.map (DigitalIdentity.mk · .application none) ++
    config.identities.map fun seed => ⟨seed.uid, seed.kind, none⟩
  listed.foldl addIdentity bare

/-! ### Secrets -/

/-- Stores a secret in a new record of the identity. This is refused, with the answer `false`,
if the identity has been revoked. -/
def storeCredentials (r : Registry) (identity : DigitalIdentity) (secret : String) :
    Bool × Registry :=
  if (r.get? identity.uid).all (·.authorized) then
    (true, r.put identity.uid
      { identity, secret := some (.ofSecret secret), period := r.initialPeriod identity })
  else (false, r)

/-- Whether `secret` is the one stored for `uid`. -/
def checkCredentials (r : Registry) (uid secret : String) : Bool :=
  ((r.get? uid).bind (·.secret)).any (·.verify secret)

/-- Whether a secret is stored for `uid`. -/
def containsCredentials (r : Registry) (uid : String) : Bool :=
  ((r.get? uid).bind (·.secret)).isSome

/-- Forgets the secret of `uid`. -/
def removeCredentials (r : Registry) (uid : String) : Registry :=
  r.modify uid ({ · with secret := none })

/-! ### Tokens -/

/-- The token issued to `uid` last. -/
def token? (r : Registry) (uid : String) : Option AccessToken :=
  (r.get? uid).bind (·.token)

/-- Whether a token is stored for `uid`. -/
def containsToken (r : Registry) (uid : String) : Bool :=
  (r.token? uid).isSome

/-- Stores `token`, whose period becomes that of `uid`. -/
def addToken (r : Registry) (uid : String) (token : AccessToken) : Outcome Unit × Registry :=
  match token.claims with
  | .error fault => (.error fault, r)
  | .ok claims =>
    (.ok (), r.modify uid ({ · with token := some token, period := claims.period }))

/-- Forgets the token of `uid`. -/
def removeToken (r : Registry) (uid : String) : Registry :=
  r.modify uid ({ · with token := none })

/-- The token stored in `record`, if it can be read and is still good. -/
def goodToken? (record : Record) (now : Int) : Option AccessToken :=
  record.token.filter fun token =>
    match token.claims with
    | .ok claims => !claims.isExpired now
    | .error _ => false

/-- The current token of `uid` while it is good; else a new one, made by `issue` for the period of
`uid` and stored. -/
def currentOrIssue (r : Registry) (uid : String) (now : Int) (issue : Int → Outcome AccessToken) :
    Outcome AccessToken × Registry :=
  match r.get? uid with
  | none => (.error (.security ("Unknown client: " ++ uid)), r)
  | some record =>
    match goodToken? record now with
    | some token => (.ok token, r)
    | none =>
      match issue record.period with
      | .error fault => (.error fault, r)
      | .ok token =>
        match r.addToken uid token with
        | (.ok (), stored) => (.ok token, stored)
        | (.error fault, unchanged) => (.error fault, unchanged)

/-- The last second at which the token of `uid` is good. -/
def expiringDate? (r : Registry) (uid : String) : Option Int :=
  match (r.token? uid).map AccessToken.claims with
  | some (.ok claims) => some claims.expiresAt
  | _ => none

/-- For how many seconds tokens of `uid` are good; -1 if it is not known. -/
def expiringPeriod (r : Registry) (uid : String) : Int :=
  ((r.get? uid).map (·.period)).getD (-1)

/-- Sets for how many seconds tokens of `uid` are good. -/
def setExpiringPeriod (r : Registry) (uid : String) (period : Int) : Registry :=
  r.modify uid ({ · with period })

/-- Forgets all tokens. -/
def shutdown (r : Registry) : Registry :=
  { r with records := r.records.map fun _ record => { record with token := none } }

end Registry

end GraphBroker

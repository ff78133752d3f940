import GraphBroker.Json.Basic
import GraphBroker.Text.Quoted

/-!
# Identities

Whoever may talk to the broker has an identity. Its class decides for how long
its tokens are good.

## Main definitions

* `IdentityClass`, `Credentials`, `DigitalIdentity`, with their JSON.
-/

namespace GraphBroker

/-- The classes of identities. -/
inductive IdentityClass where
  /-- A physical device. -/
  | device
  /-- A program. -/
  | application
  /-- A person. -/
  | user
  /-- An identity for tests. -/
  | test
deriving DecidableEq, Repr

namespace IdentityClass

/-- All classes. -/
def all : List IdentityClass := [device, application, user, test]

/-- The name of the class. -/
def name : IdentityClass → String
  | device => "device"
  | application => "application"
  | user => "user"
  | test => "test"

/-- The class with a given name. -/
def ofName? (name : String) : Option IdentityClass :=
  all.find? (·.name == name)

end IdentityClass

/-- A user and a password. -/
structure Credentials where
  /-- The user. -/
  user : String
  /-- The password. -/
  password : String
deriving DecidableEq, Repr

namespace Credentials

/-- The credentials as JSON. -/
def toJson (c : Credentials) : Json :=
  .object [("user", .text c.user), ("password", .text c.password)]

/-- The credentials that a JSON value spells. -/
def ofJson? (json : Json) : Option Credentials := do
  let fields ← json.fields? ["user", "password"]
  return ⟨← fields.required? "user" Json.text?, ← fields.required? "password" Json.text?⟩

/-- The credentials, if there are any, as they are shown where the password is not to be
told. -/
def shown? : Option Credentials → String
  | none => "None"
  | some c =>
    "Some(Credentials \x7b user: " ++ Text.quoted c.user ++ ", password: " ++ Text.quoted "***" ++
      " \x7d)"

end Credentials

/-- Describes who may talk to the broker. -/
structure DigitalIdentity where
  /-- The name, which no other identity has. -/
  uid : String
  /-- The class. -/
  kind : IdentityClass
  /-- What the broker presents to a query engine on behalf of the identity. -/
  endpoint : Option Credentials := none
deriving DecidableEq, Repr

namespace DigitalIdentity

/-- The identity as JSON. -/
def toJson (identity : DigitalIdentity) : Json :=
  .object ([("uid", .text identity.uid), ("class", .text identity.kind.name)] ++
    Json.member? "endpoint_credentials" (identity.endpoint.map Credentials.toJson))

/-- The identity that a JSON value spells. -/
def ofJson? (json : Json) : Option DigitalIdentity := do
  let fields ← json.fields? ["uid", "class", "endpoint_credentials"]
  return {
    uid := ← fields.required? "uid" Json.text?
    kind := ← fields.required? "class" fun j => j.alternative?.bind IdentityClass.ofName?
    endpoint := ← fields.defaulted? "endpoint_credentials" none
      (Json.nullable? Credentials.ofJson?) }

end DigitalIdentity

end GraphBroker

import GraphBroker.Access.AccessToken

/-!
# Headers of tokens

The header of a token names the method of its signature. It may hold more, also
the key, which has to have the right shape though nothing depends on it.

## Main definitions

* `TokenHeader.method?`: the method that a header names.
* `TokenHeader.isKey`: whether a value is a key.
-/

namespace GraphBroker

/-- The names of methods to sign a token. -/
def signatureMethods : List String :=
  ["HS256", "HS384", "HS512", "ES256", "ES384", "RS256", "RS384", "RS512", "PS256", "PS384",
    "PS512", "EdDSA"]

/-- The one method that is used. -/
def signatureMethod : String := "HS256"

namespace TokenHeader

/-- A member that has a name among the given ones. -/
def oneOf? (names : List String) (json : Json) : Option String :=
  json.alternative?.filter names.contains

/-- The names of curves. -/
def curves : List String := ["P-256", "P-384", "P-521", "Ed25519"]

/-- The kinds of keys: the name of the kind, whether a curve belongs to the key, and the
members that are texts. -/
def keyKinds : List (String × Bool × List String) :=
  [("EC", true, ["x", "y"]), ("RSA", false, ["n", "e"]), ("oct", false, ["k"]),
    ("OKP", true, ["x"])]

/-- Whether a value is a key of a kind. -/
def isKeyOf (kind : String × Bool × List String) (json : Json) : Bool :=
  let (name, hasCurve, texts) := kind
  match json.fields? (["kty", "crv"].take (if hasCurve then 2 else 1) ++ texts) with
  | some fields =>
    (fields.required? "kty" (oneOf? [name])).isSome &&
      (!hasCurve || (fields.required? "crv" (oneOf? curves)).isSome) &&
      texts.all fun text => (fields.required? text Json.text?).isSome
  | none => false

/-- Whether the members with the given names are texts, `null` or missing. -/
def areTexts (fields : Json.Fields) (names : List String) : Bool :=
  names.all fun name => (fields.optional? name Json.text?).isSome

/-- Whether the members with the given names are arrays of texts, `null` or missing. -/
def areLists (fields : Json.Fields) (names : List String) : Bool :=
  names.all fun name => (fields.optional? name (Json.list? Json.text?)).isSome

/-- Whether a value is a key. -/
def isKey (json : Json) : Bool :=
  match json, json.fields? ["use", "key_ops", "alg", "kid", "x5u", "x5c", "x5t", "x5t#S256"] with
  | .object _, some fields =>
    areTexts fields ["use", "kid", "x5u", "x5t", "x5t#S256"] &&
      areLists fields ["key_ops", "x5c"] &&
      (fields.optional? "alg" Json.alternative?).isSome &&
      keyKinds.any (isKeyOf · json)
  | _, _ => false

/-- The members of a header that are texts. -/
def texts : List String :=
  ["typ", "cty", "jku", "kid", "x5u", "x5t", "x5t#S256", "enc", "zip", "url", "nonce"]

/-- The members of a header that are arrays of texts. -/
def lists : List String := ["x5c", "crit"]

/-- The method that a header names. The header is an object, and members of other names are
texts. -/
def method? (header : Json) : Option String := do
  let .object members ← header.within? 0 | none
  let known := "alg" :: "jwk" :: texts ++ lists
  let fields ← header.fields? known
  let others := members.filter fun member => !known.contains member.1
  if others.all (fun member => member.2.text?.isSome) && areTexts fields texts &&
      areLists fields lists &&
      (fields.optional? "jwk" fun key => if isKey key then some key else none).isSome then
    fields.required? "alg" (oneOf? signatureMethods)
  else none

end TokenHeader

end GraphBroker

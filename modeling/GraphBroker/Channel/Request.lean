import GraphBroker.Fault.Basic
import GraphBroker.Json.Reader
import GraphBroker.Sparql.Forced
import GraphBroker.Uuid

/-!
# Requests on the channel

What a client may ask of the broker over its channel. A request may carry an
authorization, either a bare token or one with its scheme in front.

## Main definitions

* `Request`: subscribe, unsubscribe, update or query.
* `Request.bearer?`: the authorization with its scheme.
* `Request.admissible`: the checks on the text of a request before it is read.
* `Request.toJson`, `Request.ofJson?`, `Request.read`.
-/

namespace GraphBroker

/-- What a client may ask of the broker over its channel. -/
inductive Request where
  /-- To be told of the results of `pattern` and of every change of them. -/
  | subscribe (pattern : Sparql.Pattern) (label authorization : Option String)
  /-- To be told no more of the subscription `id`. -/
  | unsubscribe (id : SubscriptionId) (authorization : Option String)
  /-- To apply the update `sparql`. -/
  | update (sparql : String) (authorization : Option String)
  /-- The results of `pattern` once. -/
  | query (pattern : Sparql.Pattern) (authorization : Option String)
deriving DecidableEq

namespace Request

/-- The kind of request as one word. -/
def kind : Request → String
  | subscribe .. => "subscribe"
  | unsubscribe .. => "unsubscribe"
  | update .. => "update"
  | query .. => "query"

/-- The authorization as it was given. -/
def authorization? : Request → Option String
  | subscribe _ _ given | unsubscribe _ given | update _ given | query _ given => given

/-- Whether a text starts with the scheme `Bearer` and a space. -/
def namesBearer (given : String) : Bool :=
  let cs := given.toList
  cs.contains ' ' && (String.ofList (cs.takeWhile (· != ' '))).toLower == "bearer"

/-- An authorization with its scheme. -/
def withScheme (given : String) : String :=
  if namesBearer given then given else "Bearer " ++ given

/-- The authorization of `request` with its scheme. -/
def bearer? (request : Request) : Option String :=
  request.authorization?.map withScheme

/-! ### JSON -/

/-- The request as JSON. -/
def toJson (request : Request) : Json :=
  let auth := Json.member? "authorization" (request.authorization?.map .text)
  .object (("type", .text request.kind) ::
    match request with
    | subscribe pattern label _ =>
      pattern.members ++ Json.member? "alias" (label.map .text) ++ auth
    | unsubscribe id _ => ("spuid", id.toJson) :: auth
    | update sparql _ => ("sparql", .text sparql) :: auth
    | query pattern _ => pattern.members ++ auth)

/-- A member that is a text, and may be `null` or missing. -/
def text? (fields : Json.Fields) (name : String) : Option (Option String) :=
  fields.defaulted? name none (Json.nullable? Json.text?)

/-- The query of a request with its forced bindings. -/
def pattern? (fields : Json.Fields) : Option Sparql.Pattern := do
  return {
    sparql := ← fields.required? "sparql" Json.text?
    bindings := ← fields.defaulted? "bindings" ∅ (Binding.ofJson? .kept) }

/-- The request that `json` spells. -/
def ofJson? (json : Json) : Option Request := do
  match ← json.variant? .outermost with
  | ("subscribe", rest) =>
    let fields ← rest.fields? ["sparql", "bindings", "alias", "authorization"]
    return subscribe (← pattern? fields) (← text? fields "alias")
      (← text? fields "authorization")
  | ("unsubscribe", rest) =>
    let fields ← rest.fields? ["spuid", "authorization"]
    return unsubscribe (← fields.required? "spuid" SubscriptionId.ofJson?)
      (← text? fields "authorization")
  | ("update", rest) =>
    let fields ← rest.fields? ["sparql", "authorization"]
    return update (← fields.required? "sparql" Json.text?) (← text? fields "authorization")
  | ("query", rest) =>
    let fields ← rest.fields? ["sparql", "bindings", "authorization"]
    return query (← pattern? fields) (← text? fields "authorization")
  | _ => none

/-! ### Texts of requests -/

/-- The `text` of a request may not exceed `maxSize` bytes and may not be blank. -/
def admissible (maxSize : Nat) (text : String) : Outcome Unit :=
  if maxSize < text.utf8ByteSize then
    .error (.protocol ("Message exceeds maximum size of " ++ toString maxSize ++ " bytes"))
  else if text.toList.all Text.isBlank then .error (.protocol "Empty message")
  else .ok ()

/-- The request that `text` spells. The star stands for the description of the spot where the text
cannot be read. -/
def read (text : String) : Outcome Request :=
  match (Json.read? text).bind ofJson? with
  | some request => .ok request
  | none => .error (.protocol "Parsing failed: *")

end Request

end GraphBroker

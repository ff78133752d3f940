import GraphBroker.Access.Grant
import GraphBroker.Access.Header
import GraphBroker.Channel.Consumer
import GraphBroker.Channel.Request
import GraphBroker.Fault.Response
import GraphBroker.Http.Exchange
import GraphBroker.Http.Network
import GraphBroker.Http.Status
import GraphBroker.Json.Writer

/-!
# Clients of a broker

A client registers under its name, gets tokens with its credentials, and sends
queries and updates. A client that is secured shows a token with each request; if
the broker says that the token is past its time, the client gets another one and
tries once more.

## Main definitions

* `Client`: where the broker is, and what the client holds.
* `Client.Call`: what a client does; the client stays as it is left even where it fails.
* `Client.register`, `Client.requestToken`, `Client.refresh`, `Client.bearer`: credentials and
  tokens.
* `Client.query`, `Client.update`: requests over HTTP.
* `Client.watch`: a request over the channel.
-/

namespace GraphBroker

/-- A client of a broker. -/
structure Client (ν : Type) where
  /-- The network. -/
  network : ν
  /-- The URL of the broker. -/
  root : String
  /-- The credentials, once the client has registered. -/
  credentials : Option ClientCredentials := none
  /-- The token that is held. -/
  grant : Option TokenGrant := none
  /-- Whether a token is shown with each request. -/
  secured : Bool := false

namespace Client

variable {ν : Type}

/-- A URL without the slashes at its end. -/
def trimmed (url : String) : String :=
  String.ofList (url.toList.reverse.dropWhile (· == '/')).reverse

/-- A client of the broker at a URL. -/
def ofUrl (network : ν) (url : String) : Client ν :=
  { network, root := trimmed url }

/-- What a client does: it may fail, and in any case it is left in some state. -/
abbrev Call (ν α : Type) := ExceptT Fault (StateM (Client ν)) α

/-- The fault of a request that brings no reply. The star stands for the description. -/
def requestFailed : Fault := .transport "Request failed: *"

/-! ### Exchanges -/

/-- What a client reads from a reply: a value if the request succeeded, else the fault that the
broker tells of. -/
def readReply {α : Type} (decode : Json → Option α) (reply : Reply) : Outcome α :=
  let json := Json.read? reply.text
  if Http.isSuccess reply.status then
    match json.bind decode with
    | some a => .ok a
    | none => .error .unreadableJson
  else
    match json.bind ErrorResponse.ofJson? with
    | some response => .error response.toFault
    | none => .error
      (.transport ("HTTP " ++ Http.statusLine reply.status ++ ": " ++ reply.text))

/-- Whether the token is held no longer than it is good. -/
def isExpired (now : Int) (c : Client ν) : Bool :=
  c.grant.all fun grant => grant.expiresAt < now

section Exchanges

variable [Network ν]

/-- Sends a request to a path of the broker and reads the reply. -/
def post {α : Type} (path : String) (request : Outgoing) (decode : Json → Option α) :
    Call ν α := do
  let c ← get
  if (request.authorization.map Http.isSendable).getD true then
    let (reply, network) := Network.exchange { request with url := c.root ++ path } c.network
    set { c with network }
    match reply with
    | some reply => ExceptT.mk (pure (readReply decode reply))
    | none => throw requestFailed
  else throw requestFailed

/-! ### Credentials and tokens -/

/-- Registers under a name and keeps the credentials. -/
def register (uid : String) : Call ν ClientCredentials := do
  let credentials ← post "/oauth/register" {
    url := ""
    contentType := some "application/json"
    body := (RegistrationRequest.ofIdentity uid).toJson.compress } ClientCredentials.ofJson?
  modify ({ · with credentials := some credentials })
  return credentials

/-- Gets a token with the credentials and keeps it. -/
def requestToken : Call ν TokenGrant := do
  match (← get).credentials with
  | none => throw (.security "Client is not registered")
  | some credentials =>
    let grant ← post "/oauth/token" {
      url := ""
      authorization := some (Header.ofPair credentials.id credentials.secret) }
      TokenGrant.ofJson?
    modify ({ · with grant := some grant })
    return grant

/-- Gives up the token that is held and gets another one. -/
def refresh : Call ν TokenGrant := do
  modify ({ · with grant := none })
  requestToken

/-- The header that shows a token. -/
def header (grant : TokenGrant) : String :=
  "Bearer " ++ grant.accessToken

/-- The header that shows the token that is held, or another one if that is past its time. -/
def bearer (now : Int) : Call ν String := do
  let c ← get
  match c.grant.filter fun _ => !c.isExpired now with
  | some grant => return header grant
  | none => return header (← requestToken)

/-- Makes a call with a token. If the broker says that the token is past its time, the call is
made once more with another one. -/
def withRefresh {α : Type} (now : Int) (call : String → Call ν α) : Call ν α := do
  let shown ← bearer now
  tryCatch (call shown) fun fault => do
    if fault.kind = .tokenExpired then call (header (← refresh)) else throw fault

/-- Makes a call, with a token if the client is secured. -/
def authorized {α : Type} (now : Int) (call : Option String → Call ν α) : Call ν α := do
  if (← get).secured then withRefresh now fun shown => call (some shown) else call none

/-! ### Queries and updates -/

/-- The results of a query. -/
def query (now : Int) (sparql : String) : Call ν ResultSet :=
  authorized now fun authorization => post "/query" {
    url := ""
    contentType := some "application/sparql-query"
    accept := some "application/sparql-results+json"
    authorization
    body := sparql } (ResultSet.ofJson? .outermost)

/-- Applies an update. -/
def update (now : Int) (sparql : String) : Call ν Unit := do
  let _ ← authorized now fun authorization => post "/update" {
    url := ""
    contentType := some "application/sparql-update"
    authorization
    body := sparql } (Json.within? 0)

/-! ### The channel -/

/-- The URL of the channel of a broker. -/
def channelRoot (url : String) : String :=
  let url := trimmed url
  if "https://".isPrefixOf url then "wss://" ++ String.ofList (url.toList.drop 8)
  else if "http://".isPrefixOf url then "ws://" ++ String.ofList (url.toList.drop 7)
  else url

/-- The messages that a text from the channel brings; none if it cannot be read. -/
def readMessages (text : String) : List Message :=
  match (Json.read? text).bind Message.ofJson? with
  | some message => message.forwarded
  | none => []

/-- Opens the channel on a path. -/
def connect (path : String) : Call ν Unit := do
  let c ← get
  let url := channelRoot c.root ++ path
  if Network.connects url c.network then return
  else throw (.transport ("Cannot connect to " ++ url))

/-- Opens the channel on a path, sends a request, and takes what comes until the channel is
closed. A secured client shows a token with the request. -/
def watch (now : Int) (path : String) (request : Option String → GraphBroker.Request) :
    Call ν (List Message) := do
  connect path
  let shown ← if (← get).secured then some <$> bearer now else pure none
  let c ← get
  let texts := Network.listen (channelRoot c.root ++ path) (request shown).toJson.compress c.network
  return texts.flatMap readMessages

end Exchanges

end Client

end GraphBroker

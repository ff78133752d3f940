import GraphBroker.Cli.Arguments
import GraphBroker.Cli.Layout
import GraphBroker.Client.Basic
import GraphBroker.Fault.Response

/-!
# Runs of the command line

What a run of the command line prints and with which status it ends.

## Main definitions

* `Cli.Run`: the outcome of a run.
* `Cli.perform`: carries out a command.
* `Cli.run`: carries out what arguments ask for.
-/

namespace GraphBroker.Cli

/-- The outcome of a run. -/
structure Run where
  /-- The status at the end: 0 for success, 1 for a fault and 2 for arguments without sense. -/
  exit : Nat
  /-- What is printed. -/
  stdout : String := ""
  /-- What is printed about faults. -/
  stderr : String := ""
deriving DecidableEq, Repr

/-- The version that is printed. -/
def versionLine : String := "broker-cli 0.1.0"

/-- An item in a form: its outline or its JSON. -/
def item (format : Format) (outline : Outline) (json : Json) : String :=
  match format with
  | .table => outline.text ++ "\n"
  | .json => json.pretty ++ "\n"

/-- Results in a form. -/
def results (format : Format) (r : ResultSet) : String :=
  match format with
  | .json => r.toJson.pretty ++ "\n"
  | .table => if r.isEmpty then "No results found.\n" else resultsTable r ++ "\n"

/-- The line that tells of a success. -/
def success (message : String) : String :=
  "✓ " ++ message ++ "\n"

/-- What is printed for the messages of a subscription, up to the first that tells of an error,
and that error. -/
def followed (format : Format) : List Message → String × Option Fault
  | [] => ("", none)
  | message :: rest =>
    let (printed, fault) := followed format rest
    match message with
    | .subscribed id _ initial =>
      (success ("Subscribed " ++ toString id) ++ results format initial ++ printed, fault)
    | .notification n => (item format (notificationOutline n) (.object n.members) ++ printed, fault)
    | .error response => ("", some response.toFault)
    | _ => (printed, fault)

variable {ν : Type} [Network ν]

/-- The client of an invocation. -/
def clientOf (network : ν) (asked : Invocation) : Client ν :=
  match asked.credentials with
  | some (id, secret) =>
    { Client.ofUrl network asked.url with
      credentials := some ⟨id, secret, none⟩
      secured := true }
  | none => Client.ofUrl network asked.url

/-- The members of credentials as JSON. -/
def credentialsJson (c : ClientCredentials) : Json :=
  .object [("client_id", .text c.id), ("client_secret", .text c.secret),
    ("signature", Json.ofText? c.signature)]

/-- Carries out a command: what is printed, and the fault that it ends with, if any. -/
def perform (now : Int) (format : Format) : Command → Client.Call ν (String × Option Fault)
  | .register uid => do
    let c ← Client.register uid
    return (item format (credentialsOutline c) (credentialsJson c), none)
  | .token => do
    if (← get).credentials.isNone then
      throw (.security "--client-id and --client-secret are required")
    let grant ← Client.requestToken
    return (item format (grantOutline grant) grant.toJson, none)
  | .query sparql => return (results format (← Client.query now sparql), none)
  | .update sparql => do
    Client.update now sparql
    return (success "Update applied", none)
  | .subscribe sparql label path => do
    let messages ← Client.watch now path fun shown => .subscribe ⟨sparql, ∅⟩ label shown
    return followed format messages

/-- The run that carries out an invocation. -/
def runInvocation (now : Int) (asked : Invocation) (network : ν) : Run × ν :=
  let (outcome, client) := (perform now asked.format asked.command).run (clientOf network asked)
  let failed (printed : String) (fault : Fault) : Run :=
    ⟨1, printed, "Error: " ++ fault.line ++ "\n"⟩
  (match outcome with
    | .ok (printed, none) => ⟨0, printed, ""⟩
    | .ok (printed, some fault) => failed printed fault
    | .error fault => failed "" fault, client.network)

/-- The run that carries out what arguments ask for. -/
def run (now : Int) (arguments : List String) (network : ν) : Run × ν :=
  match Invocation.ofArguments arguments with
  | .ok asked => runInvocation now asked network
  | .error .version => (⟨0, versionLine ++ "\n", ""⟩, network)
  | .error (.help topic) => (⟨0, topic.text, ""⟩, network)
  | .error .usage => (⟨2, "", "error: the arguments make no sense\n"⟩, network)

end GraphBroker.Cli

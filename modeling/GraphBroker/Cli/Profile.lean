/-!
# Commands and their options

What the commands of the command line take, as the parser of arguments and the
help text both need it.

## Main definitions

* `Cli.Switch`: an option that takes a value.
* `Cli.Profile`: a command with its options and the text that it takes.
* `Cli.profiles`, `Cli.broker`: the commands, and the options in front of them.
-/

namespace GraphBroker.Cli

/-- An option that takes a value. -/
structure Switch where
  /-- Its name. -/
  name : String
  /-- Its letter, if it has one. -/
  letter : Option Char := none
  /-- What it is for. -/
  meaning : String
  /-- The value that it has if it is not given. -/
  standard : Option String := none
  /-- The values that it can have, with what they mean; any value if there are none. -/
  choices : List (String × String) := []
deriving DecidableEq, Repr

/-- Whether the option can have the value. -/
def Switch.accepts (s : Switch) (value : String) : Bool :=
  s.choices.isEmpty || (s.choices.map Prod.fst).contains value

/-- A command with what it takes. -/
structure Profile where
  /-- Its name. -/
  name : String
  /-- What it does. -/
  meaning : String
  /-- The name of the text that it takes and what that is, if it takes one. -/
  text : Option (String × String) := none
  /-- Its options. -/
  switches : List Switch := []
deriving DecidableEq, Repr

/-- Whether a command takes one more text than those that are given. -/
def Profile.hasRoom (p : Profile) (texts : List String) : Bool :=
  p.text.isSome && texts.isEmpty

/-- The options of commands that may be secured. -/
def credentialSwitches : List Switch := [
  { name := "client-id", meaning := "Client id from `register`" },
  { name := "client-secret", meaning := "Client secret from `register`" }]

/-- Where the broker is looked for. -/
def standardUrl : String := "http://localhost:9000"

/-- On which path the channel is opened. -/
def standardPath : String := "/subscribe"

/-- The commands. -/
def profiles : List Profile := [
  { name := "register"
    meaning := "Register a client identity and print its credentials"
    text := some ("IDENTITY", "Client identity known to the broker") },
  { name := "token"
    meaning := "Request an access token"
    switches := credentialSwitches },
  { name := "query"
    meaning := "Run a SPARQL query"
    text := some ("SPARQL", "SPARQL text")
    switches := credentialSwitches },
  { name := "update"
    meaning := "Apply a SPARQL update"
    text := some ("SPARQL", "SPARQL text")
    switches := credentialSwitches },
  { name := "subscribe"
    meaning := "Subscribe and print notifications until interrupted"
    text := some ("SPARQL", "SPARQL SELECT to watch")
    switches :=
      { name := "alias", meaning := "Label echoed back in the subscribe response" } ::
      { name := "path", meaning := "Subscribe channel path", standard := some standardPath } ::
      credentialSwitches }]

/-- The program as a whole, with the options in front of the commands. -/
def broker : Profile where
  name := "broker-cli"
  meaning := "Command-line client for the SEPA broker"
  switches := [
    { name := "url", letter := some 'u', meaning := "Broker HTTP root"
      standard := some standardUrl },
    { name := "format", letter := some 'f', meaning := "Output format"
      standard := some "table"
      choices := [("table", "Human-readable table"), ("json", "JSON output")] }]

end GraphBroker.Cli

import GraphBroker.Cli.Help

/-!
# Arguments of the command line

What a user asks for on the command line: options, then the name of a command, then
its options and texts. An option is given as `--name value`, `--name=value`, or with
one letter as `-n value`, `-nvalue` or `-n=value`.

## Main definitions

* `Cli.Invocation`: what is asked for.
* `Cli.Stop`: why nothing is to be done.
* `Cli.Invocation.ofArguments`: the invocation that arguments spell, or why they spell none.
-/

namespace GraphBroker.Cli

/-- In which form results are printed. -/
inductive Format where
  /-- For a person. -/
  | table
  /-- As JSON. -/
  | json
deriving DecidableEq, Repr

/-- The form with the given name. -/
def Format.ofName? : String → Option Format
  | "table" => some table
  | "json" => some json
  | _ => none

/-- What is to be done. -/
inductive Command where
  /-- Registers a client. -/
  | register (uid : String)
  /-- Gets a token. -/
  | token
  /-- Answers a query. -/
  | query (sparql : String)
  /-- Applies an update. -/
  | update (sparql : String)
  /-- Tells of the results of a query, and of every change of them. -/
  | subscribe (sparql : String) (label : Option String) (path : String)
deriving DecidableEq, Repr

/-- What a user asks for. -/
structure Invocation where
  /-- The URL of the broker. -/
  url : String := standardUrl
  /-- In which form results are printed. -/
  format : Format := .table
  /-- The credentials to use: a name and a secret. -/
  credentials : Option (String × String) := none
  /-- What is to be done. -/
  command : Command
deriving DecidableEq, Repr

/-- Why nothing is to be done. -/
inductive Stop where
  /-- The arguments make no sense. -/
  | usage
  /-- The user asks for help. -/
  | help (topic : Topic)
  /-- The user asks for the version. -/
  | version
deriving DecidableEq, Repr

/-! ### Options -/

/-- Options by name with their values, the last one first. -/
abbrev Given := List (String × String)

/-- Whether an argument is an option; a lone minus sign is not. -/
def isSwitch (argument : String) : Bool :=
  "-".isPrefixOf argument && argument != "-"

/-- An option as it was given, with the value that is attached to it. -/
def attached (argument : String) : String × Option String :=
  let cs := argument.toList
  if "--".isPrefixOf argument then
    match cs.dropWhile (· != '=') with
    | _ :: value => (String.ofList (cs.takeWhile (· != '=')), some (String.ofList value))
    | [] => (argument, none)
  else
    match cs.drop 2 with
    | [] => (argument, none)
    | '=' :: value => (String.ofList (cs.take 2), some (String.ofList value))
    | value => (String.ofList (cs.take 2), some (String.ofList value))

/-- The option that is meant. -/
def switchOf? (switches : List Switch) (given : String) : Option Switch :=
  switches.find? fun s =>
    given == "--" ++ s.name || (s.letter.map fun c => String.ofList ['-', c]) == some given

/-- What is asked for by an option without a value: the help on a command, else the help on the
program or its version. -/
def flagOf? (command : Option Profile) (given : String) : Option Stop :=
  match command, given with
  | some profile, "-h" | some profile, "--help" => some (.help (.command profile))
  | none, "-h" => some (.help (.whole false))
  | none, "--help" => some (.help (.whole true))
  | none, "-V" | none, "--version" => some .version
  | _, _ => none

/-- Whether an option can have a value besides the options that are given. -/
def fits (given : Given) (s : Switch) (value : String) : Bool :=
  (given.lookup s.name).isNone && s.accepts value

/-- Options up to the first text, and the arguments from there on, of a command or in front of
all commands. A value that does not fit is refused when the next option is read; in front of a
command that is left to whoever reads the command. -/
def options (command : Option Profile) (given : Given) :
    List String → Except Stop (Given × List String)
  | [] => .ok (given, [])
  | argument :: rest =>
    if !isSwitch argument || argument = "--" then .ok (given, argument :: rest)
    else
      let (name, value) := attached argument
      match flagOf? command name with
      | some stop => .error (if value.isSome ∧ "--".isPrefixOf name then .usage else stop)
      | none =>
        match switchOf? (command.getD broker).switches name, value, rest with
        | none, _, _ => .error .usage
        | some s, some value, rest =>
          if fits given s value then options command ((s.name, value) :: given) rest
          else .error .usage
        | some _, none, [] => .error .usage
        | some s, none, value :: rest =>
          let isBeforeCommand := command.isNone && rest.head?.any fun next => !isSwitch next
          if isSwitch value then .error .usage
          else if fits given s value || isBeforeCommand then
            options command ((s.name, value) :: given) rest
          else .error .usage

/-- Whether all options of a list have values that fit, the last one first. -/
def allFit (switches : List Switch) : Given → Bool
  | [] => true
  | (name, value) :: given =>
    allFit switches given && switches.all fun s => s.name != name || fits given s value

/-- Options and texts of a command in any order; after two minus signs there are only texts. At
most so many arguments are read. -/
def mixed (profile : Profile) : Nat → Given → List String → List String →
    Except Stop (Given × List String)
  | 0, _, _, _ => .error .usage
  | n + 1, given, texts, arguments => do
    match ← options (some profile) given arguments with
    | (given, []) => return (given, texts)
    | (given, "--" :: rest) => return (given, texts ++ rest)
    | (given, text :: rest) =>
      if profile.hasRoom texts then mixed profile n given (texts ++ [text]) rest
      else throw .usage

/-! ### Commands -/

/-- The credentials among the options: both or none. -/
def credentialsOf (given : Given) : Except Stop (Option (String × String)) :=
  match given.lookup "client-id", given.lookup "client-secret" with
  | some id, some secret => .ok (some (id, secret))
  | none, none => .ok none
  | _, _ => .error .usage

/-- What help is asked for by the arguments of the command that prints help. -/
def topicOf : List String → Except Stop Topic
  | [] => .ok (.whole true)
  | ["help"] => .ok .help
  | [name] => match profiles.find? (·.name == name) with
    | some profile => .ok (.command profile)
    | none => .error .usage
  | _ => .error .usage

/-- The command with the given name, with its options and texts. -/
def commandOf (name : String) (arguments : List String) :
    Except Stop (Command × Option (String × String)) := do
  if name = "help" then throw (.help (← topicOf arguments))
  let some profile := profiles.find? (·.name == name) | throw .usage
  let (given, texts) ← mixed profile (arguments.length + 1) [] [] arguments
  let credentials ← credentialsOf given
  match name, texts with
  | "register", [uid] => return (.register uid, credentials)
  | "token", [] => return (.token, credentials)
  | "query", [sparql] => return (.query sparql, credentials)
  | "update", [sparql] => return (.update sparql, credentials)
  | "subscribe", [sparql] =>
    let path := (given.lookup "path").getD standardPath
    return (.subscribe sparql (given.lookup "alias") path, credentials)
  | _, _ => throw .usage

/-- The invocation that arguments spell, or why they spell none. -/
def Invocation.ofArguments (arguments : List String) : Except Stop Invocation := do
  match ← options none [] arguments with
  | (_, []) => throw .usage
  | (given, name :: rest) =>
    let (command, credentials) ← commandOf name rest
    let some format := Format.ofName? ((given.lookup "format").getD "table") | throw .usage
    if allFit broker.switches given then
      return {
        url := (given.lookup "url").getD standardUrl
        format, credentials, command }
    else throw .usage

end GraphBroker.Cli

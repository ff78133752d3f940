import GraphBroker.Cli.Profile

/-!
# Help on the command line

What is printed when help is asked for: what a command does, how it is used, and
what it takes. The options of the program as a whole are told of on one line each or,
in the long form, on several; those of the commands have one form only.

## Main definitions

* `Cli.Topic`: what help is asked for.
* `Cli.Topic.text`: the help.
-/

namespace GraphBroker.Cli

/-- What help is asked for. -/
inductive Topic where
  /-- The program as a whole, at length or in brief. -/
  | whole (isLong : Bool)
  /-- A command. -/
  | command (profile : Profile)
  /-- The command that prints help. -/
  | help
deriving DecidableEq, Repr

/-! ### Options -/

/-- An option as it is written in help. -/
def Switch.spelling (s : Switch) : String :=
  let start := match s.letter with
    | some letter => String.ofList ['-', letter, ',', ' ']
    | none => "    "
  let value := s.name.toList.map fun c => if c = '-' then '_' else c.toUpper
  start ++ "--" ++ s.name ++ " <" ++ String.ofList value ++ ">"

/-- What help says of an option on one line. -/
def Switch.brief (s : Switch) : String :=
  s.meaning ++ ((s.standard.map fun value => " [default: " ++ value ++ "]").getD "") ++
    if s.choices.isEmpty then ""
    else " [possible values: " ++ ", ".intercalate (s.choices.map Prod.fst) ++ "]"

/-- A text with blanks behind it. -/
def padded (width : Nat) (text : String) : String :=
  text ++ String.ofList (List.replicate (width - text.length) ' ')

/-- The indentation of what stands below an option. -/
def margin : String := "          "

/-- What the long form of help says of an option below its spelling. -/
def Switch.full (s : Switch) : String :=
  let standard := (s.standard.map fun value =>
    "\n" ++ margin ++ "\n" ++ margin ++ "[default: " ++ value ++ "]").getD ""
  let width := (s.choices.map fun choice => choice.1.length).foldl max 0
  let choices := s.choices.map fun (name, meaning) =>
    "\n" ++ margin ++ "- " ++ padded (width + 2) (name ++ ":") ++ meaning
  s.meaning ++ standard ++
    if s.choices.isEmpty then ""
    else "\n\n" ++ margin ++ "Possible values:" ++ String.join choices

/-! ### Sections -/

/-- Items in two columns below a heading. -/
def columns (heading : String) (items : List (String × String)) : String :=
  let width := (items.map fun item => item.1.length).foldl max 0
  if items.isEmpty then ""
  else "\n" ++ heading ++ ":\n" ++
    String.join (items.map fun item => "  " ++ padded width item.1 ++ "  " ++ item.2 ++ "\n")

/-- Items one below the other below a heading, each above what is said of it. -/
def paragraphs (heading : String) (items : List (String × String)) : String :=
  "\n" ++ heading ++ ":\n" ++
    "\n\n".intercalate (items.map fun item => "  " ++ item.1 ++ "\n" ++ margin ++ item.2) ++ "\n"

/-- What something is for and how it is used. -/
def opening (meaning usage : String) : String :=
  meaning ++ "\n\nUsage: broker-cli " ++ usage ++ "\n"

/-- What the command that prints help is for. -/
def helpMeaning : String := "Print this message or the help of the given subcommand(s)"

/-- The help on a topic. -/
def Topic.text : Topic → String
  | whole isLong =>
    let commands := (profiles.map fun p => (p.name, p.meaning)) ++ [("help", helpMeaning)]
    opening broker.meaning "[OPTIONS] <COMMAND>" ++ columns "Commands" commands ++
      if isLong then
        paragraphs "Options" ((broker.switches.map fun s => (s.spelling, s.full)) ++
          [("-h, --help", "Print help (see a summary with '-h')"),
            ("-V, --version", "Print version")])
      else
        columns "Options" ((broker.switches.map fun s => (s.spelling, s.brief)) ++
          [("-h, --help", "Print help (see more with '--help')"),
            ("-V, --version", "Print version")])
  | command p =>
    let argument := p.text.map fun (name, meaning) => ("<" ++ name ++ ">", meaning)
    opening p.meaning (p.name ++ (if p.switches.isEmpty then "" else " [OPTIONS]") ++
        (argument.map fun item => " " ++ item.1).getD "") ++
      columns "Arguments" argument.toList ++
      columns "Options" ((p.switches.map fun s => (s.spelling, s.brief)) ++
        [("-h, --help", "Print help")])
  | help =>
    opening helpMeaning "help [COMMAND]..." ++
      columns "Arguments" [("[COMMAND]...", "Print help for the subcommand(s)")]

end GraphBroker.Cli

import GraphBroker.Config.Basic
import GraphBroker.Config.Files
import GraphBroker.Fault.Basic

/-!
# Layered settings

The settings of a broker come from files and variables, in layers. A later layer
goes over an earlier one member by member, so that what it does not mention stays.

## Main definitions

* `Layers.joined`: one layer over another.
* `Layers.layerOf?`: the layer of one variable.
* `BrokerConfig.load`: the settings from a directory and variables.
-/

namespace GraphBroker

namespace Layers

open Config

mutual

/-- A value over another: objects are joined, and any other value takes the place of what was
there. -/
def joined (old : Json) : Json → Json
  | .object given => .object (joinedMembers (Path.members old) given)
  | value => value

/-- Members over others. -/
def joinedMembers (old : List (String × Json)) : List (String × Json) → List (String × Json)
  | [] => old
  | (name, value) :: rest =>
    joinedMembers (Path.put old name (joined ((old.lookup name).getD .null) value)) rest

end

/-- A layer over others. Its outermost names may be paths. -/
def apply (settings layer : Json) : Json :=
  (Path.members layer).foldl
    (fun settings member => Path.change (joined · member.2) (Path.ofName member.1) settings)
    settings

/-- The value that the text of a variable stands for: a truth value, a number, a list where the
setting is one, or the text. -/
def valueOf (name text : String) : Json :=
  if text.toLower = "true" then .bool true
  else if text.toLower = "false" then .bool false
  else
    match (wholeNumber? text).bind Toml.fitting with
    | some number => number
    | none =>
      if (Double.ofText? text).isSome then .real text
      else if name = "auth.test_identities" then Json.ofTexts (text.splitOn ",")
      else .text text

/-- The letter of lower case for a letter of ASCII, or for the sign that shares one of them. -/
def lower (c : Char) : Char :=
  if c = '\u212a' then 'k' else c.toLower

/-- The layer of a variable, if it is one for the broker. The name is read without regard to
case. -/
def layerOf? (entry : String × String) : Option Json :=
  let name := entry.1.map lower
  if "broker__".isPrefixOf name then
    let name := ".".intercalate ((String.ofList (name.toList.drop 8)).splitOn "__")
    some (.object [(name, valueOf name entry.2)])
  else none

end Layers

namespace BrokerConfig

/-- The layers of the files with the given names; a file need not be there. -/
def fileLayers (files : List (String × String)) (names : List String) : Outcome (List Json) :=
  (names.filterMap (Config.Files.read files)).mapM fun
    | some layer => .ok layer
    | none => .error (.configuration "Failed to build config: *")

/-- The settings in a directory, given by its files, and in variables: the file `default`, then
the one named for the place where the broker runs, then the variables. -/
def load (files : List (String × String)) (place : String) (vars : List (String × String)) :
    Outcome BrokerConfig := do
  let layers := (← fileLayers files ["default", place]) ++ vars.filterMap Layers.layerOf?
  match BrokerConfig.ofJson? .lenient (layers.foldl Layers.apply (.object [])) with
  | some config => return config
  | none => throw (.configuration "Failed to deserialize config: *")

end BrokerConfig

end GraphBroker

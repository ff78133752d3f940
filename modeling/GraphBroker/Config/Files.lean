import GraphBroker.Config.Path
import GraphBroker.Toml.Document

/-!
# Files with settings

A file with settings is a TOML or a JSON document, as the extension of its name
tells. What asks for a file may leave the extension out.

## Main definitions

* `Files.ofJsonText?`: the settings that a JSON document spells.
* `Files.read`: the settings in the file that a name stands for.
-/

namespace GraphBroker.Config.Files

mutual

/-- A JSON value as settings: of a name given twice the last value counts, and a number that
does not fit a signed 64-bit word is a decimal one. -/
def settled : Json → Json
  | .int n => if 0x7FFFFFFFFFFFFFFF < n then .real (toString n) else .int n
  | .array items => .array (settledItems items)
  | .object members => .object (settledMembers [] members)
  | json => json

/-- Items as settings. -/
def settledItems : List Json → List Json
  | [] => []
  | item :: rest => settled item :: settledItems rest

/-- Members as settings, after those that are known already. -/
def settledMembers (known : List (String × Json)) : List (String × Json) → List (String × Json)
  | [] => known
  | (name, value) :: rest => settledMembers (Path.put known name (settled value)) rest

end

/-- The settings that a JSON document spells. -/
def ofJsonText? (text : String) : Option Json := do
  let json ← Json.read? (String.ofList (Toml.unmarked text.toList))
  match ← json.within? 0 with
  | .object members => return settled (.object members)
  | _ => none

/-- How a document is read, by the extension of its file. -/
def forms : List (String × (String → Option Json)) :=
  [(".toml", Toml.read?), (".json", ofJsonText?)]

/-- Whether a name has an extension. -/
def hasExtension (name extension : String) : Bool :=
  name.endsWith extension && name != extension

/-- The settings in the file that a name stands for; nothing if there is no file, or one that
cannot be read. A file of exactly that name goes before one with an extension, but is read only
if it has an extension itself. -/
def read (files : List (String × String)) (name : String) : Option (Option Json) :=
  match files.lookup name with
  | some text =>
    (forms.find? fun form => hasExtension name form.1).map fun form => form.2 text
  | none =>
    if ["", ".", ".."].contains name then none
    else forms.findSome? fun form => (files.lookup (name ++ form.1)).map form.2

end GraphBroker.Config.Files

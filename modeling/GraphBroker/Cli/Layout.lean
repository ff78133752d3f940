import GraphBroker.Access.Grant
import GraphBroker.Channel.Notification
import GraphBroker.Text.Quoted
import GraphBroker.Text.Width

/-!
# Layout of results

How results are printed: as a table, as JSON, or as an outline of records and
lists.

## Main definitions

* `Cli.table`: rows in columns.
* `Cli.Outline`, `Cli.Outline.text`: records and lists, laid out over several lines.
-/

namespace GraphBroker.Cli

/-! ### Tables -/

/-- The widths of the columns of a row joined with those of others. -/
def widen (widths : List Nat) (row : List String) : List Nat :=
  widths.zipWith (fun w cell => max w (Text.width cell)) row

/-- A line of a table between rows. -/
def ruler (widths : List Nat) : String :=
  "+" ++ String.join (widths.map fun w => String.ofList (List.replicate (w + 2) '-') ++ "+")

/-- A row of a table. -/
def rowLine (widths : List Nat) (row : List String) : String :=
  "|" ++ String.join (widths.zipWith (fun w cell =>
    " " ++ cell ++ String.ofList (List.replicate (w - Text.width cell) ' ') ++ " |") row)

/-- Rows in columns, as many as the first row has cells, with lines around each row. -/
def table (rows : List (List String)) : String :=
  let columns := ((rows.head?.map List.length).getD 0)
  if columns = 0 then ""
  else
    let widths := rows.foldl widen (List.replicate columns 0)
    "\n".intercalate (ruler widths :: rows.flatMap fun row => [rowLine widths row, ruler widths])

/-- Results as a table: the variables, and a row for each solution. -/
def resultsTable (results : ResultSet) : String :=
  table (results.vars :: results.toList.map fun solution =>
    results.vars.map fun name => ((solution.get? name).map Term.toSparql).getD "")

/-! ### Outlines -/

/-- Records and lists. -/
inductive Outline where
  /-- A text that is printed as it is. -/
  | plain (text : String)
  /-- Several items between a start and an end, each after a heading. -/
  | group (opening closing : String) (items : List (String × Outline))

namespace Outline

mutual

/-- The text of an outline that starts at the given level. -/
def textAt (level : Nat) : Outline → String
  | plain text => text
  | group opening closing [] => opening ++ closing
  | group opening closing items =>
    opening ++ "\n" ++ itemsAt (level + 1) items ++
      String.ofList (List.replicate (4 * level) ' ') ++ closing

/-- The items, each on lines of its own. -/
def itemsAt (level : Nat) : List (String × Outline) → String
  | [] => ""
  | (heading, item) :: rest =>
    String.ofList (List.replicate (4 * level) ' ') ++ heading ++ item.textAt level ++ ",\n" ++
      itemsAt level rest

end

/-- The text of an outline. -/
def text (outline : Outline) : String :=
  outline.textAt 0

/-- A text in quotes. -/
def ofText (value : String) : Outline :=
  plain (Text.quoted value)

/-- A whole number. -/
def ofInt (value : Int) : Outline :=
  plain (toString value)

/-- A record with its fields. -/
def record (name : String) (fields : List (String × Outline)) : Outline :=
  group (name ++ " \x7b") "\x7d" (fields.map fun field => (field.1 ++ ": ", field.2))

/-- A name around items. -/
def around (name : String) (items : List Outline) : Outline :=
  group (name ++ "(") ")" (items.map fun item => ("", item))

/-- A text or nothing. -/
def ofText? : Option String → Outline
  | some value => around "Some" [ofText value]
  | none => plain "None"

/-- A list. -/
def list (items : List Outline) : Outline :=
  group "[" "]" (items.map fun item => ("", item))

/-- A set. -/
def set (items : List Outline) : Outline :=
  group "\x7b" "\x7d" (items.map fun item => ("", item))

end Outline

/-- The outline of credentials. -/
def credentialsOutline (c : ClientCredentials) : Outline :=
  .record "ClientCredentials" [("client_id", .ofText c.id), ("client_secret", .ofText c.secret),
    ("signature", .ofText? c.signature)]

/-- The outline of a token. -/
def grantOutline (g : TokenGrant) : Outline :=
  .record "JwtResponse" [("access_token", .ofText g.accessToken),
    ("token_type", .ofText g.tokenType), ("expires_in", .ofInt g.expiresIn),
    ("issued_at", .ofInt g.issuedAt), ("expires_at", .ofInt g.expiresAt)]

/-- The outline of a term. -/
def termOutline : Term → Outline
  | .iri value => .record "Uri" [("value", .ofText value)]
  | .literal value datatype lang =>
    .record "Literal" [("value", .ofText value), ("datatype", .ofText? datatype),
      ("lang", .ofText? lang)]
  | .blank value => .record "Bnode" [("value", .ofText value)]

/-- The outline of a solution. -/
def solutionOutline (b : Binding) : Outline :=
  .around "Binding" [.group "\x7b" "\x7d"
    (b.toList.map fun entry => (Text.quoted entry.1 ++ ": ", termOutline entry.2))]

/-- The outline of results. -/
def resultsOutline (r : ResultSet) : Outline :=
  .record "ResultSet" [("vars", .list (r.vars.map .ofText)),
    ("bindings", .set (r.toList.map solutionOutline))]

/-- The outline of a notification. -/
def notificationOutline (n : Notification) : Outline :=
  .record "Notification" [("spuid", .around "SubscriptionId" [.plain (toString n.subscription)]),
    ("sequence", .ofInt n.sequence), ("added", resultsOutline n.change.added),
    ("removed", resultsOutline n.change.removed)]

end GraphBroker.Cli

import GraphBroker.Text.Alphanumeric
import GraphBroker.Text.Quoted

/-!
# Tokens of the query language

The words that queries and updates are made of, and how a message shows one.

## Main definitions

* `Sparql.Token`: a token.
* `Token.shown`: the token as a message shows it.
-/

namespace GraphBroker.Sparql

/-- A token of a query or an update. -/
inductive Token where
  /-- An IRI between angle brackets. -/
  | iri (value : String)
  /-- A name with a colon. Either part may be empty. -/
  | prefixedName (label suffix : String)
  /-- A variable. -/
  | var (name : String)
  /-- A text in quotes, with its escapes resolved. -/
  | string (value : String)
  /-- A language tag. -/
  | langTag (tag : String)
  /-- Two carets. -/
  | datatypeMarker
  /-- A number without a point. -/
  | integer (digits : String)
  /-- A number with a point. -/
  | decimal (digits : String)
  /-- A blank node. -/
  | blankNode (label : String)
  /-- A bare word. -/
  | word (text : String)
  /-- An opening brace. -/
  | lbrace
  /-- A closing brace. -/
  | rbrace
  /-- A full stop. -/
  | dot
  /-- A semicolon. -/
  | semicolon
  /-- A comma. -/
  | comma
  /-- An asterisk. -/
  | star
deriving DecidableEq, Repr, Inhabited

/-- Whether the character may stand in a name. -/
def isNameChar (c : Char) : Bool :=
  Text.isAlphanumeric c || c == '_' || c == '-'

namespace Token

open Text

/-- A class of tokens with the text of one. -/
def tagged (kind text : String) : String :=
  kind ++ "(" ++ quoted text ++ ")"

/-- The token as a message shows it. -/
def shown : Token → String
  | iri value => tagged "Iri" value
  | prefixedName label suffix => "PrefixedName(" ++ quoted label ++ ", " ++ quoted suffix ++ ")"
  | var name => tagged "Var" name
  | string value => tagged "String" value
  | langTag tag => tagged "LangTag" tag
  | datatypeMarker => "DatatypeMarker"
  | integer digits => tagged "Integer" digits
  | decimal digits => tagged "Decimal" digits
  | blankNode label => tagged "BlankNode" label
  | word text => tagged "Word" text
  | lbrace => "LBrace"
  | rbrace => "RBrace"
  | dot => "Dot"
  | semicolon => "Semicolon"
  | comma => "Comma"
  | star => "Star"

/-- The token that was found, or that none was. -/
def shown? : Option Token → String
  | some token => "Some(" ++ token.shown ++ ")"
  | none => "None"

end Token

end GraphBroker.Sparql

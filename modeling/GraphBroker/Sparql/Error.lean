import GraphBroker.Fault.Basic
import GraphBroker.Sparql.Token

/-!
# Syntax errors

Why a text is no query and no update, and what the message says.

## Main definitions

* `Sparql.SyntaxError`: the causes, first those of the lexer and then those of the parser.
* `SyntaxError.message`, `SyntaxError.toFault`.
-/

namespace GraphBroker.Sparql

/-- Why a text is no query or no update. -/
inductive SyntaxError where
  /-- An angle bracket is not closed. -/
  | unterminatedIri
  /-- An IRI holds a blank. -/
  | blankInIri
  /-- A variable has no name. -/
  | emptyVariable
  /-- A language tag is empty. -/
  | emptyLanguageTag
  /-- A caret stands alone. -/
  | loneCaret
  /-- A blank node has no label. -/
  | emptyBlankNode
  /-- A character starts no token. -/
  | unexpectedCharacter (c : Char)
  /-- The text ends after a backslash. -/
  | danglingEscape
  /-- A line ends inside quotes. -/
  | newlineInString
  /-- A quote is not closed. -/
  | unterminatedString
  /-- Another token had to stand here. -/
  | expectedToken (wanted : Token) (found : Option Token)
  /-- A keyword had to stand here. -/
  | expectedKeyword (wanted : String) (found : Option Token)
  /-- Something follows the end. -/
  | trailing (token : Token)
  /-- A prefix is declared without a name. -/
  | badPrefixName (found : Option Token)
  /-- A prefix is declared without an IRI. -/
  | badPrefixIri (found : Option Token)
  /-- Nothing is selected. -/
  | noProjection
  /-- A limit is no number. -/
  | badLimit (found : Option Token)
  /-- A limit is negative or too large. -/
  | limitOutOfRange
  /-- An update starts with something else than its keyword. -/
  | unsupportedOperation (found : Option Token)
  /-- Only the default graph can be cleared. -/
  | unsupportedClear
  /-- Data holds a variable. -/
  | variableInData
  /-- A group is not closed. -/
  | unterminatedGroup
  /-- A group holds a filter or an optional part. -/
  | unsupportedGroup
  /-- A full stop or a closing brace had to stand here. -/
  | expectedSeparator (found : Option Token)
  /-- A variable stands where none may. -/
  | variableNotAllowed (name : String)
  /-- The text ends where a term had to stand. -/
  | endOfInput
  /-- A token is no term. -/
  | unexpectedToken (token : Token)
  /-- A datatype is no IRI. -/
  | badDatatype (found : Option Token)
  /-- A prefix was not declared. -/
  | undeclaredPrefix (label : String)
  /-- An update has no operation. -/
  | emptyUpdate
deriving DecidableEq, Repr

namespace SyntaxError

open Token

/-- What the message says about the cause. -/
def message : SyntaxError → String
  | unterminatedIri => "unterminated IRI"
  | blankInIri => "whitespace inside IRI"
  | emptyVariable => "empty variable name"
  | emptyLanguageTag => "empty language tag"
  | loneCaret => "expected ^^"
  | emptyBlankNode => "empty blank node label"
  | unexpectedCharacter c => "unexpected character '" ++ String.ofList [c] ++ "'"
  | danglingEscape => "dangling escape"
  | newlineInString => "newline in string literal"
  | unterminatedString => "unterminated string literal"
  | expectedToken wanted found => "expected " ++ wanted.shown ++ ", found " ++ shown? found
  | expectedKeyword wanted found => "expected " ++ wanted ++ ", found " ++ shown? found
  | trailing token => "unexpected trailing " ++ token.shown
  | badPrefixName found => "bad PREFIX name " ++ shown? found
  | badPrefixIri found => "bad PREFIX IRI " ++ shown? found
  | noProjection => "SELECT needs variables or *"
  | badLimit found => "bad LIMIT " ++ shown? found
  | limitOutOfRange => "LIMIT must be a non-negative integer"
  | unsupportedOperation found => "unsupported operation " ++ shown? found
  | unsupportedClear => "only CLEAR ALL and CLEAR DEFAULT are supported"
  | variableInData => "variables are not allowed in DATA"
  | unterminatedGroup => "unterminated group"
  | unsupportedGroup => "FILTER and OPTIONAL are not supported"
  | expectedSeparator found => "expected . or \x7d, found " ++ shown? found
  | variableNotAllowed name => "variable ?" ++ name ++ " not allowed here"
  | endOfInput => "unexpected end of input"
  | unexpectedToken token => "unexpected " ++ token.shown
  | badDatatype found => "bad datatype " ++ shown? found
  | undeclaredPrefix label => "undeclared prefix '" ++ label ++ ":'"
  | emptyUpdate => "empty update"

/-- The fault of a request whose text has the error. -/
def toFault (e : SyntaxError) : Fault :=
  .execution ("SPARQL syntax error: " ++ e.message)

end SyntaxError

end GraphBroker.Sparql

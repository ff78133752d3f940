import GraphBroker.Fault.Basic
import GraphBroker.Text.Base64
import GraphBroker.Text.Blank
import GraphBroker.Text.Utf8

/-!
# Authorization headers

A header names a scheme, in letters of either case, and after a space what the
scheme asks for: a name and a secret in base 64, or a token.

## Main definitions

* `Header.basic`: the name and the secret of a header.
* `Header.bearer`: the token of a header.
* `Header.ofPair`: the header for a name and a secret.
-/

namespace GraphBroker.Header

/-- The parts of `text` before and after the first `c`. -/
def cut? (c : Char) (text : String) : Option (String × String) :=
  match text.toList.dropWhile (· != c) with
  | [] => none
  | _ :: rest => some (String.ofList (text.toList.takeWhile (· != c)), String.ofList rest)

/-- What follows the scheme of `header`, if it is `scheme`. -/
def afterScheme? (scheme header : String) : Option String :=
  match cut? ' ' (Text.trimStart header) with
  | some (head, rest) => if head.toLower = scheme.toLower then some rest else none
  | none => none

/-- The token of `header`. -/
def bearer (header : String) : Outcome String :=
  match (afterScheme? "Bearer" header).map Text.trim with
  | some token =>
    if token.isEmpty then .error (.security "Expected Bearer authorization") else .ok token
  | none => .error (.security "Expected Bearer authorization")

/-- What is written in `text` in base 64. -/
def decoded (text : String) : Outcome String :=
  match Base64.decodePadded? .standard text.toList with
  | none => .error (.security "Basic credentials are not base64")
  | some bytes =>
    match Utf8.decode bytes with
    | .error _ => .error (.security "Basic credentials are not UTF-8")
    | .ok pair => .ok pair

/-- The name and the secret of `header`. The name ends at the first colon. -/
def basic (header : String) : Outcome (String × String) := do
  match afterScheme? "Basic" header with
  | none => throw (.security "Expected Basic authorization")
  | some written =>
    match cut? ':' (← decoded (Text.trim written)) with
    | some pair => return pair
    | none => throw (.security "Basic credentials must be id:secret")

/-- The header for `name` and `secret`. -/
def ofPair (name secret : String) : String :=
  "Basic " ++ String.ofList (Base64.encodePadded .standard (Utf8.encode (name ++ ":" ++ secret)))

end GraphBroker.Header

import GraphBroker.Digest.Argon2
import GraphBroker.Fault.Basic
import GraphBroker.Text.Base64
import GraphBroker.Text.Digits
import GraphBroker.Text.Utf8

/-!
# Hashes of secrets as texts

The hash of a secret is written as a text of fields, each after a dollar sign: the
name of a method, its version, its parameters, a salt and a hash, of which all but
the first may be missing.

## Main definitions

* `HashText`: such a text by its fields; `HashText.ofText?` reads it.
* `HashText.Flaw`: why the fields say nothing.
* `HashText.agrees`: whether a secret has the hash.
* `HashText.check`: whether a secret has the hash that a text writes down.
-/

namespace GraphBroker

open Digest

/-- The hash of a secret by the fields of its text. -/
structure HashText where
  /-- The name of the method. -/
  method : String
  /-- The version. -/
  version : Option Nat
  /-- The parameters, each with its value. -/
  parameters : List (String × String)
  /-- The salt as it is written. -/
  salt : Option String
  /-- The hash. -/
  hash : Option (List UInt8)
deriving DecidableEq, Repr

namespace HashText

/-! ### Reading -/

/-- Why a value says nothing. -/
inductive ValueFlaw where
  /-- It holds a character that it may not hold. -/
  | character (c : Char)
  /-- It is not in the form it should have. -/
  | format
  /-- It is empty. -/
  | malformed
  /-- It is too great. -/
  | tooLong
  /-- It is too small. -/
  | tooShort
deriving DecidableEq, Repr

/-- The flaw in words. -/
def ValueFlaw.message : ValueFlaw → String
  | character c => "contains invalid character: '" ++ String.singleton c ++ "'"
  | format => "value format is invalid"
  | malformed => "value malformed"
  | tooLong => "value to long"
  | tooShort => "value to short"

/-- A name of a method or of a parameter. -/
def isName (text : String) : Bool :=
  1 ≤ text.length && text.length ≤ 32 &&
    text.toList.all fun c => ('a' ≤ c && c ≤ 'z') || c.isDigit || c == '-'

/-- Whether all characters may stand in a value. -/
def isValue (text : String) : Bool :=
  text.length ≤ 64 && text.toList.all fun c => c.isAlphanum || ['/', '+', '.', '-'].contains c

/-- The decimal number of at most 32 bits that a value writes, without leading zeros. -/
def decimal (value : String) : Except ValueFlaw Nat :=
  match value.toList with
  | [] => .error .malformed
  | c :: cs =>
    match (c :: cs).find? (!·.isDigit) with
    | some other => .error (.character other)
    | none =>
      let n := Text.ofDigits (c :: cs)
      if (c = '0' ∧ !cs.isEmpty) ∨ 0xFFFFFFFF < n then .error .format else .ok n

/-- A parameter with its value. -/
def parameter? (text : String) : Option (String × String) :=
  match text.splitOn "=" with
  | [name, value] => if isName name && isValue value then some (name, value) else none
  | _ => none

/-- The parameters with commas between them, in at most 127 characters. -/
def parameters? (text : String) : Option (List (String × String)) :=
  if 127 < text.length then none else (text.splitOn ",").mapM parameter?

/-- A salt has from 4 to 64 characters. -/
def isSalt (text : String) : Bool :=
  4 ≤ text.length && isValue text

/-- The hash that a text writes down: from 10 to 64 bytes. -/
def hash? (text : String) : Option (List UInt8) :=
  (Base64.decode? .standard text.toList).filter fun bytes =>
    10 ≤ bytes.length && bytes.length ≤ 64

/-- The version at the start of the fields, if there is one, and what follows it. -/
def version? : List String → Option (Option Nat × List String)
  | field :: rest =>
    if field.startsWith "v=" && !field.contains ',' then
      match decimal (String.ofList (field.toList.drop 2)) with
      | .ok n => some (some n, rest)
      | .error _ => none
    else some (none, field :: rest)
  | [] => some (none, [])

/-- The hash of a secret that a text writes down. -/
def ofText? (text : String) : Option HashText := do
  let "" :: method :: fields := text.splitOn "$" | none
  if !isName method then none
  let (version, fields) ← version? fields
  let (parameters, fields) ← match fields with
    | field :: rest =>
      if field.contains '=' then (parameters? field).map (·, rest) else some ([], fields)
    | [] => some ([], [])
  match fields with
  | [] => return ⟨method, version, parameters, none, none⟩
  | [salt] => if isSalt salt then return ⟨method, version, parameters, salt, none⟩ else none
  | [salt, hash] =>
    let hash ← hash? hash
    if isSalt salt then return ⟨method, version, parameters, salt, hash⟩ else none
  | _ => none

/-! ### What the fields say -/

/-- Why the fields say nothing. -/
inductive Flaw where
  /-- The method has another name. -/
  | method
  /-- The method has another version. -/
  | version
  /-- A parameter has another name. -/
  | parameterName
  /-- A parameter has no value. -/
  | parameter (flaw : ValueFlaw)
  /-- The salt has no value. -/
  | salt (flaw : ValueFlaw)
  /-- Bytes are written wrong. -/
  | encoding
  /-- There are too many bytes. -/
  | encodedLength
deriving DecidableEq, Repr

/-- The flaw in words. -/
def Flaw.message : Flaw → String
  | method => "unsupported algorithm"
  | version => "invalid algorithm version"
  | parameterName => "invalid parameter name"
  | parameter flaw => "invalid parameter value: " ++ flaw.message
  | salt flaw => "salt invalid: " ++ flaw.message
  | encoding => "invalid Base64 encoding"
  | encodedLength => "invalid Base64 length"

/-- The bytes that a value writes, at most so many. -/
def bytesOf (most : Nat) (value : String) : Except Flaw (List UInt8) :=
  if most < value.length * 3 / 4 then .error .encodedLength
  else
    match Base64.decode? .standard value.toList with
    | some bytes => .ok bytes
    | none => .error .encoding

/-- What parameters say. -/
structure Said where
  /-- What the hash costs. -/
  cost : Argon2.Cost := {}
  /-- More bytes that the hash depends on. -/
  data : List UInt8 := []

/-- What is said with one more parameter. The latest one of a name counts. -/
def said (s : Said) (parameter : String × String) : Except Flaw Said := do
  let (name, value) := parameter
  let number := (decimal value).mapError Flaw.parameter
  match name with
  | "m" => return { s with cost.memory := ← number }
  | "t" => return { s with cost.passes := ← number }
  | "p" => return { s with cost.lanes := ← number }
  | "keyid" =>
    let _ ← bytesOf 8 value
    return s
  | "data" => return { s with data := ← bytesOf 32 value }
  | _ => throw .parameterName

/-- Whether a cost lies within bounds: there are from 1 to 16777215 lanes, at least one pass, and
at least 8 blocks for each lane. The blocks are counted in 32 bits. -/
def checkCost (cost : Argon2.Cost) : Except Flaw Unit := do
  if cost.memory < 8 ∨ cost.memory < cost.lanes * 8 % 0x100000000 ∨ cost.passes < 1 ∨
      cost.lanes < 1 then
    throw (.parameter .tooShort)
  if 0xFFFFFF < cost.lanes then throw (.parameter .tooLong)

/-- The variant that the name of a method stands for. -/
def variant : String → Except Flaw Argon2.Variant
  | "argon2d" => .ok .dependent
  | "argon2i" => .ok .independent
  | "argon2id" => .ok .hybrid
  | _ => .error .method

/-- What a hash of so many bytes depends on beside the secret, where the salt is given. -/
def setting (h : HashText) (salt : String) (length : Nat) : Except Flaw Argon2.Setting := do
  let s ← h.parameters.foldlM said {}
  checkCost s.cost
  let variant ← variant h.method
  let version := h.version.getD 19
  if version ≠ 16 ∧ version ≠ 19 then throw .version
  let salt ← bytesOf 64 salt
  if salt.length < 8 then throw (.salt .tooShort)
  return ⟨variant, version, s.cost, salt, s.data, length⟩

/-- Whether a secret has the hash. Without a salt and a hash, none has it. -/
def agrees (h : HashText) (secret : String) : Except Flaw Bool :=
  match h.salt, h.hash with
  | some salt, some hash => do
    let setting ← h.setting salt hash.length
    return Argon2.hash setting (Utf8.encode secret) == hash
  | _, _ => return false

/-- Whether a secret has the hash that a text writes down. The star stands for what is wrong
with the text. -/
def check (text secret : String) : Outcome Bool :=
  match ofText? text with
  | none => .error (.internal "Invalid secret hash format: *")
  | some h =>
    (h.agrees secret).mapError fun flaw =>
      .internal ("Secret verification failed: " ++ flaw.message)

end HashText

end GraphBroker

/-!
# UTF-8

Reads bytes as characters and says where this fails.

## Main definitions

* `Utf8.decode`: the characters that bytes spell.
* `Utf8.Fault`: where and how bytes fail to spell characters.
* `Utf8.decodeLossy`: the characters, whatever the bytes are.
* `Utf8.encode`: the bytes of characters.
-/

namespace GraphBroker.Utf8

/-- Why bytes spell no characters. -/
inductive Fault where
  /-- So many bytes from this index on start no character. -/
  | invalid (length index : Nat)
  /-- The bytes end inside the character that starts at this index. -/
  | incomplete (index : Nat)
deriving DecidableEq, Repr

/-- The fault in words. -/
def Fault.message : Fault → String
  | invalid length index =>
    "invalid utf-8 sequence of " ++ toString length ++ " bytes from index " ++ toString index
  | incomplete index => "incomplete utf-8 byte sequence from index " ++ toString index

/-- Whether the byte lies between the bounds. -/
def between (low high b : UInt8) : Bool :=
  low ≤ b && b ≤ high

/-- Whether the byte goes on with a character. -/
def isTail (b : UInt8) : Bool :=
  between 0x80 0xBF b

/-- Whether the byte may follow the first byte of a character of three bytes. -/
def isSecondOfThree (first second : UInt8) : Bool :=
  between (if first = 0xE0 then 0xA0 else 0x80) (if first = 0xED then 0x9F else 0xBF) second

/-- Whether the byte may follow the first byte of a character of four bytes. -/
def isSecondOfFour (first second : UInt8) : Bool :=
  between (if first = 0xF0 then 0x90 else 0x80) (if first = 0xF4 then 0x8F else 0xBF) second

/-- A number with the six low bits of a further byte. -/
def shift (n : Nat) (b : UInt8) : Nat :=
  n * 64 + b.toNat % 64

/-- The characters that bytes spell from an index on. -/
def decodeFrom (index : Nat) : List UInt8 → Except Fault (List Char)
  | [] => .ok []
  | a :: rest =>
    if a < 0x80 then (decodeFrom (index + 1) rest).map (Char.ofNat a.toNat :: ·)
    else if between 0xC2 0xDF a then
      match rest with
      | [] => .error (.incomplete index)
      | b :: rest =>
        if isTail b then
          (decodeFrom (index + 2) rest).map (Char.ofNat (shift (a.toNat % 32) b) :: ·)
        else .error (.invalid 1 index)
    else if between 0xE0 0xEF a then
      match rest with
      | [] => .error (.incomplete index)
      | b :: rest =>
        if isSecondOfThree a b then
          match rest with
          | [] => .error (.incomplete index)
          | c :: rest =>
            if isTail c then
              (decodeFrom (index + 3) rest).map
                (Char.ofNat (shift (shift (a.toNat % 16) b) c) :: ·)
            else .error (.invalid 2 index)
        else .error (.invalid 1 index)
    else if between 0xF0 0xF4 a then
      match rest with
      | [] => .error (.incomplete index)
      | b :: rest =>
        if isSecondOfFour a b then
          match rest with
          | [] => .error (.incomplete index)
          | c :: rest =>
            if isTail c then
              match rest with
              | [] => .error (.incomplete index)
              | d :: rest =>
                if isTail d then
                  (decodeFrom (index + 4) rest).map
                    (Char.ofNat (shift (shift (shift (a.toNat % 8) b) c) d) :: ·)
                else .error (.invalid 3 index)
            else .error (.invalid 2 index)
        else .error (.invalid 1 index)
    else .error (.invalid 1 index)

/-- The text that bytes spell. -/
def decode (bytes : List UInt8) : Except Fault String :=
  (decodeFrom 0 bytes).map String.ofList

/-- Where the bytes go wrong. -/
def Fault.index : Fault → Nat
  | invalid _ index => index
  | incomplete index => index

/-- The text that bytes spell up to where they go wrong, and whether it is all of them. -/
def decodeStart (bytes : List UInt8) : String × Bool :=
  match decode bytes with
  | .ok text => (text, true)
  | .error fault => (((decode (bytes.take fault.index)).toOption).getD "", false)

/-- How many bytes from where they go wrong spell no character, of those that are left. -/
def Fault.width (left : Nat) : Fault → Nat
  | invalid length _ => length
  | incomplete index => left - index

/-- The text that bytes spell, with a replacement character for each stretch that spells none;
at most so many stretches are replaced. -/
def decodeUpTo : Nat → List UInt8 → String
  | 0, _ => ""
  | n + 1, bytes =>
    match decode bytes with
    | .ok text => text
    | .error fault =>
      (decodeStart bytes).1 ++ "\ufffd" ++
        decodeUpTo n (bytes.drop (fault.index + fault.width bytes.length))

/-- The text that bytes spell, with a replacement character for each stretch that spells none. -/
def decodeLossy (bytes : List UInt8) : String :=
  decodeUpTo (bytes.length + 1) bytes

/-- The bytes of a text. -/
def encode (text : String) : List UInt8 :=
  text.toList.flatMap String.utf8EncodeChar

end GraphBroker.Utf8

/-!
# Base 64

Bytes written with 64 characters, three bytes as four characters. A rest of one
or two bytes is written as two or three characters, whose spare bits are zero.

## Main definitions

* `Base64.Alphabet`: the 64 characters, of which two vary.
* `Base64.encode`, `Base64.decode?`: without padding.
* `Base64.encodePadded`, `Base64.decodePadded?`: with equality signs up to a multiple of
  four characters.
-/

namespace GraphBroker.Base64

/-- The two alphabets. -/
inductive Alphabet where
  /-- The last two characters are the plus sign and the slash. -/
  | standard
  /-- The last two characters are the hyphen and the underscore. -/
  | url
deriving DecidableEq, Repr

/-- The last two characters of the alphabet. -/
def Alphabet.special : Alphabet → Char × Char
  | standard => ('+', '/')
  | url => ('-', '_')

/-- The character for a number below 64. -/
def digit (alphabet : Alphabet) (n : Nat) : Char :=
  if n < 26 then Char.ofNat ('A'.toNat + n)
  else if n < 52 then Char.ofNat ('a'.toNat + (n - 26))
  else if n < 62 then Char.ofNat ('0'.toNat + (n - 52))
  else if n = 62 then alphabet.special.1
  else alphabet.special.2

/-- The number that a character stands for. -/
def value? (alphabet : Alphabet) (c : Char) : Option Nat :=
  if 'A' ≤ c ∧ c ≤ 'Z' then some (c.toNat - 'A'.toNat)
  else if 'a' ≤ c ∧ c ≤ 'z' then some (c.toNat - 'a'.toNat + 26)
  else if '0' ≤ c ∧ c ≤ '9' then some (c.toNat - '0'.toNat + 52)
  else if c = alphabet.special.1 then some 62
  else if c = alphabet.special.2 then some 63
  else none

/-- The characters for bytes. -/
def encode (alphabet : Alphabet) : List UInt8 → List Char
  | [] => []
  | [a] => [digit alphabet (a.toNat / 4), digit alphabet (a.toNat % 4 * 16)]
  | [a, b] =>
    [digit alphabet (a.toNat / 4), digit alphabet (a.toNat % 4 * 16 + b.toNat / 16),
      digit alphabet (b.toNat % 16 * 4)]
  | a :: b :: c :: rest =>
    digit alphabet (a.toNat / 4) :: digit alphabet (a.toNat % 4 * 16 + b.toNat / 16) ::
      digit alphabet (b.toNat % 16 * 4 + c.toNat / 64) :: digit alphabet (c.toNat % 64) ::
      encode alphabet rest

/-- The bytes that the numbers of characters spell. -/
def bytesOf? : List Nat → Option (List UInt8)
  | [] => some []
  | [_] => none
  | [w, x] => if x % 16 = 0 then some [UInt8.ofNat (w * 4 + x / 16)] else none
  | [w, x, y] =>
    if y % 4 = 0 then some [UInt8.ofNat (w * 4 + x / 16), UInt8.ofNat (x % 16 * 16 + y / 4)]
    else none
  | w :: x :: y :: z :: rest =>
    (bytesOf? rest).map fun bytes =>
      UInt8.ofNat (w * 4 + x / 16) :: UInt8.ofNat (x % 16 * 16 + y / 4) ::
        UInt8.ofNat (y % 4 * 64 + z) :: bytes

/-- The bytes that characters spell. -/
def decode? (alphabet : Alphabet) (cs : List Char) : Option (List UInt8) :=
  (cs.mapM (value? alphabet)).bind bytesOf?

/-- The equality signs that fill so many characters up to a multiple of four. -/
def padding (length : Nat) : List Char :=
  List.replicate ((4 - length % 4) % 4) '='

/-- The characters for bytes, filled up. -/
def encodePadded (alphabet : Alphabet) (bytes : List UInt8) : List Char :=
  let cs := encode alphabet bytes
  cs ++ padding cs.length

/-- The bytes that characters spell that have been filled up. -/
def decodePadded? (alphabet : Alphabet) (cs : List Char) : Option (List UInt8) :=
  let body := cs.takeWhile (· != '=')
  if cs = body ++ padding body.length then decode? alphabet body else none

end GraphBroker.Base64

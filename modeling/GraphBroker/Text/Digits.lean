/-!
# Digits

## Main definitions

* `ofDigits`: the number that decimal digits write.
* `ofHex`: the bytes that pairs of hexadecimal digits write.
-/

namespace GraphBroker.Text

/-- The number that decimal digits write. -/
def ofDigits (ds : List Char) : Nat :=
  ds.foldl (fun n d => 10 * n + (d.toNat - '0'.toNat)) 0

/-- The value of a hexadecimal digit in lower case. -/
def hexValue (d : Char) : Nat :=
  if d.isDigit then d.toNat - '0'.toNat else d.toNat - 'a'.toNat + 10

/-- The bytes that pairs of hexadecimal digits in lower case write. -/
def ofHex : List Char → List UInt8
  | a :: b :: rest => UInt8.ofNat (16 * hexValue a + hexValue b) :: ofHex rest
  | _ => []

end GraphBroker.Text

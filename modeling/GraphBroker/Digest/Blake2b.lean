/-!
# BLAKE2b

The hash function on bytes with 64-bit words, for hashes of up to 64 bytes.

## Main definitions

* `Digest.blake2b`: the hash of bytes, of a given length.
* `Digest.littleEndian`, `Digest.word64s`: numbers as bytes, the lowest first, and back.
-/

namespace GraphBroker.Digest

/-- The bytes of a number, the lowest first; so many. -/
def littleEndian : Nat → Nat → List UInt8
  | 0, _ => []
  | count + 1, n => UInt8.ofNat n :: littleEndian count (n / 256)

/-- The words that bytes make up, eight each, the lowest first. -/
def word64s : List UInt8 → List UInt64
  | a :: b :: c :: d :: e :: f :: g :: h :: rest =>
    (a.toUInt64 ||| b.toUInt64 <<< 8 ||| c.toUInt64 <<< 16 ||| d.toUInt64 <<< 24 |||
      e.toUInt64 <<< 32 ||| f.toUInt64 <<< 40 ||| g.toUInt64 <<< 48 ||| h.toUInt64 <<< 56) ::
      word64s rest
  | _ => []

/-- The eight bytes of a word, the lowest first. -/
def word64Bytes (w : UInt64) : List UInt8 :=
  [w.toUInt8, (w >>> 8).toUInt8, (w >>> 16).toUInt8, (w >>> 24).toUInt8, (w >>> 32).toUInt8,
    (w >>> 40).toUInt8, (w >>> 48).toUInt8, (w >>> 56).toUInt8]

/-- A word turned to the right by `n` bits. -/
def rotate64 (x n : UInt64) : UInt64 :=
  (x >>> n) ||| (x <<< (64 - n))

/-- The first state: the first bits of the fractions of the square roots of the first primes. -/
def initial64 : Array UInt64 :=
  #[0x6a09e667f3bcc908, 0xbb67ae8584caa73b, 0x3c6ef372fe94f82b, 0xa54ff53a5f1d36f1,
    0x510e527fade682d1, 0x9b05688c2b3e6c1f, 0x1f83d9abfb41bd6b, 0x5be0cd19137e2179]

/-- In which order each round takes the words of a block. -/
def schedules : List (List Nat) :=
  [[0, 1, 2, 3, 4, 5, 6, 7, 8, 9, 10, 11, 12, 13, 14, 15],
    [14, 10, 4, 8, 9, 15, 13, 6, 1, 12, 0, 2, 11, 7, 5, 3],
    [11, 8, 12, 0, 5, 2, 15, 13, 10, 14, 3, 6, 7, 1, 9, 4],
    [7, 9, 3, 1, 13, 12, 11, 14, 2, 6, 5, 10, 4, 0, 15, 8],
    [9, 0, 5, 7, 2, 4, 10, 15, 14, 1, 11, 12, 6, 8, 3, 13],
    [2, 12, 6, 10, 0, 11, 8, 3, 4, 13, 7, 5, 15, 14, 1, 9],
    [12, 5, 1, 15, 14, 13, 4, 10, 0, 7, 6, 3, 9, 2, 8, 11],
    [13, 11, 7, 14, 12, 1, 3, 9, 5, 0, 15, 4, 8, 6, 2, 10],
    [6, 15, 14, 9, 11, 3, 0, 8, 12, 2, 13, 7, 1, 4, 10, 5],
    [10, 2, 8, 4, 7, 6, 1, 5, 15, 11, 9, 14, 3, 12, 13, 0],
    [0, 1, 2, 3, 4, 5, 6, 7, 8, 9, 10, 11, 12, 13, 14, 15],
    [14, 10, 4, 8, 9, 15, 13, 6, 1, 12, 0, 2, 11, 7, 5, 3]]

/-- The places of four words that are mixed with each other. -/
abbrev Places := Nat × Nat × Nat × Nat

/-- Which words are mixed, in the order of a square: its columns, then its diagonals. -/
def squarePlaces : List Places :=
  [(0, 4, 8, 12), (1, 5, 9, 13), (2, 6, 10, 14), (3, 7, 11, 15),
    (0, 5, 10, 15), (1, 6, 11, 12), (2, 7, 8, 13), (3, 4, 9, 14)]

/-- Mixes four words with two words of a block. -/
def mix (v : Array UInt64) (p : Places) (x y : UInt64) : Array UInt64 :=
  let (i, j, k, l) := p
  let a := v.getD i 0
  let b := v.getD j 0
  let c := v.getD k 0
  let d := v.getD l 0
  let a := a + b + x
  let d := rotate64 (d ^^^ a) 32
  let c := c + d
  let b := rotate64 (b ^^^ c) 24
  let a := a + b + y
  let d := rotate64 (d ^^^ a) 16
  let c := c + d
  let b := rotate64 (b ^^^ c) 63
  (((v.setIfInBounds i a).setIfInBounds j b).setIfInBounds k c).setIfInBounds l d

/-- The words of a block two by two, in the order of a schedule. -/
def pairsOf (block : Array UInt64) : List Nat → List (UInt64 × UInt64)
  | i :: j :: rest => (block.getD i 0, block.getD j 0) :: pairsOf block rest
  | _ => []

/-- One round over a block. -/
def round64 (block : Array UInt64) (v : Array UInt64) (schedule : List Nat) : Array UInt64 :=
  (squarePlaces.zip (pairsOf block schedule)).foldl (fun v (p, x, y) => mix v p x y) v

/-- The state after a block, up to which so many bytes have come. -/
def compress64 (h block : Array UInt64) (count : Nat) (isLast : Bool) : Array UInt64 :=
  let v := h ++ initial64
  let v := v.modify 12 (· ^^^ UInt64.ofNat count)
  let v := v.modify 13 (· ^^^ UInt64.ofNat (count / 0x10000000000000000))
  let v := if isLast then v.modify 14 (·.complement) else v
  let v := schedules.foldl (round64 block) v
  (h.zipWith (· ^^^ ·) (v.extract 0 8)).zipWith (· ^^^ ·) (v.extract 8 16)

/-- The state after all blocks of 128 bytes, of which the last one is filled up. -/
def compressAll64 (h : Array UInt64) (before : Nat) (bytes : List UInt8) : Array UInt64 :=
  if _ : 128 < bytes.length then
    let block := (word64s (bytes.take 128)).toArray
    compressAll64 (compress64 h block (before + 128) false) (before + 128) (bytes.drop 128)
  else
    let filled := bytes ++ List.replicate (128 - bytes.length) 0
    compress64 h (word64s filled).toArray (before + bytes.length) true
termination_by bytes.length
decreasing_by simp only [List.length_drop]; omega

/-- The hash of bytes; it has from 1 to 64 bytes. -/
def blake2b (length : Nat) (bytes : List UInt8) : List UInt8 :=
  let h := initial64.modify 0 (· ^^^ 0x01010000 ^^^ UInt64.ofNat length)
  ((compressAll64 h 0 bytes).toList.flatMap word64Bytes).take length

end GraphBroker.Digest

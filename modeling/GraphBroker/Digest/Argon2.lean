import GraphBroker.Digest.Blake2b

/-!
# Argon2

A hash function for secrets that takes time and memory. The memory consists of
blocks in lanes. Each block is made of the one before it in its lane and of one
elsewhere, which either the contents of the memory or its layout alone tell.

## Main definitions

* `Argon2.Variant`, `Argon2.Cost`, `Argon2.Setting`: what the hash depends on beside the secret.
* `Argon2.hash`: the hash of a secret.
-/

namespace GraphBroker.Digest.Argon2

/-- What tells where a block takes its other block from. -/
inductive Variant where
  /-- The contents of the memory. -/
  | dependent
  /-- The layout of the memory. -/
  | independent
  /-- The layout in the first half of the first pass, and then the contents. -/
  | hybrid
deriving DecidableEq, Repr

/-- The number of a variant. -/
def Variant.number : Variant → Nat
  | dependent => 0
  | independent => 1
  | hybrid => 2

/-- What a hash costs. -/
structure Cost where
  /-- The memory in KiB. -/
  memory : Nat := 19456
  /-- How often the memory is filled. -/
  passes : Nat := 2
  /-- The number of lanes. -/
  lanes : Nat := 1
deriving DecidableEq, Repr

/-- What the hash depends on beside the secret. -/
structure Setting where
  /-- What tells where blocks are taken from. -/
  variant : Variant
  /-- The version; from version 19 on a block is added to what was there in the pass before. -/
  version : Nat
  /-- What it costs. -/
  cost : Cost
  /-- Bytes that make equal secrets have different hashes. -/
  salt : List UInt8
  /-- More bytes that the hash depends on. -/
  data : List UInt8
  /-- The number of bytes of the hash. -/
  length : Nat

/-- A block of 128 words. -/
abbrev Block := Array UInt64

/-! ### Hashes of any length -/

/-- The first halves of hashes, each of the one before; so many, and then the last hash as a
whole, with the length given. -/
def chain : Nat → Nat → List UInt8 → List UInt8
  | 0, length, bytes => blake2b length bytes
  | n + 1, length, bytes =>
    let h := blake2b 64 bytes
    h.take 32 ++ chain n (length - 32) h

/-- A hash of any length. -/
def longHash (length : Nat) (bytes : List UInt8) : List UInt8 :=
  chain ((length + 31) / 32 - 2) length (littleEndian 4 length ++ bytes)

/-! ### Blocks -/

/-- The sum of two words and twice the product of their lower halves. -/
def blend (x y : UInt64) : UInt64 :=
  x + y + 2 * (x &&& 0xFFFFFFFF) * (y &&& 0xFFFFFFFF)

/-- Mixes four words. -/
def mixed (v : Block) (i j k l : Nat) : Block :=
  let a := v.getD i 0
  let b := v.getD j 0
  let c := v.getD k 0
  let d := v.getD l 0
  let a := blend a b
  let d := rotate64 (d ^^^ a) 32
  let c := blend c d
  let b := rotate64 (b ^^^ c) 24
  let a := blend a b
  let d := rotate64 (d ^^^ a) 16
  let c := blend c d
  let b := rotate64 (b ^^^ c) 63
  (((v.setIfInBounds i a).setIfInBounds j b).setIfInBounds k c).setIfInBounds l d

/-- Mixes the sixteen words of a block at given places. -/
def permuted (place : Nat → Nat) (v : Block) : Block :=
  squarePlaces.foldl (fun v (i, j, k, l) => mixed v (place i) (place j) (place k) (place l)) v

/-- Two blocks as one. -/
def joined (x y : Block) : Block :=
  let sum := x.zipWith (· ^^^ ·) y
  let rows := (List.range 8).foldl (fun v i => permuted (fun k => 16 * i + k) v) sum
  let columns :=
    (List.range 8).foldl (fun v i => permuted (fun k => 2 * i + 16 * (k / 2) + k % 2) v) rows
  columns.zipWith (· ^^^ ·) sum

/-- The block of zeros. -/
def zeros : Block := Array.replicate 128 0

/-- A block with the given words at its start. -/
def blockOf (words : List Nat) : Block :=
  (words.map UInt64.ofNat ++ List.replicate (128 - words.length) 0).toArray

/-! ### The memory -/

section Memory

variable (s : Setting)

/-- The number of blocks in a quarter of a lane. -/
def quarter : Nat := s.cost.memory / (4 * s.cost.lanes)

/-- The number of blocks in a lane. -/
def laneLength : Nat := 4 * quarter s

/-- The bytes that stand for everything the hash depends on. -/
def start (secret : List UInt8) : List UInt8 :=
  let numbers := [s.cost.lanes, s.length, s.cost.memory, s.cost.passes, s.version,
    s.variant.number]
  let counted (bytes : List UInt8) : List UInt8 := littleEndian 4 bytes.length ++ bytes
  blake2b 64 (numbers.flatMap (littleEndian 4) ++ counted secret ++ counted s.salt ++
    counted [] ++ counted s.data)

/-- The memory with the first two blocks of each lane. -/
def firstMemory (seed : List UInt8) : Array Block :=
  ((List.range s.cost.lanes).flatMap fun lane =>
    (List.range (laneLength s)).map fun column =>
      if column < 2 then
        (word64s (longHash 1024 (seed ++ littleEndian 4 column ++ littleEndian 4 lane))).toArray
      else zeros).toArray

/-- Whether the layout tells where blocks are taken from, in a quarter of a pass. -/
def byLayout (pass slice : Nat) : Bool :=
  match s.variant with
  | .dependent => false
  | .independent => true
  | .hybrid => pass == 0 && slice < 2

/-- The words that tell where the blocks of a quarter of a lane are taken from. -/
def addresses (pass slice lane : Nat) : Array Block :=
  let blocks := s.cost.lanes * laneLength s
  ((List.range ((quarter s + 127) / 128)).map fun n =>
    joined zeros (joined zeros (blockOf
      [pass, lane, slice, blocks, s.cost.passes, s.variant.number, n + 1]))).toArray

/-- Where a block is taken from that a word tells. -/
def source (pass slice lane index : Nat) (word : UInt64) : Nat :=
  let atStart := pass == 0 && slice == 0
  let high := (word >>> 32).toNat
  let low := (word &&& 0xFFFFFFFF).toNat
  let origin := if atStart then lane else high % s.cost.lanes
  let full := if pass = 0 then slice * quarter s else laneLength s - quarter s
  let area :=
    if origin = lane then full + index - 1 else full - (if index = 0 then 1 else 0)
  let back := area * (low * low / 0x100000000) / 0x100000000
  let first := if pass = 0 ∨ slice = 3 then 0 else (slice + 1) * quarter s
  origin * laneLength s + (first + area - 1 - back) % laneLength s

/-- The memory after a quarter of a lane in a pass. -/
def fillQuarter (pass slice lane : Nat) (memory : Array Block) : Array Block :=
  let told := if byLayout s pass slice then addresses s pass slice lane else #[]
  let skipped := if pass = 0 ∧ slice = 0 then 2 else 0
  (List.range' skipped (quarter s - skipped)).foldl (fun memory index =>
    let column := slice * quarter s + index
    let place := lane * laneLength s + column
    let before := if column = 0 then place + laneLength s - 1 else place - 1
    let previous := memory.getD before zeros
    let word :=
      if byLayout s pass slice then (told.getD (index / 128) zeros).getD (index % 128) 0
      else previous.getD 0 0
    let block := joined previous (memory.getD (source s pass slice lane index word) zeros)
    if pass = 0 ∨ s.version = 16 then memory.setIfInBounds place block
    else memory.modify place (·.zipWith (· ^^^ ·) block)) memory

/-- The memory after all passes. -/
def filled (memory : Array Block) : Array Block :=
  (List.range s.cost.passes).foldl (fun memory pass =>
    (List.range 4).foldl (fun memory slice =>
      (List.range s.cost.lanes).foldl (fun memory lane =>
        fillQuarter s pass slice lane memory) memory) memory) memory

/-- The hash of a secret. -/
def hash (secret : List UInt8) : List UInt8 :=
  let memory := filled s (firstMemory s (start s secret))
  let last := (List.range s.cost.lanes).foldl (fun sum lane =>
    sum.zipWith (· ^^^ ·) (memory.getD ((lane + 1) * laneLength s - 1) zeros)) zeros
  longHash s.length (last.toList.flatMap word64Bytes)

end Memory

end GraphBroker.Digest.Argon2

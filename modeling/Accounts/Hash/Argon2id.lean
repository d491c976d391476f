import Accounts.Hash.Argon2Block
import Accounts.Hash.Blake2b

/-!
# Argon2id

Argon2id version 0x13 of RFC 9106: a key of chosen length from a password and a salt, at a cost in
memory, passes and lanes. `derive` takes the costs as they are; which costs are acceptable is
decided elsewhere.

The memory is one array of blocks, lane after lane. Every lane has four segments, and the segments
with one number are filled before any with the next, so a block may refer to finished segments of
other lanes.
-/

namespace Accounts.Argon2

/-- The costs of a derivation, and what else besides password and salt goes into it. -/
structure Parameters where
  /-- Memory in KiB. -/
  memory : Nat
  /-- Passes over the memory. -/
  passes : Nat
  /-- Number of lanes. -/
  lanes : Nat
  /-- Length of the key in bytes. -/
  keyLength : Nat
  /-- Associated data. -/
  data : List UInt8 := []

/-- A number as four bytes, least significant first. -/
def bytes32 (n : Nat) : List UInt8 :=
  [UInt8.ofNat n, UInt8.ofNat (n / 256), UInt8.ofNat (n / 65536), UInt8.ofNat (n / 16777216)]

/-- A byte string preceded by its length. -/
def counted (bytes : List UInt8) : List UInt8 := bytes32 bytes.length ++ bytes

/-! ## The hash of variable length -/

/-- The tail of a long digest: each link of the chain gives half of its 64 bytes, the last one all
that is still wanted. The first argument bounds the links. -/
def stretch : Nat → Nat → List UInt8 → List UInt8
  | 0, _, _ => []
  | links + 1, wanted, previous =>
    if wanted ≤ 64 then Blake2b.digest wanted previous
    else
      let link := Blake2b.digest 64 previous
      link.take 32 ++ stretch links (wanted - 32) link

/-- A digest of any length. -/
def longDigest (size : Nat) (input : List UInt8) : List UInt8 :=
  stretch (size / 32 + 1) size (bytes32 size ++ input)

/-! ## The shape of the memory -/

/-- Blocks in one quarter of a lane. -/
def Parameters.segmentLength (c : Parameters) : Nat := c.memory / (4 * c.lanes)

/-- Blocks in one lane. -/
def Parameters.laneLength (c : Parameters) : Nat := 4 * c.segmentLength

/-- Blocks in all. -/
def Parameters.blockCount (c : Parameters) : Nat := c.lanes * c.laneLength

/-- The digest of everything the key depends on. -/
def seed (c : Parameters) (password salt : List UInt8) : List UInt8 :=
  Blake2b.digest 64 (bytes32 c.lanes ++ bytes32 c.keyLength ++ bytes32 c.memory ++
    bytes32 c.passes ++ bytes32 0x13 ++ bytes32 2 ++ counted password ++ counted salt ++
    counted [] ++ counted c.data)

/-- A block that depends on the seed, its column and its lane only. -/
def startBlock (seed : List UInt8) (column lane : Nat) : Block :=
  .ofWords (Blake2b.wordsOfBytes
    (longDigest 1024 (seed ++ bytes32 column ++ bytes32 lane))).toArray

/-- The memory in which the first two blocks of every lane are set. -/
def startMemory (c : Parameters) (seed : List UInt8) : Array Block :=
  (List.range c.lanes).foldl
    (fun memory lane =>
      let base := lane * c.laneLength
      (memory.setIfInBounds base (startBlock seed 0 lane)).setIfInBounds (base + 1)
        (startBlock seed 1 lane))
    (Array.replicate c.blockCount Block.zero)

/-! ## Filling a segment -/

/-- The segment being filled. -/
structure Segment where
  pass : Nat
  slice : Nat
  lane : Nat

/-- Addresses do not depend on the password in the first half of the first pass. -/
def Segment.isIndependent (s : Segment) : Bool := s.pass == 0 && decide (s.slice < 2)

/-- The block of 128 addresses with number `counter`. -/
def addressBlock (c : Parameters) (s : Segment) (counter : Nat) : Block :=
  let input := Block.ofWords #[UInt64.ofNat s.pass, UInt64.ofNat s.lane, UInt64.ofNat s.slice,
    UInt64.ofNat c.blockCount, UInt64.ofNat c.passes, 2, UInt64.ofNat counter]
  Block.zero.mix (Block.zero.mix input)

/-- The random words for a segment whose addresses are independent of the password. -/
def addresses (c : Parameters) (s : Segment) : Array UInt64 :=
  ((List.range ((c.segmentLength + 127) / 128)).flatMap
    fun counter => (addressBlock c s (counter + 1)).words).toArray

/-- The lane and column a random word points at, for the block with number `index` in its
segment: the word chooses among the finished blocks, recent ones being more likely. -/
def referenceIndex (c : Parameters) (s : Segment) (index : Nat) (word : UInt64) : Nat :=
  let segment := c.segmentLength
  let length := c.laneLength
  let lane := if s.pass == 0 && s.slice == 0 then s.lane else (word >>> 32).toNat % c.lanes
  let finished := if s.pass == 0 then s.slice * segment else length - segment
  let area :=
    if lane == s.lane then finished + index - 1
    else if index == 0 then finished - 1
    else finished
  let low := word &&& 0xffffffff
  let square := (low * low) >>> 32
  let distance := ((UInt64.ofNat area * square) >>> 32).toNat
  let start := if s.pass != 0 && s.slice != 3 then (s.slice + 1) * segment else 0
  lane * length + (start + (area - 1 - distance)) % length

/-- Fills `count` blocks of a segment, from the block with number `index` on. From the second pass
on, a new block is added to the one it replaces. -/
def fillBlocks (c : Parameters) (s : Segment) (random : Array UInt64) :
    Nat → Nat → Array Block → Array Block
  | 0, _, memory => memory
  | count + 1, index, memory =>
    let base := s.lane * c.laneLength
    let column := s.slice * c.segmentLength + index
    let previous :=
      memory.getD (base + (if column == 0 then c.laneLength - 1 else column - 1)) .zero
    let word := if s.isIndependent then random.getD index 0 else previous.first
    let made := previous.mix (memory.getD (referenceIndex c s index word) .zero)
    let block := if s.pass == 0 then made else made.xor (memory.getD (base + column) .zero)
    fillBlocks c s random count (index + 1) (memory.setIfInBounds (base + column) block)

/-- Fills one segment. The first two blocks of a lane are given in the first pass. -/
def fillSegment (c : Parameters) (memory : Array Block) (s : Segment) : Array Block :=
  let given := if s.pass == 0 && s.slice == 0 then 2 else 0
  let random := if s.isIndependent then addresses c s else #[]
  fillBlocks c s random (c.segmentLength - given) given memory

/-- All segments in the order in which they are filled. -/
def segments (c : Parameters) : List Segment :=
  (List.range c.passes).flatMap fun pass =>
    (List.range 4).flatMap fun slice =>
      (List.range c.lanes).map fun lane => ⟨pass, slice, lane⟩

/-- The exclusive or of the last blocks of all lanes. -/
def lastBlocks (c : Parameters) (memory : Array Block) : Block :=
  (List.range c.lanes).foldl
    (fun sum lane => sum.xor (memory.getD ((lane + 1) * c.laneLength - 1) .zero)) .zero

/-- The key derived from a password and a salt. -/
def derive (c : Parameters) (password salt : List UInt8) : List UInt8 :=
  let memory := (segments c).foldl (fillSegment c) (startMemory c (seed c password salt))
  longDigest c.keyLength ((lastBlocks c memory).words.flatMap Blake2b.bytesOfWord)

end Accounts.Argon2

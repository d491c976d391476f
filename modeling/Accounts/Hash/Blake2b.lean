/-!
# BLAKE2b

The BLAKE2b hash of RFC 7693 without a key: a message of any length gives a digest of 1 to 64
bytes. The digest length is part of the initial state, so digests of two lengths are unrelated.
-/

namespace Accounts.Blake2b

/-- The initial chaining value before the parameter block is mixed in. -/
def initial : Array UInt64 := #[
  0x6a09e667f3bcc908, 0xbb67ae8584caa73b, 0x3c6ef372fe94f82b, 0xa54ff53a5f1d36f1,
  0x510e527fade682d1, 0x9b05688c2b3e6c1f, 0x1f83d9abfb41bd6b, 0x5be0cd19137e2179]

/-- The order in which each of the ten distinct rounds takes the message words. -/
def schedule : Array (Array Nat) := #[
  #[0, 1, 2, 3, 4, 5, 6, 7, 8, 9, 10, 11, 12, 13, 14, 15],
  #[14, 10, 4, 8, 9, 15, 13, 6, 1, 12, 0, 2, 11, 7, 5, 3],
  #[11, 8, 12, 0, 5, 2, 15, 13, 10, 14, 3, 6, 7, 1, 9, 4],
  #[7, 9, 3, 1, 13, 12, 11, 14, 2, 6, 5, 10, 4, 0, 15, 8],
  #[9, 0, 5, 7, 2, 4, 10, 15, 14, 1, 11, 12, 6, 8, 3, 13],
  #[2, 12, 6, 10, 0, 11, 8, 3, 4, 13, 7, 5, 15, 14, 1, 9],
  #[12, 5, 1, 15, 14, 13, 4, 10, 0, 7, 6, 3, 9, 2, 8, 11],
  #[13, 11, 7, 14, 12, 1, 3, 9, 5, 0, 15, 4, 8, 6, 2, 10],
  #[6, 15, 14, 9, 11, 3, 0, 8, 12, 2, 13, 7, 1, 4, 10, 5],
  #[10, 2, 8, 4, 7, 6, 1, 5, 15, 11, 9, 14, 3, 12, 13, 0]]

@[inline] def rotateRight (x n : UInt64) : UInt64 := (x >>> n) ||| (x <<< (64 - n))

/-- The mixing of two message words into four words of the working state. -/
def mix (v : Array UInt64) (a b c d : Nat) (x y : UInt64) : Array UInt64 :=
  let va := v.getD a 0 + v.getD b 0 + x
  let vd := rotateRight (v.getD d 0 ^^^ va) 32
  let vc := v.getD c 0 + vd
  let vb := rotateRight (v.getD b 0 ^^^ vc) 24
  let va := va + vb + y
  let vd := rotateRight (vd ^^^ va) 16
  let vc := vc + vd
  let vb := rotateRight (vb ^^^ vc) 63
  (((v.setIfInBounds a va).setIfInBounds b vb).setIfInBounds c vc).setIfInBounds d vd

/-- One round: four column mixings, then four diagonal ones. -/
def round (m : Array UInt64) (v : Array UInt64) (index : Nat) : Array UInt64 :=
  let order := schedule.getD (index % 10) #[]
  let word (i : Nat) : UInt64 := m.getD (order.getD i 0) 0
  let v := mix v 0 4 8 12 (word 0) (word 1)
  let v := mix v 1 5 9 13 (word 2) (word 3)
  let v := mix v 2 6 10 14 (word 4) (word 5)
  let v := mix v 3 7 11 15 (word 6) (word 7)
  let v := mix v 0 5 10 15 (word 8) (word 9)
  let v := mix v 1 6 11 12 (word 10) (word 11)
  let v := mix v 2 7 8 13 (word 12) (word 13)
  mix v 3 4 9 14 (word 14) (word 15)

/-- The little-endian words of a byte string, eight bytes each. -/
def wordsOfBytes : List UInt8 → List UInt64
  | b0 :: b1 :: b2 :: b3 :: b4 :: b5 :: b6 :: b7 :: rest =>
    (b0.toUInt64 ||| (b1.toUInt64 <<< 8) ||| (b2.toUInt64 <<< 16) ||| (b3.toUInt64 <<< 24) |||
      (b4.toUInt64 <<< 32) ||| (b5.toUInt64 <<< 40) ||| (b6.toUInt64 <<< 48) |||
      (b7.toUInt64 <<< 56)) :: wordsOfBytes rest
  | _ => []

/-- The eight bytes of a word, least significant first. -/
def bytesOfWord (w : UInt64) : List UInt8 :=
  [w.toUInt8, (w >>> 8).toUInt8, (w >>> 16).toUInt8, (w >>> 24).toUInt8,
    (w >>> 32).toUInt8, (w >>> 40).toUInt8, (w >>> 48).toUInt8, (w >>> 56).toUInt8]

/-- Folds one 128-byte block into the chaining value. `counted` is the number of message bytes
up to and including this block; `last` marks the final block. -/
def compress (h : Array UInt64) (block : List UInt8) (counted : Nat) (last : Bool) :
    Array UInt64 :=
  let m := (wordsOfBytes block).toArray
  let v := h ++ initial
  let v := v.modify 12 (· ^^^ UInt64.ofNat counted)
  let v := v.modify 13 (· ^^^ UInt64.ofNat (counted >>> 64))
  let v := if last then v.modify 14 (~~~ ·) else v
  let v := (List.range 12).foldl (round m) v
  h.mapIdx fun i x => x ^^^ v.getD i 0 ^^^ v.getD (i + 8) 0

/-- Folds the whole message. The last block is the one that leaves nothing behind; it may be
short, and then counts only its own bytes but is filled up with zeros. The first argument bounds
the number of blocks. -/
def absorb : Nat → Array UInt64 → Nat → List UInt8 → Array UInt64
  | 0, h, _, _ => h
  | blocks + 1, h, counted, message =>
    let rest := message.drop 128
    let block := message.take 128
    if rest.isEmpty then
      compress h (block ++ List.replicate (128 - block.length) 0) (counted + block.length) true
    else
      absorb blocks (compress h block (counted + 128) false) (counted + 128) rest

/-- The digest of `size` bytes (1 to 64). -/
def digest (size : Nat) (message : List UInt8) : List UInt8 :=
  let h := initial.modify 0 (· ^^^ 0x01010000 ^^^ UInt64.ofNat size)
  let h := absorb (message.length / 128 + 1) h 0 message
  (h.toList.flatMap bytesOfWord).take size

end Accounts.Blake2b

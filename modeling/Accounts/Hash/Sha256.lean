/-!
# SHA-256 and HMAC

The SHA-256 digest of FIPS 180-4 and the keyed digest of RFC 2104 built on it.
-/

namespace Accounts.Sha256

def constants : Array UInt32 := #[
  0x428a2f98, 0x71374491, 0xb5c0fbcf, 0xe9b5dba5, 0x3956c25b, 0x59f111f1, 0x923f82a4, 0xab1c5ed5,
  0xd807aa98, 0x12835b01, 0x243185be, 0x550c7dc3, 0x72be5d74, 0x80deb1fe, 0x9bdc06a7, 0xc19bf174,
  0xe49b69c1, 0xefbe4786, 0x0fc19dc6, 0x240ca1cc, 0x2de92c6f, 0x4a7484aa, 0x5cb0a9dc, 0x76f988da,
  0x983e5152, 0xa831c66d, 0xb00327c8, 0xbf597fc7, 0xc6e00bf3, 0xd5a79147, 0x06ca6351, 0x14292967,
  0x27b70a85, 0x2e1b2138, 0x4d2c6dfc, 0x53380d13, 0x650a7354, 0x766a0abb, 0x81c2c92e, 0x92722c85,
  0xa2bfe8a1, 0xa81a664b, 0xc24b8b70, 0xc76c51a3, 0xd192e819, 0xd6990624, 0xf40e3585, 0x106aa070,
  0x19a4c116, 0x1e376c08, 0x2748774c, 0x34b0bcb5, 0x391c0cb3, 0x4ed8aa4a, 0x5b9cca4f, 0x682e6ff3,
  0x748f82ee, 0x78a5636f, 0x84c87814, 0x8cc70208, 0x90befffa, 0xa4506ceb, 0xbef9a3f7, 0xc67178f2]

/-- The chaining value of eight words. -/
structure Chain where
  (a b c d e f g h : UInt32)

/-- The chaining value before the first block. -/
def initial : Chain :=
  ⟨0x6a09e667, 0xbb67ae85, 0x3c6ef372, 0xa54ff53a, 0x510e527f, 0x9b05688c, 0x1f83d9ab, 0x5be0cd19⟩

@[inline] def rotateRight (x n : UInt32) : UInt32 := (x >>> n) ||| (x <<< (32 - n))

/-- The eight bytes of a number, most significant first. -/
def lengthBytes (n : Nat) : List UInt8 :=
  (List.range 8).map fun i => UInt8.ofNat (n >>> (8 * (7 - i)))

/-- The message with the padding that makes it a whole number of 64-byte blocks. -/
def padded (message : List UInt8) : List UInt8 :=
  message ++ 0x80 :: List.replicate ((119 - message.length % 64) % 64) 0 ++
    lengthBytes (8 * message.length)

/-- The big-endian words of a byte string. -/
def wordsOfBytes : List UInt8 → List UInt32
  | w :: x :: y :: z :: rest =>
    ((w.toUInt32 <<< 24) ||| (x.toUInt32 <<< 16) ||| (y.toUInt32 <<< 8) ||| z.toUInt32) ::
      wordsOfBytes rest
  | _ => []

/-- The four bytes of a word, most significant first. -/
def bytesOfWord (w : UInt32) : List UInt8 :=
  [(w >>> 24).toUInt8, (w >>> 16).toUInt8, (w >>> 8).toUInt8, w.toUInt8]

/-- The 64 words of the message schedule of a block. -/
def schedule (block : List UInt8) : Array UInt32 :=
  (List.range 48).foldl
    (fun w i =>
      let x := w.getD (i + 1) 0
      let y := w.getD (i + 14) 0
      let s0 := rotateRight x 7 ^^^ rotateRight x 18 ^^^ (x >>> 3)
      let s1 := rotateRight y 17 ^^^ rotateRight y 19 ^^^ (y >>> 10)
      w.push (w.getD i 0 + s0 + w.getD (i + 9) 0 + s1))
    (wordsOfBytes block).toArray

def round (words : Array UInt32) (v : Chain) (i : Nat) : Chain :=
  let s1 := rotateRight v.e 6 ^^^ rotateRight v.e 11 ^^^ rotateRight v.e 25
  let choice := (v.e &&& v.f) ^^^ (~~~v.e &&& v.g)
  let t1 := v.h + s1 + choice + constants.getD i 0 + words.getD i 0
  let s0 := rotateRight v.a 2 ^^^ rotateRight v.a 13 ^^^ rotateRight v.a 22
  let majority := (v.a &&& v.b) ^^^ (v.a &&& v.c) ^^^ (v.b &&& v.c)
  ⟨t1 + s0 + majority, v.a, v.b, v.c, v.d + t1, v.e, v.f, v.g⟩

/-- Folds one block into the chaining value. -/
def compress (v : Chain) (block : List UInt8) : Chain :=
  let w := (List.range 64).foldl (round (schedule block)) v
  ⟨v.a + w.a, v.b + w.b, v.c + w.c, v.d + w.d, v.e + w.e, v.f + w.f, v.g + w.g, v.h + w.h⟩

/-- Folds the first `count` blocks of a message. -/
def absorb : Nat → Chain → List UInt8 → Chain
  | 0, v, _ => v
  | count + 1, v, message => absorb count (compress v (message.take 64)) (message.drop 64)

/-- The digest of a message, 32 bytes. -/
def digest (message : List UInt8) : List UInt8 :=
  let blocks := padded message
  let v := absorb (blocks.length / 64) initial blocks
  [v.a, v.b, v.c, v.d, v.e, v.f, v.g, v.h].flatMap bytesOfWord

/-- A key that fits a block: one that is longer is replaced by its digest. -/
def reduced (key : List UInt8) : List UInt8 := if 64 < key.length then digest key else key

/-- The key as one block, filled up with zeros. -/
def keyBlock (key : List UInt8) : List UInt8 :=
  reduced key ++ List.replicate (64 - (reduced key).length) 0

/-- The keyed digest of a message, 32 bytes. -/
def hmac (key message : List UInt8) : List UInt8 :=
  let block := keyBlock key
  digest (block.map (· ^^^ 0x5c) ++ digest (block.map (· ^^^ 0x36) ++ message))

end Accounts.Sha256

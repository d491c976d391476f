import Accounts.Hash.Argon2id
import Accounts.Hash.Sha256

/-!
# The lengths of digests and keys

A digest has as many bytes as were asked for, and so does a derived key.

* `Blake2b.length_digest` — digests of at most 64 bytes.
* `Argon2.length_derive` — keys of any length.
-/

namespace Accounts

namespace Blake2b

theorem size_compress (h : Array UInt64) (block : List UInt8) (counted : Nat) (last : Bool) :
    (compress h block counted last).size = h.size := by
  simp [compress]

theorem size_absorb (blocks : Nat) (h : Array UInt64) (counted : Nat) (message : List UInt8) :
    (absorb blocks h counted message).size = h.size := by
  induction blocks generalizing h counted message with
  | zero => rfl
  | succ blocks ih =>
    simp only [absorb]
    split
    · exact size_compress _ _ _ _
    · rw [ih, size_compress]

theorem length_flatMap_bytesOfWord (words : List UInt64) :
    (words.flatMap bytesOfWord).length = 8 * words.length := by
  induction words with
  | nil => rfl
  | cons w words ih =>
    rw [List.flatMap_cons, List.length_append, ih, List.length_cons]
    show 8 + 8 * words.length = _
    omega

theorem length_digest {size : Nat} (h : size ≤ 64) (message : List UInt8) :
    (digest size message).length = size := by
  have hstart : (initial.modify 0 (· ^^^ 0x01010000 ^^^ UInt64.ofNat size)).size = 8 := by
    rw [Array.size_modify]
    rfl
  rw [digest, List.length_take, length_flatMap_bytesOfWord, Array.length_toList, size_absorb,
    hstart]
  omega

end Blake2b

namespace Sha256

theorem length_digest (message : List UInt8) : (digest message).length = 32 := rfl

theorem length_reduced_le (key : List UInt8) : (reduced key).length ≤ 64 := by
  unfold reduced
  split
  · rw [length_digest]
    decide
  · omega

end Sha256

namespace Argon2

theorem length_stretch {links wanted : Nat} (h : wanted < 32 * links) (previous : List UInt8) :
    (stretch links wanted previous).length = wanted := by
  induction links generalizing wanted previous with
  | zero => omega
  | succ links ih =>
    unfold stretch
    split
    · next hwanted => exact Blake2b.length_digest hwanted previous
    · rw [List.length_append, List.length_take, Blake2b.length_digest (by decide), ih (by omega)]
      omega

theorem length_longDigest (size : Nat) (input : List UInt8) :
    (longDigest size input).length = size :=
  length_stretch (by omega) _

/-- A derived key has the length that was asked for. -/
theorem length_derive (c : Parameters) (password salt : List UInt8) :
    (derive c password salt).length = c.keyLength :=
  length_longDigest c.keyLength _

end Argon2

end Accounts

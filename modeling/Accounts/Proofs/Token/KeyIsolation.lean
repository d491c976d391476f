import Accounts.Proofs.Hash.Length
import Accounts.Proofs.Token.Issue
import Mathlib.Data.List.Basic

/-!
# How far keys are apart

The secrets of access and refresh tokens differ, but that does not make their signatures differ. A
key is filled up with zeros to a whole block, after it was replaced by its digest if it is longer,
and two secrets with the same block sign alike.

* `keyBlock_eq_iff` — which keys have the same block.
* `key_isolation_iff` — when a token is told to be of the other key.
* `not_key_isolation` — two secrets that differ, and sign alike.
-/

namespace Accounts

namespace Sha256

variable {key key' : List UInt8}

/-- A shorter key with zeros behind it. -/
theorem keyBlock_of_append {n : Nat} (h : reduced key' = reduced key ++ List.replicate n 0) :
    keyBlock key = keyBlock key' := by
  have hlength : (reduced key').length = (reduced key).length + n := by
    rw [h, List.length_append, List.length_replicate]
  have hle := length_reduced_le key'
  have hsplit : 64 - (reduced key).length = n + (64 - (reduced key').length) := by omega
  rw [keyBlock, keyBlock, hsplit, h, List.append_assoc, List.replicate_append_replicate,
    ← h]

/-- **Keys with the same block** are equal up to zeros at the end, once they fit a block. -/
theorem keyBlock_eq_iff :
    keyBlock key = keyBlock key' ↔ ∃ n, reduced key' = reduced key ++ List.replicate n 0 ∨
      reduced key = reduced key' ++ List.replicate n 0 := by
  constructor
  · intro h
    have hzeros : ∀ {zeros : List UInt8} {m n : Nat},
        List.replicate m 0 = zeros ++ List.replicate n 0 →
          zeros = List.replicate zeros.length 0 := by
      intro zeros m n hzeros
      exact (List.append_eq_replicate_iff.1 hzeros.symm).2.1
    rcases List.append_eq_append_iff.1 h with ⟨zeros, hkey, hrest⟩ | ⟨zeros, hkey, hrest⟩
    · exact ⟨zeros.length, .inl (hzeros hrest ▸ hkey)⟩
    · exact ⟨zeros.length, .inr (hzeros hrest ▸ hkey)⟩
  · rintro ⟨n, h | h⟩
    · exact keyBlock_of_append h
    · exact (keyBlock_of_append h).symm

/-- The block is all that a digest depends on. -/
theorem hmac_congr (h : keyBlock key = keyBlock key') (message : List UInt8) :
    hmac key message = hmac key' message := by
  rw [hmac, hmac, h]

end Sha256

namespace Token

variable {access refresh cursor : List UInt8} {ring : KeyRing} {c : Claims} {now : Nat}

theorem segment_injective {bytes bytes' : List UInt8} (h : segment bytes = segment bytes') :
    bytes = bytes' := by
  have hbytes := segmentBytes_segment bytes
  rw [h, segmentBytes_segment] at hbytes
  exact (Except.ok.inj hbytes).symm

/-- The bytes that are signed. -/
def signedBytes (c : Claims) : List UInt8 := Utf8.encode (String.ofList (message c))

theorem signature_eq_iff {key key' : Key} :
    signature key (message c) = signature key' (message c) ↔
      Sha256.hmac key.secret (signedBytes c) = Sha256.hmac key'.secret (signedBytes c) :=
  ⟨segment_injective, congrArg segment⟩

/-- The fate of a valid token under another key. -/
theorem parse_sign_valid {key key' : Key} (hzero : 0 ≤ c.notBefore.toInt)
    (hstart : c.notBefore.toInt ≤ now) (hend : now ≤ c.expiresAt.toInt) :
    parse key' now (sign c key) =
      if Sha256.hmac key.secret (signedBytes c) = Sha256.hmac key'.secret (signedBytes c) then .ok c
      else .error .badSignature := by
  rw [parse_sign, check_ofClaims.2 ⟨hzero, hstart, hend⟩]
  simp only [signature_eq_iff]
  rfl

theorem parse_sign_eq_badSignature {key key' : Key} (hzero : 0 ≤ c.notBefore.toInt)
    (hstart : c.notBefore.toInt ≤ now) (hend : now ≤ c.expiresAt.toInt) :
    parse key' now (sign c key) = .error .badSignature ↔
      Sha256.hmac key.secret (signedBytes c) ≠ Sha256.hmac key'.secret (signedBytes c) := by
  rw [parse_sign_valid hzero hstart hend]
  by_cases halike : Sha256.hmac key.secret (signedBytes c) =
      Sha256.hmac key'.secret (signedBytes c)
  · rw [if_pos halike]
    exact ⟨nofun, fun hnot => absurd halike hnot⟩
  · rw [if_neg halike]
    exact ⟨fun _ => halike, fun _ => rfl⟩

/-- **When a token is told to be of the other key**: exactly if the digests of its message under
both secrets differ; otherwise it is accepted, by the refresh key as well as by the access key. The
digests of all messages agree if both secrets have the same block. -/
theorem key_isolation_iff (hring : KeyRing.ofSecrets access refresh cursor = .ok ring)
    (hzero : 0 ≤ c.notBefore.toInt) (hstart : c.notBefore.toInt ≤ now)
    (hend : now ≤ c.expiresAt.toInt) :
    let alike := Sha256.hmac access (signedBytes c) = Sha256.hmac refresh (signedBytes c)
    (parse (ring.key .refresh) now (sign c (ring.key .access)) = .error .badSignature ↔ ¬ alike) ∧
    (parse (ring.key .access) now (sign c (ring.key .refresh)) = .error .badSignature ↔ ¬ alike) ∧
    (alike → parse (ring.key .refresh) now (sign c (ring.key .access)) = .ok c ∧
      parse (ring.key .access) now (sign c (ring.key .refresh)) = .ok c) ∧
    (Sha256.keyBlock access = Sha256.keyBlock refresh → alike) ∧
    (Sha256.keyBlock access = Sha256.keyBlock refresh ↔
      ∃ n, Sha256.reduced refresh = Sha256.reduced access ++ List.replicate n 0 ∨
        Sha256.reduced access = Sha256.reduced refresh ++ List.replicate n 0) := by
  intro alike
  have haccess : (ring.key .access).secret = access := KeyRing.secret_key hring .access
  have hrefresh : (ring.key .refresh).secret = refresh := KeyRing.secret_key hring .refresh
  refine ⟨?_, ?_, ?_, ?_, Sha256.keyBlock_eq_iff⟩
  · rw [parse_sign_eq_badSignature hzero hstart hend, haccess, hrefresh]
  · rw [parse_sign_eq_badSignature hzero hstart hend, haccess, hrefresh]
    exact not_congr eq_comm
  · intro halike
    rw [parse_sign_valid hzero hstart hend, parse_sign_valid hzero hstart hend, haccess, hrefresh]
    exact ⟨if_pos halike, if_pos halike.symm⟩
  · intro hblock
    exact Sha256.hmac_congr hblock _

/-- Two secrets that differ by a zero, and a token that is accepted by both keys. -/
theorem key_isolation_iff_zero :
    ∃ ring c, KeyRing.ofSecrets [107] [107, 0] [99] = .ok ring ∧
      parse (ring.key .refresh) 5 (sign c (ring.key .access)) = .ok c ∧
      parse (ring.key .access) 5 (sign c (ring.key .refresh)) = .ok c := by
  let ring : KeyRing := ⟨⟨[107], by decide⟩, ⟨[107, 0], by decide⟩, ⟨[99], by decide⟩, by decide⟩
  let c : Claims := ⟨"1", "issuer", "", 0, 0, 9, .access, .empty⟩
  have hring : KeyRing.ofSecrets [107] [107, 0] [99] = .ok ring := rfl
  have hstart : c.notBefore.toInt ≤ (5 : Nat) := by decide
  have hfate := key_isolation_iff hring (by decide) hstart (by decide)
  have hblock : Sha256.keyBlock [107] = Sha256.keyBlock [107, 0] := rfl
  exact ⟨ring, c, hring, hfate.2.2.1 (hfate.2.2.2.1 hblock)⟩

/-- **Secrets that differ do not keep tokens apart.** -/
theorem not_key_isolation :
    ¬ ∀ (access refresh cursor : List UInt8) (ring : KeyRing) (c : Claims) (now : Nat),
      KeyRing.ofSecrets access refresh cursor = .ok ring → 0 ≤ c.notBefore.toInt →
      c.notBefore.toInt ≤ now → now ≤ c.expiresAt.toInt →
      parse (ring.key .refresh) now (sign c (ring.key .access)) = .error .badSignature ∧
        parse (ring.key .access) now (sign c (ring.key .refresh)) = .error .badSignature := by
  intro h
  let ring : KeyRing := ⟨⟨[107], by decide⟩, ⟨[107, 0], by decide⟩, ⟨[99], by decide⟩, by decide⟩
  let c : Claims := ⟨"1", "issuer", "", 0, 0, 9, .access, .empty⟩
  have hblock : Sha256.keyBlock [107] = Sha256.keyBlock [107, 0] := rfl
  have hring : KeyRing.ofSecrets [107] [107, 0] [99] = .ok ring := rfl
  have hbad := (h _ _ _ ring c 5 hring (by decide) (by decide) (by decide)).1
  have hgood : parse (ring.key .refresh) 5 (sign c (ring.key .access)) = .ok c := by
    rw [parse_sign_valid (by decide) (by decide) (by decide)]
    exact if_pos (Sha256.hmac_congr hblock _)
  rw [hgood] at hbad
  cases hbad

end Token

end Accounts

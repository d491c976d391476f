import Accounts.Proofs.Hash.Length
import Accounts.Proofs.Token.Verification

/-!
# Signed tokens

A token says in text what it was made from, and nothing is lost on the way: whatever characters the
claims hold, the key that signed a token reads the same claims from it while they are valid.

* `isSegment_segment` — what a segment looks like.
* `split_sign` — a token has three segments.
* `sign_round_trip` — a token is read back, has three segments, and stands for one set of claims.
-/

namespace Accounts.Token

/-! ## Segments -/

/-- A text in URL-safe Base64 without padding that stands for some bytes. -/
structure IsSegment (text : List Char) : Prop where
  ne_nil : text ≠ []
  urlSafe : ∀ x ∈ text, x.isAlphanum = true ∨ x = '-' ∨ x = '_'
  readable : ∃ bytes, segmentBytes text = .ok bytes

theorem urlSafe_symbol : ∀ v < 64,
    let x := Char.ofNat (Base64.urlSafe.symbol v).toNat
    x.isAlphanum = true ∨ x = '-' ∨ x = '_' := by decide

theorem segment_ne_nil {bytes : List UInt8} (h : bytes ≠ []) : segment bytes ≠ [] := by
  intro hnil
  have hread := segmentBytes_segment bytes
  rw [hnil] at hread
  exact h (Except.ok.inj hread).symm

theorem isSegment_segment {bytes : List UInt8} (h : bytes ≠ []) : IsSegment (segment bytes) where
  ne_nil := segment_ne_nil h
  urlSafe := by
    intro x hx
    obtain ⟨b, hb, rfl⟩ := List.mem_map.1 hx
    obtain ⟨v, hv, rfl⟩ := Base64.exists_symbol_of_mem_encode hb
    exact urlSafe_symbol v hv
  readable := ⟨bytes, segmentBytes_segment bytes⟩

/-! ## The three segments of a token -/

theorem Claims.encode_ne_nil (c : Claims) : c.encode ≠ [] := by
  intro hnil
  have hread := c.decode_encode
  rw [hnil] at hread
  cases hread

theorem isSegment_signature (key : Key) (text : List Char) : IsSegment (signature key text) := by
  apply isSegment_segment
  intro hnil
  have hlength : (Sha256.hmac key.secret (Utf8.encode (String.ofList text))).length = 32 :=
    Sha256.length_digest _
  rw [hnil] at hlength
  cases hlength

/-- A token is cut into the segments that it was made from. -/
theorem split_sign (c : Claims) (key : Key) :
    Text.split '.' (sign c key).toList =
      [segment Header.written, segment c.encode, signature key (message c)] := by
  rw [sign, String.toList_ofList, message, List.append_assoc, List.cons_append,
    Text.split_append (not_mem_segment _), Text.split_append (not_mem_segment _), signature,
    Text.split_of_not_mem (not_mem_segment _)]

/-- **Tokens back and forth.** Valid claims are read back from a token as they were, by the key that
signed it; the token has three segments; and it stands for no other claims. -/
theorem sign_round_trip (key : Key) :
    (∀ (c : Claims) (now : Nat), 0 ≤ c.notBefore.toInt → c.notBefore.toInt ≤ now →
      now ≤ c.expiresAt.toInt → parse key now (sign c key) = .ok c) ∧
    (∀ c, ∃ header payload signed, Text.split '.' (sign c key).toList = [header, payload, signed] ∧
      IsSegment header ∧ IsSegment payload ∧ IsSegment signed) ∧
    Function.Injective fun c => sign c key := by
  refine ⟨?_, ?_, ?_⟩
  · intro c now hzero hstart hend
    exact parse_sign_self hzero hstart hend key
  · intro c
    exact ⟨_, _, _, split_sign c key, isSegment_segment (by decide),
      isSegment_segment c.encode_ne_nil, isSegment_signature key _⟩
  · intro c c' h
    exact eq_of_sign_eq h

/-- Claims with characters that JSON escapes, with others beyond ASCII and with the least time that
there is, in a token that is read back. -/
theorem sign_round_trip_escaped :
    ∃ key c, c.issuer = "\"\\\n\u001f\u00e9" ∧ c.metadata.get? "\t" = some "" ∧
      c.issuedAt = Int64.minValue ∧ parse key 5 (sign c key) = .ok c := by
  let key : Key := ⟨[107], by decide⟩
  let c : Claims := ⟨"", "\"\\\n\u001f\u00e9", "\r", Int64.minValue, 0, 9, .cursor,
    Metadata.empty.insert "\t" ""⟩
  have hstart : c.notBefore.toInt ≤ (5 : Nat) := by decide
  have hparse := (sign_round_trip key).1 c 5 (by decide) hstart (by decide)
  exact ⟨key, c, rfl, rfl, rfl, hparse⟩

end Accounts.Token

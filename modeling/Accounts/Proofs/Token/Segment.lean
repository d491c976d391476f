import Accounts.Proofs.Text.Base64
import Accounts.Proofs.Text.Split
import Accounts.Proofs.Text.Utf8
import Accounts.Token.Codec

/-!
# The segments of a token

A segment is the Base64 text of some bytes. It is read back to these bytes and has no dots, so that
the dots of a token tell its segments apart.

* `segmentBytes_segment` — reading a segment that was written.
* `not_mem_of_segmentBytes` — a segment that can be read has no dots.
* `segments_eq_ok` — how a token is cut.
-/

namespace Accounts.Token

variable {token text header payload signed : List Char}

theorem symbol_lt : ∀ v < 64, Base64.urlSafe.symbol v < 128 := by decide

theorem symbol_ne_dot : ∀ v < 64, Char.ofNat (Base64.urlSafe.symbol v).toNat ≠ '.' := by decide

theorem encode_segment (bytes : List UInt8) :
    Utf8.encode (String.ofList (segment bytes)) = Base64.encode Base64.urlSafe bytes := by
  refine Utf8.encode_ascii ?_
  intro b hb
  obtain ⟨v, hv, rfl⟩ := Base64.exists_symbol_of_mem_encode hb
  exact symbol_lt v hv

/-- **Reading a segment that was written.** -/
@[simp] theorem segmentBytes_segment (bytes : List UInt8) :
    segmentBytes (segment bytes) = .ok bytes := by
  rw [segmentBytes, encode_segment, Base64.decode_encode Base64.lawful_urlSafe]

theorem not_mem_segment (bytes : List UInt8) : '.' ∉ segment bytes := by
  intro hdot
  obtain ⟨b, hb, hc⟩ := List.mem_map.1 hdot
  obtain ⟨v, hv, rfl⟩ := Base64.exists_symbol_of_mem_encode hb
  exact symbol_ne_dot v hv hc

theorem not_mem_of_segmentBytes {bytes : List UInt8} (h : segmentBytes text = .ok bytes) :
    '.' ∉ text := by
  intro hdot
  have hbyte : '.'.toUInt8 ∈ Utf8.encode (String.ofList text) := Utf8.mem_encode hdot (by decide)
  unfold segmentBytes at h
  split at h
  · next hdecode =>
    have hsymbol := Base64.isSymbol_of_decode hdecode _ hbyte
    revert hsymbol
    decide
  · cases h

theorem segments_eq_ok :
    segments token = .ok (header, payload, signed) ↔
      token = (header ++ '.' :: payload) ++ '.' :: signed ∧ '.' ∉ payload ∧ '.' ∉ signed := by
  unfold segments
  constructor
  · intro h
    split at h
    · cases h
    · next message signature hmessage =>
      split at h
      · cases h
      · next hheader =>
        cases h
        obtain ⟨rfl, hsigned⟩ := Text.splitLast_eq_some.1 hmessage
        obtain ⟨rfl, hpayload⟩ := Text.splitLast_eq_some.1 hheader
        exact ⟨rfl, hpayload, hsigned⟩
  · rintro ⟨rfl, hpayload, hsigned⟩
    simp only [Text.splitLast_eq_some.2 ⟨rfl, hsigned⟩, Text.splitLast_eq_some.2 ⟨rfl, hpayload⟩]

end Accounts.Token

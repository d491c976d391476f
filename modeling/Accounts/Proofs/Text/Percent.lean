import Accounts.Proofs.Text.Utf8
import Accounts.Text.Percent

/-!
# What percent encoding keeps

Bytes that are percent-encoded are decoded to themselves, whichever bytes stand for themselves, as
long as those are ASCII and `%` is not one of them.

* `decode_encode` — the round trip.
* `mem_encode` — the characters that an encoded text is made of.
-/

namespace Accounts.Percent

/-- Which bytes may stand for themselves if decoding has to undo encoding. -/
structure Keepable (keeps : UInt8 → Bool) : Prop where
  ascii : ∀ b, keeps b = true → b < 128
  percent : keeps 37 = false

variable {keeps : UInt8 → Bool} {b : UInt8} {c : Char}

/-! ## Single bytes -/

theorem utf8EncodeChar_hexDigit : ∀ n < 16, ∃ digit, hexValue? digit = some (UInt8.ofNat n) ∧
    String.utf8EncodeChar (hexDigit n) = [digit] := by
  have hdigits : ∀ n < 16,
      hexValue? (UInt8.ofNat (hexDigit n).toNat) = some (UInt8.ofNat n) ∧
      String.utf8EncodeChar (hexDigit n) = [UInt8.ofNat (hexDigit n).toNat] := by decide
  exact fun n hn => ⟨_, hdigits n hn⟩

/-- A byte is put together again from its digits. -/
theorem ofNat_div_mod (b : UInt8) :
    UInt8.ofNat (b.toNat / 16) * 16 + UInt8.ofNat (b.toNat % 16) = b := by
  have hb := b.toNat_lt
  refine UInt8.toNat_inj.1 ?_
  simp only [UInt8.toNat_add, UInt8.toNat_mul, UInt8.toNat_ofNat']
  simp
  omega

theorem decode_cons_of_ne (h : b ≠ 37) (rest : List UInt8) :
    decode (b :: rest) = b :: decode rest := by
  rw [decode.eq_def]
  exact if_neg h

theorem decode_hex {high low h l : UInt8} (hhigh : hexValue? h = some high)
    (hlow : hexValue? l = some low) (rest : List UInt8) :
    decode (37 :: h :: l :: rest) = (high * 16 + low) :: decode rest := by
  rw [decode]
  simp only [hhigh, hlow, if_true]

/-- A byte that is not kept is read back, whatever follows. -/
theorem decode_encodeByte (b : UInt8) (rest : List UInt8) :
    decode ((encodeByte b).flatMap String.utf8EncodeChar ++ rest) = b :: decode rest := by
  have hb := b.toNat_lt
  obtain ⟨h, hhigh, hdigit⟩ := utf8EncodeChar_hexDigit (b.toNat / 16) (by omega)
  obtain ⟨l, hlow, hdigit'⟩ := utf8EncodeChar_hexDigit (b.toNat % 16) (by omega)
  have hpercent : String.utf8EncodeChar '%' = [37] := by decide
  simp only [encodeByte, List.flatMap_cons, List.flatMap_nil, hpercent, hdigit, hdigit',
    List.cons_append, List.nil_append, List.append_nil]
  rw [decode_hex hhigh hlow, ofNat_div_mod]

/-! ## Texts -/

/-- **Encoded bytes are decoded to themselves.** -/
theorem decode_encode (hkeeps : Keepable keeps) (bytes : List UInt8) :
    decode (Utf8.encode (String.ofList (encode keeps bytes))) = bytes := by
  rw [Utf8.encode_ofList]
  induction bytes with
  | nil => rfl
  | cons b bytes ih =>
    rw [encode, List.flatMap_cons, List.flatMap_append]
    by_cases hb : keeps b = true
    · have hne : b ≠ 37 := by
        rintro rfl
        simp [hkeeps.percent] at hb
      rw [if_pos hb, List.flatMap_singleton, Utf8.utf8EncodeChar_ascii (hkeeps.ascii b hb),
        List.singleton_append, decode_cons_of_ne hne]
      exact congrArg _ ih
    · rw [if_neg hb, decode_encodeByte]
      exact congrArg _ ih

/-- What an encoded text is made of: kept bytes, signs of encoding and digits. -/
theorem mem_encode {bytes : List UInt8} (h : c ∈ encode keeps bytes) :
    (∃ b ∈ bytes, keeps b = true ∧ c = Char.ofNat b.toNat) ∨ c = '%' ∨
      ∃ n < 16, c = hexDigit n := by
  obtain ⟨b, hb, hc⟩ := List.mem_flatMap.1 h
  split at hc
  · next hkept => exact .inl ⟨b, hb, hkept, List.mem_singleton.1 hc⟩
  · have hlt := b.toNat_lt
    simp only [encodeByte, List.mem_cons, List.not_mem_nil, or_false] at hc
    rcases hc with rfl | rfl | rfl
    · exact .inr (.inl rfl)
    · exact .inr (.inr ⟨_, by omega, rfl⟩)
    · exact .inr (.inr ⟨_, Nat.mod_lt _ (by decide), rfl⟩)

end Accounts.Percent

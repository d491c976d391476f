import Accounts.Text.Utf8

/-!
# Texts and their bytes

Bytes that are UTF-8 are the bytes of exactly one text, and bytes below 128 are those of the
characters with the same number.
-/

namespace Accounts.Utf8

theorem decode?_eq_some {bytes : List UInt8} {text : String} :
    decode? bytes = some text ↔ bytes = encode text := by
  unfold decode? encode String.fromUTF8?
  constructor
  · intro h
    split at h
    · cases h
      rfl
    · cases h
  · rintro rfl
    exact dif_pos text.isValidUTF8

@[simp] theorem decode?_encode (text : String) : decode? (encode text) = some text :=
  decode?_eq_some.2 rfl

theorem encode_inj {s t : String} : encode s = encode t ↔ s = t := by
  refine ⟨fun h => ?_, congrArg encode⟩
  have hread := decode?_eq_some.2 h
  rw [decode?_encode] at hread
  exact Option.some.inj hread

/-! ## Characters -/

/-- What holds of the first bytes by number holds of all. -/
theorem forall_byte {P : UInt8 → Prop} (h : ∀ n < 256, P (UInt8.ofNat n)) (b : UInt8) : P b := by
  have := h b.toNat b.toNat_lt
  rwa [UInt8.ofNat_toNat] at this

theorem encode_ofList (cs : List Char) :
    encode (String.ofList cs) = cs.flatMap String.utf8EncodeChar := by
  simp [encode, String.toUTF8, List.utf8Encode]

theorem utf8EncodeChar_ascii {b : UInt8} (h : b < 128) :
    String.utf8EncodeChar (Char.ofNat b.toNat) = [b] := by
  have hsmall : ∀ n < 128, String.utf8EncodeChar (Char.ofNat n) = [UInt8.ofNat n] := by decide
  rw [hsmall _ (UInt8.lt_iff_toNat_lt.1 h), UInt8.ofNat_toNat]

theorem encode_ascii {bytes : List UInt8} (h : ∀ b ∈ bytes, b < 128) :
    encode (String.ofList (bytes.map fun b => Char.ofNat b.toNat)) = bytes := by
  rw [encode_ofList]
  induction bytes with
  | nil => rfl
  | cons b bytes ih =>
    rw [List.map_cons, List.flatMap_cons, utf8EncodeChar_ascii (h b List.mem_cons_self),
      ih fun c hc => h c (List.mem_cons_of_mem _ hc)]
    rfl

theorem mem_encode {c : Char} {b : UInt8} {cs : List Char} (hc : c ∈ cs)
    (hb : b ∈ String.utf8EncodeChar c) : b ∈ encode (String.ofList cs) := by
  rw [encode_ofList]
  exact List.mem_flatMap.2 ⟨c, hc, hb⟩

end Accounts.Utf8

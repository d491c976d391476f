import Accounts.Proofs.Except
import Accounts.Text.Base64

/-!
# Base64 back and forth

Every byte string is read back from its written form, and what is read consists of symbols only.

* `decode_encode` — reading what was written.
* `isSymbol_of_decode` — a text that stands for bytes has no other characters than symbols.
* `decode_eq_ok` — in an alphabet without synonyms, bytes are read from their written form only.
-/

namespace Accounts.Base64

variable {a : Alphabet}

/-! ## Alphabets -/

/-- An alphabet in which every symbol has its value, and none is the padding sign. -/
structure Alphabet.Lawful (a : Alphabet) : Prop where
  value?_symbol : ∀ v < 64, a.value? (a.symbol v) = some v
  symbol_ne_padding : ∀ v < 64, a.symbol v ≠ padding

theorem lawful_standard : standard.Lawful := ⟨by decide, by decide⟩

theorem lawful_urlSafe : urlSafe.Lawful := ⟨by decide, by decide⟩

theorem Alphabet.Lawful.valueAt_symbol (h : a.Lawful) {v : Nat} (hv : v < 64) (offset : Nat) :
    a.valueAt offset (a.symbol v) = .ok v := by
  rw [valueAt, h.value?_symbol v hv]

/-! ## Reading what was written -/

theorem bytesOfQuartet_eq (x y z : UInt8) :
    bytesOfQuartet (x.toNat / 4) (x.toNat % 4 * 16 + y.toNat / 16)
      (y.toNat % 16 * 4 + z.toNat / 64) (z.toNat % 64) = [x, y, z] := by
  have hx := x.toNat_lt
  have hy := y.toNat_lt
  have hz := z.toNat_lt
  have h₁ : x.toNat / 4 * 4 + (x.toNat % 4 * 16 + y.toNat / 16) / 16 = x.toNat := by omega
  have h₂ : (x.toNat % 4 * 16 + y.toNat / 16) % 16 * 16 + (y.toNat % 16 * 4 + z.toNat / 64) / 4 =
      y.toNat := by omega
  have h₃ : (y.toNat % 16 * 4 + z.toNat / 64) % 4 * 64 + z.toNat % 64 = z.toNat := by omega
  simp only [bytesOfQuartet, h₁, h₂, h₃, UInt8.ofNat_toNat]

theorem decodeFrom_quartet (h : a.Lawful) {p q r s : Nat} (hp : p < 64) (hq : q < 64)
    (hr : r < 64) (hs : s < 64) (offset : Nat) {tail bytes : List UInt8}
    (htail : decodeFrom a (offset + 4) tail = .ok bytes) :
    decodeFrom a offset (a.symbol p :: a.symbol q :: a.symbol r :: a.symbol s :: tail) =
      .ok (bytesOfQuartet p q r s ++ bytes) := by
  cases tail with
  | nil =>
    simp only [decodeFrom, decodeLast] at htail
    cases htail
    simp only [decodeFrom, decodeLast, h.valueAt_symbol hp, h.valueAt_symbol hq,
      h.valueAt_symbol hr, h.valueAt_symbol hs, h.symbol_ne_padding r hr,
      h.symbol_ne_padding s hs, if_false, List.append_nil]
    rfl
  | cons next rest =>
    simp only [decodeFrom, h.valueAt_symbol hp, h.valueAt_symbol hq, h.valueAt_symbol hr,
      h.valueAt_symbol hs, htail]
    rfl

theorem decodeFrom_encode (h : a.Lawful) (offset : Nat) (bytes : List UInt8) :
    decodeFrom a offset (encode a bytes) = .ok bytes := by
  fun_induction encode a bytes generalizing offset with
  | case1 x y z rest ih =>
    have hx := x.toNat_lt
    have hy := y.toNat_lt
    have hz := z.toNat_lt
    rw [decodeFrom_quartet h (by omega) (by omega) (by omega) (by omega) offset (ih (offset + 4)),
      bytesOfQuartet_eq]
    rfl
  | case2 x y =>
    have hx := x.toNat_lt
    have hy := y.toNat_lt
    have h₁ : x.toNat / 4 * 4 + (x.toNat % 4 * 16 + y.toNat / 16) / 16 = x.toNat := by omega
    have h₂ : (x.toNat % 4 * 16 + y.toNat / 16) % 16 * 16 + y.toNat % 16 * 4 / 4 = y.toNat := by
      omega
    have h₃ : y.toNat % 16 * 4 % 4 = 0 := by omega
    have hr : y.toNat % 16 * 4 < 64 := by omega
    simp only [decodeFrom, decodeLast, h.valueAt_symbol (show x.toNat / 4 < 64 by omega),
      h.valueAt_symbol (show x.toNat % 4 * 16 + y.toNat / 16 < 64 by omega), h.valueAt_symbol hr,
      h.symbol_ne_padding _ hr, if_false, Except.ok_bind, h₃, if_true, h₁, h₂, UInt8.ofNat_toNat]
  | case3 x =>
    have hx := x.toNat_lt
    have h₁ : x.toNat / 4 * 4 + x.toNat % 4 * 16 / 16 = x.toNat := by omega
    have h₂ : x.toNat % 4 * 16 % 16 = 0 := by omega
    simp only [decodeFrom, decodeLast, h.valueAt_symbol (show x.toNat / 4 < 64 by omega),
      h.valueAt_symbol (show x.toNat % 4 * 16 < 64 by omega), Except.ok_bind, h₂, if_true, h₁,
      UInt8.ofNat_toNat]
  | case4 => rfl

/-- Every byte of a written form is a symbol. -/
theorem exists_symbol_of_mem_encode {b : UInt8} {bytes : List UInt8} (hb : b ∈ encode a bytes) :
    ∃ v < 64, b = a.symbol v := by
  fun_induction encode a bytes with
  | case1 x y z rest ih =>
    have hx := x.toNat_lt
    have hy := y.toNat_lt
    have hz := z.toNat_lt
    simp only [List.mem_cons] at hb
    rcases hb with rfl | rfl | rfl | rfl | hb
    · exact ⟨_, by omega, rfl⟩
    · exact ⟨_, by omega, rfl⟩
    · exact ⟨_, by omega, rfl⟩
    · exact ⟨_, by omega, rfl⟩
    · exact ih hb
  | case2 x y =>
    have hx := x.toNat_lt
    have hy := y.toNat_lt
    simp only [List.mem_cons, List.not_mem_nil, or_false] at hb
    rcases hb with rfl | rfl | rfl
    · exact ⟨_, by omega, rfl⟩
    · exact ⟨_, by omega, rfl⟩
    · exact ⟨_, by omega, rfl⟩
  | case3 x =>
    have hx := x.toNat_lt
    simp only [List.mem_cons, List.not_mem_nil, or_false] at hb
    rcases hb with rfl | rfl
    · exact ⟨_, by omega, rfl⟩
    · exact ⟨_, by omega, rfl⟩
  | case4 => cases hb

theorem length_encode (bytes : List UInt8) :
    (encode a bytes).length = (4 * bytes.length + 2) / 3 := by
  fun_induction encode a bytes with
  | case1 x y z rest ih =>
    simp only [List.length_cons, ih]
    omega
  | case2 x y => simp only [List.length_cons, List.length_nil]
  | case3 x => simp only [List.length_cons, List.length_nil]
  | case4 => rfl

theorem strayEnd?_encode (h : a.Lawful) (bytes : List UInt8) :
    strayEnd? a (encode a bytes) = none := by
  unfold strayEnd?
  split
  · split
    · next symbol hlast =>
      obtain ⟨v, hv, rfl⟩ := exists_symbol_of_mem_encode (List.mem_of_getLast? hlast)
      simp [h.value?_symbol v hv]
    · rfl
  · rfl

/-- **Reading what was written.** -/
theorem decode_encode (h : a.Lawful) (bytes : List UInt8) :
    decode a (encode a bytes) = .ok bytes := by
  rw [decode, strayEnd?_encode h]
  exact decodeFrom_encode h 0 bytes

/-! ## What can be read -/

theorem valueAt_eq_ok {offset v : Nat} {symbol : UInt8} :
    a.valueAt offset symbol = .ok v ↔ a.value? symbol = some v := by
  unfold Alphabet.valueAt
  cases a.value? symbol <;> simp

theorem isSymbol_of_valueAt {offset v : Nat} {symbol : UInt8}
    (h : a.valueAt offset symbol = .ok v) : (a.value? symbol).isSome = true := by
  rw [valueAt_eq_ok.1 h]
  rfl

theorem isSymbol_of_decodeLast {offset : Nat} {text bytes : List UInt8}
    (h : decodeLast a offset text = .ok bytes) : ∀ b ∈ text, (a.value? b).isSome = true := by
  unfold decodeLast at h
  split at h
  · exact nofun
  · obtain ⟨_, -, h⟩ := Except.bind_eq_ok.1 h
    cases h
  · obtain ⟨_, hw, h⟩ := Except.bind_eq_ok.1 h
    obtain ⟨_, hx, -⟩ := Except.bind_eq_ok.1 h
    simp [isSymbol_of_valueAt hw, isSymbol_of_valueAt hx]
  · obtain ⟨_, hw, h⟩ := Except.bind_eq_ok.1 h
    obtain ⟨_, hx, h⟩ := Except.bind_eq_ok.1 h
    split at h
    · cases h
    · obtain ⟨_, hy, -⟩ := Except.bind_eq_ok.1 h
      simp [isSymbol_of_valueAt hw, isSymbol_of_valueAt hx, isSymbol_of_valueAt hy]
  · obtain ⟨_, hw, h⟩ := Except.bind_eq_ok.1 h
    obtain ⟨_, hx, h⟩ := Except.bind_eq_ok.1 h
    split at h
    · split at h <;> cases h
    · obtain ⟨_, hy, h⟩ := Except.bind_eq_ok.1 h
      split at h
      · cases h
      · obtain ⟨_, hz, -⟩ := Except.bind_eq_ok.1 h
        simp [isSymbol_of_valueAt hw, isSymbol_of_valueAt hx, isSymbol_of_valueAt hy,
          isSymbol_of_valueAt hz]
  · cases h

theorem isSymbol_of_decodeFrom {offset : Nat} {text bytes : List UInt8}
    (h : decodeFrom a offset text = .ok bytes) : ∀ b ∈ text, (a.value? b).isSome = true := by
  fun_induction decodeFrom a offset text generalizing bytes with
  | case1 offset w x y z next rest ih =>
    obtain ⟨_, hw, h⟩ := Except.bind_eq_ok.1 h
    obtain ⟨_, hx, h⟩ := Except.bind_eq_ok.1 h
    obtain ⟨_, hy, h⟩ := Except.bind_eq_ok.1 h
    obtain ⟨_, hz, h⟩ := Except.bind_eq_ok.1 h
    obtain ⟨_, hrest, -⟩ := Except.bind_eq_ok.1 h
    intro b hb
    simp only [List.mem_cons] at hb
    rcases hb with rfl | rfl | rfl | rfl | hb
    · exact isSymbol_of_valueAt hw
    · exact isSymbol_of_valueAt hx
    · exact isSymbol_of_valueAt hy
    · exact isSymbol_of_valueAt hz
    · exact ih hrest b (by simpa using hb)
  | case2 => exact isSymbol_of_decodeLast h

theorem isSymbol_of_decode {text bytes : List UInt8} (h : decode a text = .ok bytes) :
    ∀ b ∈ text, (a.value? b).isSome = true := by
  unfold decode at h
  split at h
  · cases h
  · exact isSymbol_of_decodeFrom h

/-! ## One written form -/

/-- An alphabet in which no two symbols have one value. -/
def Alphabet.Faithful (a : Alphabet) : Prop :=
  ∀ n < 256, ∀ v, a.value? (UInt8.ofNat n) = some v → v < 64 ∧ a.symbol v = UInt8.ofNat n

theorem faithful_of_all {a : Alphabet}
    (h : ∀ n < 256, (a.value? (UInt8.ofNat n)).all
      (fun v => decide (v < 64) && a.symbol v == UInt8.ofNat n) = true) : a.Faithful := by
  intro n hn v hv
  have := h n hn
  rw [hv] at this
  simpa using this

theorem faithful_standard : standard.Faithful := faithful_of_all (by decide +kernel)

theorem Alphabet.Faithful.valueAt_eq_ok (h : a.Faithful) {offset v : Nat} {symbol : UInt8}
    (hv : a.valueAt offset symbol = .ok v) : v < 64 ∧ a.symbol v = symbol := by
  have hs := h symbol.toNat symbol.toNat_lt v
  rw [UInt8.ofNat_toNat] at hs
  exact hs (Base64.valueAt_eq_ok.1 hv)

theorem encode_quartet {p q r s : Nat} (hp : p < 64) (hq : q < 64) (hr : r < 64) (hs : s < 64)
    (bytes : List UInt8) :
    encode a (bytesOfQuartet p q r s ++ bytes) =
      a.symbol p :: a.symbol q :: a.symbol r :: a.symbol s :: encode a bytes := by
  have h₁ : (p * 4 + q / 16) % 256 / 4 = p := by omega
  have h₂ : (p * 4 + q / 16) % 256 % 4 * 16 + (q % 16 * 16 + r / 4) % 256 / 16 = q := by omega
  have h₃ : (q % 16 * 16 + r / 4) % 256 % 16 * 4 + (r % 4 * 64 + s) % 256 / 64 = r := by omega
  have h₄ : (r % 4 * 64 + s) % 256 % 64 = s := by omega
  simp only [bytesOfQuartet, List.cons_append, List.nil_append, encode, UInt8.toNat_ofNat', h₁, h₂,
    h₃, h₄, Nat.reducePow]

theorem encode_of_decodeLast (ha : a.Faithful) {offset : Nat} {text bytes : List UInt8}
    (h : decodeLast a offset text = .ok bytes) : encode a bytes = text := by
  unfold decodeLast at h
  split at h
  · cases h
    rfl
  · obtain ⟨_, -, h⟩ := Except.bind_eq_ok.1 h
    cases h
  · next w x =>
    obtain ⟨p, hp, h⟩ := Except.bind_eq_ok.1 h
    obtain ⟨q, hq, h⟩ := Except.bind_eq_ok.1 h
    obtain ⟨hp, hw⟩ := ha.valueAt_eq_ok hp
    obtain ⟨hq, hx⟩ := ha.valueAt_eq_ok hq
    obtain ⟨hlow, rfl⟩ := Except.ite_eq_ok.1 h
    have h₁ : (p * 4 + q / 16) % 256 / 4 = p := by omega
    have h₂ : (p * 4 + q / 16) % 256 % 4 * 16 = q := by omega
    simp only [encode, UInt8.toNat_ofNat', Nat.reducePow, h₁, h₂, hw, hx]
  · next w x y =>
    obtain ⟨p, hp, h⟩ := Except.bind_eq_ok.1 h
    obtain ⟨q, hq, h⟩ := Except.bind_eq_ok.1 h
    split at h
    · cases h
    obtain ⟨r, hr, h⟩ := Except.bind_eq_ok.1 h
    obtain ⟨hp, hw⟩ := ha.valueAt_eq_ok hp
    obtain ⟨hq, hx⟩ := ha.valueAt_eq_ok hq
    obtain ⟨hr, hy⟩ := ha.valueAt_eq_ok hr
    obtain ⟨hlow, rfl⟩ := Except.ite_eq_ok.1 h
    have h₁ : (p * 4 + q / 16) % 256 / 4 = p := by omega
    have h₂ : (p * 4 + q / 16) % 256 % 4 * 16 + (q % 16 * 16 + r / 4) % 256 / 16 = q := by omega
    have h₃ : (q % 16 * 16 + r / 4) % 256 % 16 * 4 = r := by omega
    simp only [encode, UInt8.toNat_ofNat', Nat.reducePow, h₁, h₂, h₃, hw, hx, hy]
  · next w x y z =>
    obtain ⟨p, hp, h⟩ := Except.bind_eq_ok.1 h
    obtain ⟨q, hq, h⟩ := Except.bind_eq_ok.1 h
    split at h
    · split at h <;> cases h
    obtain ⟨r, hr, h⟩ := Except.bind_eq_ok.1 h
    split at h
    · cases h
    obtain ⟨s, hs, h⟩ := Except.bind_eq_ok.1 h
    obtain ⟨hp, hw⟩ := ha.valueAt_eq_ok hp
    obtain ⟨hq, hx⟩ := ha.valueAt_eq_ok hq
    obtain ⟨hr, hy⟩ := ha.valueAt_eq_ok hr
    obtain ⟨hs, hz⟩ := ha.valueAt_eq_ok hs
    cases h
    rw [← List.append_nil (bytesOfQuartet p q r s), encode_quartet hp hq hr hs, hw, hx, hy, hz]
    rfl
  · cases h

theorem encode_of_decodeFrom (ha : a.Faithful) {offset : Nat} {text bytes : List UInt8}
    (h : decodeFrom a offset text = .ok bytes) : encode a bytes = text := by
  fun_induction decodeFrom a offset text generalizing bytes with
  | case1 offset w x y z next rest ih =>
    obtain ⟨p, hp, h⟩ := Except.bind_eq_ok.1 h
    obtain ⟨q, hq, h⟩ := Except.bind_eq_ok.1 h
    obtain ⟨r, hr, h⟩ := Except.bind_eq_ok.1 h
    obtain ⟨s, hs, h⟩ := Except.bind_eq_ok.1 h
    obtain ⟨tail, htail, h⟩ := Except.bind_eq_ok.1 h
    obtain ⟨hp, hw⟩ := ha.valueAt_eq_ok hp
    obtain ⟨hq, hx⟩ := ha.valueAt_eq_ok hq
    obtain ⟨hr, hy⟩ := ha.valueAt_eq_ok hr
    obtain ⟨hs, hz⟩ := ha.valueAt_eq_ok hs
    cases h
    rw [encode_quartet hp hq hr hs, ih htail, hw, hx, hy, hz]
  | case2 => exact encode_of_decodeLast ha h

/-- **Every byte string has one written form.** -/
theorem decode_eq_ok (ha : a.Lawful) (ha' : a.Faithful) {text bytes : List UInt8} :
    decode a text = .ok bytes ↔ text = encode a bytes := by
  constructor
  · intro h
    unfold decode at h
    split at h
    · cases h
    · exact (encode_of_decodeFrom ha' h).symm
  · rintro rfl
    exact decode_encode ha bytes

end Accounts.Base64

import Accounts.Number.Integer
import Accounts.Proofs.Except

/-!
# Decimal digits back and forth

The digits of a number are read back to the number, by every reader that checks a bound digit by
digit: no part of the digits goes beyond what all of them stand for.

* `magnitude_eq_ok` — reading digits within a bound.
* `toDigits_eq_cons` — a positive number has no leading zero.
* `toDigits_ofDigitChars` — digits without a leading zero are those of their number.
* `toList_toString` — the decimal form of a number.
-/

namespace Accounts

namespace Integer

theorem toNat_of_isDigit {c : Char} (h : c.isDigit = true) : 48 ≤ c.toNat ∧ c.toNat ≤ 57 := by
  simp only [Char.isDigit, Bool.and_eq_true, decide_eq_true_eq] at h
  exact ⟨UInt32.le_iff_toNat_le.1 h.1, UInt32.le_iff_toNat_le.1 h.2⟩

theorem eq_zero_of_digit {c : Char} (h : c.isDigit = true) (hc : c.toNat - '0'.toNat = 0) :
    c = '0' := by
  have hlow := (toNat_of_isDigit h).1
  have hzero : '0'.toNat = 48 := rfl
  exact Char.ext (UInt32.toNat_inj.1 (show c.toNat = 48 by omega))

theorem digit?_of_isDigit {c : Char} (h : c.isDigit = true) :
    digit? c = some (c.toNat - '0'.toNat) := by
  have hrange : '0' ≤ c ∧ c ≤ '9' := by
    simp only [Char.isDigit, Bool.and_eq_true, decide_eq_true_eq] at h
    exact h
  rw [digit?, if_pos hrange]

theorem isDigit_of_digit? {c : Char} (h : (digit? c).isSome = true) : c.isDigit = true := by
  unfold digit? at h
  split at h
  · next hrange =>
    simp only [Char.isDigit, Bool.and_eq_true, decide_eq_true_eq]
    exact hrange
  · cases h

/-- Digits only make a number larger. -/
theorem le_ofDigitChars (value : Nat) (digits : List Char) :
    value ≤ Nat.ofDigitChars 10 digits value := by
  induction digits generalizing value with
  | nil => simp
  | cons c digits ih =>
    rw [Nat.ofDigitChars_cons]
    exact Nat.le_trans (by omega) (ih (10 * value + (c.toNat - '0'.toNat)))

/-- **Reading digits within a bound:** the number that they stand for, if it is within the bound. -/
theorem magnitude_eq_ok {bound value n : Nat} {beyond : IntegerFault} {ds : List Char}
    (hds : ∀ c ∈ ds, c.isDigit = true) (hvalue : value ≤ bound) :
    magnitude bound beyond ds value = .ok n ↔
      Nat.ofDigitChars 10 ds value ≤ bound ∧ n = Nat.ofDigitChars 10 ds value := by
  induction ds generalizing value with
  | nil => simp [magnitude, hvalue, eq_comm]
  | cons c ds ih =>
    have hc := digit?_of_isDigit (hds c List.mem_cons_self)
    rw [Nat.ofDigitChars_cons, Nat.mul_comm]
    simp only [magnitude, hc]
    split
    · next hle => exact ih (fun d hd => hds d (List.mem_cons_of_mem _ hd)) hle
    · next hnot =>
      have hle := le_ofDigitChars (value * 10 + (c.toNat - '0'.toNat)) ds
      exact iff_of_false (by simp) fun h => hnot (Nat.le_trans hle h.1)

theorem isDigit_of_mem_digits {n : Nat} {c : Char} (h : c ∈ Nat.toDigits 10 n) :
    c.isDigit = true :=
  Nat.isDigit_of_mem_toDigits (by decide) (by decide) h

/-- The first digit of a number; zero comes first for zero only. -/
theorem toDigits_eq_cons (n : Nat) :
    ∃ c digits, Nat.toDigits 10 n = c :: digits ∧ (c = '0' → n = 0 ∧ digits = []) := by
  induction n using Nat.strongRecOn with
  | ind n ih =>
    by_cases hn : n < 10
    · refine ⟨n.digitChar, [], Nat.toDigits_of_lt_base hn, fun h => ⟨?_, rfl⟩⟩
      have hzero : ∀ n < 10, n.digitChar = '0' → n = 0 := by decide
      exact hzero n hn h
    · obtain ⟨c, digits, hdigits, hc⟩ := ih (n / 10) (by omega)
      refine ⟨c, digits ++ [(n % 10).digitChar], ?_, fun h => ?_⟩
      · rw [Nat.toDigits_of_base_le (by decide) (by omega), hdigits, List.cons_append]
      · have := (hc h).1
        omega

theorem digitChar_of_isDigit {c : Char} (h : c.isDigit = true) :
    Nat.digitChar (c.toNat - '0'.toNat) = c := by
  have hrange := toNat_of_isDigit h
  have hzero : '0'.toNat = 48 := rfl
  refine Char.toNat_inj.1 ?_
  rw [Nat.toNat_digitChar_of_lt_ten (by omega)]
  omega

/-- Further digits are written behind those of a positive number. -/
theorem toDigits_ofDigitChars_pos {value : Nat} {digits : List Char} (hvalue : 0 < value)
    (hdigits : ∀ c ∈ digits, c.isDigit = true) :
    Nat.toDigits 10 (Nat.ofDigitChars 10 digits value) = Nat.toDigits 10 value ++ digits := by
  induction digits generalizing value with
  | nil => simp
  | cons c digits ih =>
    have hc := hdigits c List.mem_cons_self
    have hrange := toNat_of_isDigit hc
    have hzero : '0'.toNat = 48 := rfl
    have hdigit : c.toNat - '0'.toNat < 10 := by omega
    rw [Nat.ofDigitChars_cons, ih (by omega) fun d hd => hdigits d (List.mem_cons_of_mem _ hd),
      ← Nat.toDigits_append_toDigits (by decide) hvalue hdigit, Nat.toDigits_of_lt_base hdigit,
      digitChar_of_isDigit hc, List.append_assoc]
    rfl

/-- **Digits without leading zeros** are those of the number that they stand for. -/
theorem toDigits_ofDigitChars {c : Char} {digits : List Char}
    (hdigits : ∀ d ∈ c :: digits, d.isDigit = true) (hlead : c = '0' → digits = []) :
    Nat.toDigits 10 (Nat.ofDigitChars 10 (c :: digits) 0) = c :: digits := by
  have hc := hdigits c List.mem_cons_self
  have hrange := toNat_of_isDigit hc
  have hzero : '0'.toNat = 48 := rfl
  have hchar := digitChar_of_isDigit hc
  rw [Nat.ofDigitChars_cons, Nat.mul_zero, Nat.zero_add]
  by_cases hpos : 0 < c.toNat - '0'.toNat
  · rw [toDigits_ofDigitChars_pos hpos fun d hd => hdigits d (List.mem_cons_of_mem _ hd),
      Nat.toDigits_of_lt_base (by omega), hchar]
    rfl
  · have h0 : c = '0' := eq_zero_of_digit hc (by omega)
    rw [hlead h0, h0]
    decide

theorem ne_of_isDigit {c d : Char} (h : c.isDigit = true) (hd : d.isDigit = false) : c ≠ d := by
  rintro rfl
  rw [h] at hd
  cases hd

theorem not_mem_digits {n : Nat} {d : Char} (hd : d.isDigit = false) : d ∉ Nat.toDigits 10 n :=
  fun h => ne_of_isDigit (isDigit_of_mem_digits h) hd rfl

theorem magnitude_toDigits {n bound : Nat} (beyond : IntegerFault) (hn : n ≤ bound) :
    magnitude bound beyond (Nat.toDigits 10 n) 0 = .ok n := by
  rw [magnitude_eq_ok (fun c hc => isDigit_of_mem_digits hc) (Nat.zero_le _),
    Nat.ofDigitChars_ten_toDigits]
  exact ⟨hn, rfl⟩

theorem parseNat_toDigits {n bound : Nat} (hn : n ≤ bound) :
    parseNat bound (Nat.toDigits 10 n) = .ok n := by
  obtain ⟨c, digits, hdigits, -⟩ := toDigits_eq_cons n
  have hread := magnitude_toDigits .tooLarge hn
  have hc : c.isDigit = true := isDigit_of_mem_digits (n := n) (hdigits ▸ List.mem_cons_self)
  have hplus := ne_of_isDigit hc (show '+'.isDigit = false from rfl)
  rw [hdigits] at hread ⊢
  unfold parseNat
  split <;> simp_all

theorem toList_toString (n : Int) : (toString n).toList =
    if 0 ≤ n then Nat.toDigits 10 n.natAbs else '-' :: Nat.toDigits 10 n.natAbs := by
  cases n with
  | ofNat n => exact String.toList_ofList
  | negSucc n =>
    have htext : toString (Int.negSucc n) = "-" ++ toString (n + 1) := rfl
    rw [htext, String.toList_append]
    exact congrArg ('-' :: ·) String.toList_ofList

theorem magnitude_le {bound value n : Nat} {beyond : IntegerFault} {cs : List Char}
    (hvalue : value ≤ bound) (h : magnitude bound beyond cs value = .ok n) : n ≤ bound := by
  induction cs generalizing value with
  | nil => exact Except.ok.inj h ▸ hvalue
  | cons c cs ih =>
    rw [magnitude] at h
    split at h
    · cases h
    · split at h
      · next hle => exact ih hle h
      · cases h

theorem le_of_parseNat {cs : List Char} {bound n : Nat} (h : parseNat bound cs = .ok n) :
    n ≤ bound := by
  unfold parseNat at h
  split at h
  case h_1 | h_2 => cases h
  all_goals exact magnitude_le (Nat.zero_le _) h

theorem isSigned64_of_parseInt {cs : List Char} {n : Int} (h : parseInt maxSigned64 cs = .ok n) :
    IsSigned64 n := by
  have hmax : maxSigned64 = 9223372036854775807 := rfl
  unfold parseInt at h
  split at h
  case h_1 | h_2 | h_3 => cases h
  all_goals
    obtain ⟨m, hm, rfl⟩ := Except.map_eq_ok.1 h
    have hle := magnitude_le (Nat.zero_le _) hm
    constructor <;> simp only [Int.ofNat_eq_natCast] <;> omega

end Integer

end Accounts

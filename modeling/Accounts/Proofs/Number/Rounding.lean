import Accounts.Number.Binary64
import Accounts.Number.Integer

/-!
# Large whole numbers as floats

From `2 ^ 52` on the numbers of the binary64 format are whole. A larger whole number is rounded to a
multiple of the distance between two of them, a power of two that grows with the number.

* `Binary64.ofRatio_large`, `Binary64.ofDecimal_large` — the float nearest to a large number.
* `Binary64.pow_le_rounded` — rounding does not go below a power of two.
* `Binary64.min_rounded` — what is rounded and cut off at 64 bits.
-/

namespace Accounts

namespace Binary64

variable {m num den : Nat}

theorem div_le_roundQuotient : num / den ≤ roundQuotient num den := by
  simp only [roundQuotient]
  split
  · exact Nat.le_refl _
  · split
    · exact Nat.le_succ _
    · split
      · exact Nat.le_refl _
      · exact Nat.le_succ _

/-- The distance between two floats at a large number. -/
def unit (m : Nat) : Nat := Nat.pow 2 (m.log2 - 52)

/-- The value of the float nearest to a large number. -/
def rounded (m : Nat) : Nat := roundQuotient m (unit m) * unit m

theorem ne_zero_of_large (h : Nat.pow 2 52 ≤ m) : m ≠ 0 := by
  rintro rfl
  exact absurd h (by decide)

theorem pow_log2_le (h : Nat.pow 2 52 ≤ m) : Nat.pow 2 m.log2 ≤ m :=
  Nat.log2_self_le (ne_zero_of_large h)

theorem le_log2_of_pow_le {k : Nat} (h : Nat.pow 2 k ≤ m) : k ≤ m.log2 := by
  have hne : m ≠ 0 := by
    rintro rfl
    exact absurd h (Nat.not_le_of_lt (Nat.two_pow_pos k))
  exact (Nat.le_log2 hne).2 h

theorem pow_mul_unit (h : 52 ≤ m.log2) : Nat.pow 2 52 * unit m = Nat.pow 2 m.log2 := by
  have hsum : 52 + (m.log2 - 52) = m.log2 := by omega
  rw [unit]
  exact (Nat.pow_add 2 52 (m.log2 - 52)).symm.trans (congrArg (Nat.pow 2) hsum)

/-- Rounding does not go below a power of two. -/
theorem pow_le_rounded {k : Nat} (h : Nat.pow 2 52 ≤ m) (hk : k ≤ m.log2) :
    Nat.pow 2 k ≤ rounded m := by
  have hunit : 0 < unit m := Nat.two_pow_pos _
  have hquotient : Nat.pow 2 52 ≤ m / unit m := by
    rw [Nat.le_div_iff_mul_le hunit, pow_mul_unit (le_log2_of_pow_le h)]
    exact pow_log2_le h
  calc Nat.pow 2 k ≤ Nat.pow 2 m.log2 := Nat.pow_le_pow_right (by decide) hk
    _ = Nat.pow 2 52 * unit m := (pow_mul_unit (le_log2_of_pow_le h)).symm
    _ ≤ rounded m := Nat.mul_le_mul_right _ (Nat.le_trans hquotient div_le_roundQuotient)

theorem scale_natCast (e : Nat) : scale m 1 (e : Int) = (m, Nat.pow 2 e) :=
  congrArg (Prod.mk m) (Nat.one_mul _)

theorem exponentOf_large (h : Nat.pow 2 52 ≤ m) : exponentOf m 1 = (m.log2 - 52 : Nat) := by
  have hlog := le_log2_of_pow_le h
  have hguess : guess m 1 = (m.log2 - 52 : Nat) := by
    have hone : (1 : Nat).log2 = 0 := by decide
    rw [guess]
    omega
  have hexact : ¬ m < unit m * Nat.pow 2 52 := by
    rw [Nat.mul_comm, pow_mul_unit hlog]
    exact Nat.not_lt.2 (pow_log2_le h)
  rw [exponentOf, hguess, scale_natCast]
  simp only [if_neg (show ¬ m < Nat.pow 2 (m.log2 - 52) * Nat.pow 2 52 from hexact)]
  omega

/-- A significand of one bit too many does not change the value. -/
theorem normalized_cases (negative : Bool) (q e : Nat) :
    (normalized negative q e = .infinite negative ∧ 971 ≤ e) ∨
      ∃ q' e' : Nat, normalized negative q e = .finite negative q' e' ∧
        q' * Nat.pow 2 e' = q * Nat.pow 2 e := by
  rw [normalized]
  split
  · next hq =>
    split
    · exact .inl ⟨rfl, by omega⟩
    · refine .inr ⟨Nat.pow 2 52, e + 1, rfl, ?_⟩
      rw [beq_iff_eq.1 hq]
      exact (Nat.pow_add 2 52 (e + 1)).symm.trans
        ((congrArg (Nat.pow 2) (by omega)).trans (Nat.pow_add 2 53 e))
  · split
    · exact .inl ⟨rfl, by omega⟩
    · exact .inr ⟨q, e, rfl, rfl⟩

/-- **The float nearest to a large number** is infinite, or its value is the number that is
rounded. -/
theorem ofRatio_large (negative : Bool) (h : Nat.pow 2 52 ≤ m) :
    (ofRatio negative m 1 = .infinite negative ∧ 1023 ≤ m.log2) ∨
      ∃ q e : Nat, ofRatio negative m 1 = .finite negative q e ∧ q * Nat.pow 2 e = rounded m := by
  have hlog := le_log2_of_pow_le h
  have hratio : ofRatio negative m 1 =
      normalized negative (roundQuotient m (unit m)) (m.log2 - 52 : Nat) := by
    rw [ofRatio, beq_false_of_ne (ne_zero_of_large h), if_neg Bool.false_ne_true,
      exponentOf_large h, scale_natCast]
    rfl
  rw [hratio]
  obtain ⟨hinfinite, hle⟩ | hfinite := normalized_cases negative (roundQuotient m (unit m))
    (m.log2 - 52)
  · exact .inl ⟨hinfinite, by omega⟩
  · exact .inr hfinite

theorem ofDecimal_large (negative : Bool) (h : Nat.pow 2 52 ≤ m) :
    (ofDecimal negative m 0 = .infinite negative ∧ 1023 ≤ m.log2) ∨
      ∃ q e : Nat, ofDecimal negative m 0 = .finite negative q e ∧
        q * Nat.pow 2 e = rounded m := by
  have hzero : (m == 0) = false := beq_false_of_ne (ne_zero_of_large h)
  by_cases hsize : (400 : Int) < (m.log2 : Int) / 4 + 0
  · refine .inl ⟨?_, by omega⟩
    simp only [ofDecimal, hzero, Bool.false_eq_true, if_false, if_pos hsize]
  · have hsmall : ¬ (m.log2 : Int) + 0 < -400 := by omega
    have hdecimal : ofDecimal negative m 0 = ofRatio negative m 1 := by
      simp only [ofDecimal, hzero, Bool.false_eq_true, if_false, if_neg hsize, if_neg hsmall]
      exact congrArg (ofRatio negative · 1) (Nat.mul_one m)
    rw [hdecimal]
    exact ofRatio_large negative h

theorem round?_finite (negative : Bool) (q e : Nat) :
    round? (.finite negative q e) =
      some (if negative then -((q * Nat.pow 2 e : Nat) : Int) else (q * Nat.pow 2 e : Nat)) := by
  have hhalf : (2 * (q * Nat.pow 2 e) + 1) / (2 * 1) = q * Nat.pow 2 e := by omega
  have hratio : ratio q e = (q * Nat.pow 2 e, 1) := rfl
  rw [round?, hratio]
  simp only [hhalf]

/-- Between `2 ^ 63` and `2 ^ 64` the distance between two floats is 2048; above, it does not matter
where the number is clamped. -/
theorem min_rounded (h : Nat.pow 2 63 ≤ m) :
    min Integer.maxUnsigned64 (rounded m) =
      min Integer.maxUnsigned64 (roundQuotient m 2048 * 2048) := by
  have hmax : Integer.maxUnsigned64 + 1 = Nat.pow 2 64 := by decide
  have hlog : 63 ≤ m.log2 := le_log2_of_pow_le h
  have hlarge : Nat.pow 2 52 ≤ m := Nat.le_trans (by decide) h
  by_cases hlt : m.log2 = 63
  · have hunit : unit m = 2048 := by rw [unit, hlt]
    rw [rounded, hunit]
  · have hrounded : Nat.pow 2 64 ≤ rounded m := pow_le_rounded hlarge (by omega)
    have hm : Nat.pow 2 64 ≤ m :=
      Nat.le_trans (Nat.pow_le_pow_right (by decide) (by omega)) (pow_log2_le hlarge)
    have hquotient : m / 2048 ≤ roundQuotient m 2048 := div_le_roundQuotient
    have hpow64 : Nat.pow 2 64 = 18446744073709551616 := by decide
    omega

end Binary64

end Accounts

import Accounts.Proofs.Token.Verification

/-!
# When a token is valid

Claims say themselves whether they are expired or valid at a time, by comparing signed seconds. The
check of a token reads the times of its payload as natural numbers, and there a time before 1970
counts as missing. The two agree on all claims whose times are not negative.

* `parse_sign_at` — the fate of a signed token in terms of its claims.
* `parse_sign_validity` — what is said of a token at a time, and what its claims say.
* `not_validity_agrees` — a token that ended before 1970 is not said to be expired.
-/

namespace Accounts.Token

variable {c : Claims} {now : Int64}

/-! ## Signed seconds -/

theorem Claims.isExpired_eq_true : c.isExpired now = true ↔ c.expiresAt.toInt < now.toInt := by
  rw [isExpired, decide_eq_true_iff, Int64.lt_iff_toInt_lt]

theorem Claims.isValidAt_eq_true :
    c.isValidAt now = true ↔
      c.notBefore.toInt ≤ now.toInt ∧ now.toInt ≤ c.expiresAt.toInt := by
  rw [isValidAt, Bool.and_eq_true, decide_eq_true_iff, Bool.not_eq_true', ← Bool.not_eq_true,
    isExpired_eq_true, Int64.le_iff_toInt_le, Int.not_lt]

/-! ## The check of a token -/

/-- The check of a payload that was written, by the times as they were signed. Both have to be there
before they are compared. -/
theorem Window.check_ofClaims_eq (c : Claims) (now : Nat) :
    (ofClaims c).check now =
      if c.expiresAt.toInt < 0 then .error (.malformed (.missingClaim .expiry))
      else if c.notBefore.toInt < 0 then .error (.malformed (.missingClaim .notBefore))
      else if c.expiresAt.toInt < now then .error .expired
      else if now < c.notBefore.toInt then .error .notYetValid
      else .ok () := by
  simp only [check, ofClaims]
  cases c.expiresAt.toInt with
  | negSucc n => simp only [Int.toNat?, Int.negSucc_lt_zero, if_true]
  | ofNat expiry =>
    have hexpiry : ¬ Int.ofNat expiry < 0 := Int.not_lt.2 (Int.natCast_nonneg expiry)
    cases c.notBefore.toInt with
    | negSucc n => simp only [Int.toNat?, hexpiry, Int.negSucc_lt_zero, if_true, if_false]
    | ofNat notBefore =>
      have hnotBefore : ¬ Int.ofNat notBefore < 0 := Int.not_lt.2 (Int.natCast_nonneg notBefore)
      rw [if_neg hexpiry, if_neg hnotBefore]
      simp only [Int.toNat?, Int.ofNat_eq_natCast, Int.ofNat_lt, Bool.not_true,
        Bool.false_eq_true, if_false]

/-- **The fate of a signed token** under the key that signed it. -/
theorem parse_sign_at (c : Claims) (key : Key) (hnow : 0 ≤ now) :
    parse key now.toInt.toNat (sign c key) =
      if c.expiresAt < 0 then .error (.malformed (.missingClaim .expiry))
      else if c.notBefore < 0 then .error (.malformed (.missingClaim .notBefore))
      else if c.isExpired now = true then .error .expired
      else if c.isValidAt now = true then .ok c
      else .error .notYetValid := by
  have hclock : (now.toInt.toNat : Int) = now.toInt :=
    Int.toNat_of_nonneg (Int64.le_iff_toInt_le.1 hnow)
  rw [parse_sign, if_pos rfl, Window.check_ofClaims_eq, hclock]
  simp only [Int64.lt_iff_toInt_lt, Int64.toInt_zero, Claims.isExpired_eq_true,
    Claims.isValidAt_eq_true]
  by_cases hexpiry : c.expiresAt.toInt < 0
  · simp only [if_pos hexpiry]
    rfl
  by_cases hnotBefore : c.notBefore.toInt < 0
  · simp only [if_neg hexpiry, if_pos hnotBefore]
    rfl
  simp only [if_neg hexpiry, if_neg hnotBefore]
  by_cases hexpired : c.expiresAt.toInt < now.toInt
  · simp only [if_pos hexpired]
    rfl
  simp only [if_neg hexpired]
  by_cases hearly : now.toInt < c.notBefore.toInt
  · have hnot : ¬ (c.notBefore.toInt ≤ now.toInt ∧ now.toInt ≤ c.expiresAt.toInt) := by omega
    rw [if_pos hearly, if_neg hnot]
    rfl
  · have hvalid : c.notBefore.toInt ≤ now.toInt ∧ now.toInt ≤ c.expiresAt.toInt := by omega
    rw [if_neg hearly, if_pos hvalid]
    rfl

/-- **What is said of a token**, and what its claims say. It is valid or expired exactly if its
claims are and its times are not negative, and it is not valid yet exactly if its claims are neither
valid yet nor expired. Negative times make it malformed, whenever it is read. -/
theorem parse_sign_validity (c : Claims) (key : Key) (now : Int64) (hnow : 0 ≤ now) :
    let outcome := parse key now.toInt.toNat (sign c key)
    ((∃ d, outcome = .ok d) ↔ c.isValidAt now = true ∧ 0 ≤ c.notBefore) ∧
    (outcome = .error .expired ↔
      c.isExpired now = true ∧ 0 ≤ c.expiresAt ∧ 0 ≤ c.notBefore) ∧
    (outcome = .error .notYetValid ↔ c.isExpired now = false ∧ now < c.notBefore) ∧
    ((∃ claim, outcome = .error (.malformed (.missingClaim claim))) ↔
      c.expiresAt < 0 ∨ c.notBefore < 0) ∧
    (c.expiresAt < 0 → 0 ≤ c.notBefore →
      outcome = .error (.malformed (.missingClaim .expiry))) ∧
    (0 ≤ c.expiresAt → c.notBefore < 0 →
      outcome = .error (.malformed (.missingClaim .notBefore))) := by
  intro outcome
  have houtcome : outcome = _ := parse_sign_at c key hnow
  clear_value outcome
  subst houtcome
  simp only [Int64.lt_iff_toInt_lt, Int64.le_iff_toInt_le, Int64.toInt_zero,
    Claims.isExpired_eq_true, Claims.isValidAt_eq_true, ← Bool.not_eq_true] at hnow ⊢
  refine ⟨?_, ?_, ?_, ?_, ?_, ?_⟩
  -- Each outcome has one branch, and the conditions of the other branches exclude it.
  · split_ifs <;> simp <;> omega
  · split_ifs <;> simp <;> omega
  · split_ifs <;> simp <;> omega
  · split_ifs <;> simp <;> omega
  · intro hexpiry _
    rw [if_pos hexpiry]
  · intro hexpiry hnotBefore
    rw [if_neg (by omega), if_pos hnotBefore]

/-- Claims that ended before 1970 are expired, and claims that began before 1970 are valid. The
tokens of both are malformed. -/
theorem parse_sign_validity_negative :
    ∃ key ended begun, Claims.isExpired ended 0 = true ∧ Claims.isValidAt begun 0 = true ∧
      parse key 0 (sign ended key) = .error (.malformed (.missingClaim .expiry)) ∧
      parse key 0 (sign begun key) = .error (.malformed (.missingClaim .notBefore)) := by
  let key : Key := ⟨[107], by decide⟩
  let ended : Claims := ⟨"1", "issuer", "", 0, 0, -1, .access, .empty⟩
  let begun : Claims := ⟨"1", "issuer", "", 0, -1, 0, .access, .empty⟩
  have hended := (parse_sign_validity ended key 0 (by decide)).2.2.2.2.1
  have hbegun := (parse_sign_validity begun key 0 (by decide)).2.2.2.2.2
  exact ⟨key, ended, begun, by decide, by decide, hended (by decide) (by decide),
    hbegun (by decide) (by decide)⟩

/-- **A token that ended before 1970** is not said to be expired. -/
theorem not_validity_agrees :
    ¬ ∀ (c : Claims) (key : Key) (now : Int64), 0 ≤ now →
      let outcome := parse key now.toInt.toNat (sign c key)
      ((∃ d, outcome = .ok d) ↔ c.isValidAt now = true) ∧
      (outcome = .error .expired ↔ c.isExpired now = true) ∧
      (now < c.notBefore → c.isExpired now = false → outcome = .error .notYetValid) := by
  intro h
  let key : Key := ⟨[107], by decide⟩
  let c : Claims := ⟨"1", "issuer", "", 0, 0, -1, .access, .empty⟩
  have htold := (h c key 0 (by decide)).2.1.2 (by decide)
  rw [parse_sign_at c key (by decide), if_pos (by decide)] at htold
  cases htold

end Accounts.Token

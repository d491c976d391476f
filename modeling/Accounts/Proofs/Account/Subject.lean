import Accounts.Account.Id
import Accounts.Proofs.Number.Numeral

/-!
# Accounts and subjects

The subject of an account's tokens is the account's number in decimal. A subject is read as a number
with or without a plus sign and with any zeros in front, however long it is; the number is exact, or
the subject is refused. What is written for one account is read as that account and as no other.

* `AccountId.Names` — which texts name which account.
* `AccountId.RefusedAs` — what is told of all others.
* `AccountId.names_text` — what the text of an account names.
* `AccountId.subject_names_exactly` — texts, accounts and subjects.
-/

namespace Accounts

open Integer

namespace AccountId

variable {text detail : String} {id other : AccountId}

/-- The numbers that accounts have. -/
def InRange (id : AccountId) : Prop := 0 < id.value ∧ id.value < (Nat.pow 2 63 : Nat)

/-- A text names an account: it is made of digits, with a plus sign in front or without, and they
stand for the account's number. -/
def Names (text : String) (id : AccountId) : Prop :=
  ∃ digits : List Char, digits ≠ [] ∧ (∀ c ∈ digits, c.isDigit = true) ∧
    (text.toList = digits ∨ text.toList = '+' :: digits) ∧
    id.value = (Nat.ofDigitChars 10 digits 0 : Nat) ∧ id.InRange

/-- What is told of a text that names no account. -/
inductive RefusedAs (text : String) : String → Prop
  /-- A number that no account has is told in its own form. -/
  | notPositive {n : Int} (hn : Numeral text.toList n ∧ IsSigned64 n) (hle : n ≤ 0) :
      RefusedAs text (toString n)
  /-- What is no number of 64 bits is told as it is, with the reason. -/
  | notRead (hnone : ¬ ∃ n, Numeral text.toList n ∧ IsSigned64 n) :
      RefusedAs text (text ++ ": " ++ (refusal maxSigned64 text.toList).message)

/-! ## Which account a text names -/

/-- **The texts that name an account:** numerals of positive numbers of 64 bits. -/
theorem ofText_eq_ok :
    ofText text = .ok id ↔
      Numeral text.toList id.value ∧ 0 < id.value ∧ id.value ≤ maxSigned64 := by
  unfold ofText
  constructor
  · intro h
    split at h
    · next n hn =>
      split at h
      · next hpos =>
        cases h
        obtain ⟨hnumeral, hsigned⟩ := parseInt_iff.1 hn
        exact ⟨hnumeral, hpos, hsigned.2⟩
      · cases h
    · cases h
  · rintro ⟨hnumeral, hpos, hle⟩
    have hsigned : IsSigned64 id.value := ⟨by omega, hle⟩
    simp only [parseInt_iff.2 ⟨hnumeral, hsigned⟩, if_pos hpos]

/-- A numeral of a number in range has no minus sign. -/
theorem names_iff : Names text id ↔ Numeral text.toList id.value ∧ id.InRange := by
  obtain ⟨n⟩ := id
  unfold Names
  generalize text.toList = cs
  constructor
  · rintro ⟨digits, hne, hdigits, rfl | rfl, hvalue, hrange⟩
    · exact ⟨hvalue ▸ .digits hne hdigits, hrange⟩
    · exact ⟨hvalue ▸ .plus hne hdigits, hrange⟩
  · rintro ⟨hnumeral, hrange⟩
    cases hnumeral with
    | digits hne hdigits => exact ⟨_, hne, hdigits, .inl rfl, rfl, hrange⟩
    | plus hne hdigits => exact ⟨_, hne, hdigits, .inr rfl, rfl, hrange⟩
    | @minus ds hne hdigits =>
      have hpos : (0 : Int) < -(Nat.ofDigitChars 10 ds 0 : Nat) := hrange.1
      omega

/-- **A text is read** as the account that it names. -/
theorem ofText_iff_names : ofText text = .ok id ↔ Names text id := by
  have hmax : maxSigned64 = 9223372036854775807 := rfl
  have hpow : Nat.pow 2 63 = 9223372036854775808 := rfl
  rw [ofText_eq_ok, names_iff, InRange]
  refine and_congr_right fun _ => and_congr_right fun _ => ?_
  omega

/-- **All other texts** are refused. -/
theorem ofText_eq_error :
    ofText text = .error (.invalidFormat detail) ↔ RefusedAs text detail := by
  unfold ofText
  constructor
  · intro h
    split at h
    · next n hn =>
      split at h
      · cases h
      · next hnot =>
        cases h
        exact .notPositive (parseInt_iff.1 hn) (Int.not_lt.1 hnot)
    · next fault hfault =>
      obtain ⟨hnone, rfl⟩ := parseInt_eq_error.1 hfault
      cases h
      exact .notRead hnone
  · intro h
    cases h with
    | notPositive hn hle => simp only [parseInt_iff.2 hn, if_neg (Int.not_lt.2 hle)]
    | notRead hnone => simp only [parseInt_eq_error.2 ⟨hnone, rfl⟩]

/-- A text is read or refused, and not both. -/
theorem exists_refusedAs_iff :
    (¬ ∃ id, Names text id) ↔
      ∃ detail, RefusedAs text detail ∧ ofText text = .error (.invalidFormat detail) := by
  constructor
  · intro hnone
    cases hread : ofText text with
    | ok id => exact absurd ⟨id, ofText_iff_names.1 hread⟩ hnone
    | error fault =>
      obtain ⟨detail⟩ := fault
      exact ⟨detail, ofText_eq_error.1 hread, rfl⟩
  · rintro ⟨detail, -, hread⟩ ⟨id, hid⟩
    cases hread.symm.trans (ofText_iff_names.2 hid)

/-! ## The text of an account -/

theorem names_text : Names id.text other ↔ other = id ∧ id.InRange := by
  have hself : Numeral id.text.toList id.value := numeral_toString id.value
  rw [names_iff]
  constructor
  · rintro ⟨hother, hrange⟩
    obtain rfl : other = id := congrArg AccountId.mk (hother.unique hself)
    exact ⟨rfl, hrange⟩
  · rintro ⟨rfl, hrange⟩
    exact ⟨hself, hrange⟩

theorem ofText_text {n : Nat} (hpos : 0 < n) (hn : n ≤ maxSigned64) :
    ofText (AccountId.mk n).text = .ok ⟨n⟩ :=
  ofText_eq_ok.2 ⟨numeral_toString n, Int.natCast_pos.2 hpos, Int.ofNat_le.2 hn⟩

/-- Accounts have different texts, whether their numbers are in range or not. -/
theorem text_inj : other.text = id.text ↔ other = id := by
  refine ⟨fun h => ?_, congrArg text⟩
  have hother : Numeral id.text.toList other.value := h ▸ numeral_toString other.value
  exact congrArg AccountId.mk (hother.unique (numeral_toString id.value))

end AccountId

/-! ## Subjects -/

theorem Token.Claims.accountId_eq_ok {c : Token.Claims} {id : AccountId} :
    c.accountId = .ok id ↔ AccountId.ofText c.subject = .ok id := by
  simp only [accountId, readSubject]
  cases AccountId.ofText c.subject with
  | error fault => simp [Except.mapError_error]
  | ok n => simp [Except.mapError_ok]

/-- **Subjects and accounts.** A text names an account exactly if it is a number in range, in digits
that a plus sign may precede; any other text is refused, with what is wrong about it. The text of an
account, as the subject of any claims, names this account if its number is in range, and no account
shares it with another one. -/
theorem AccountId.subject_names_exactly (text : String) (c : Token.Claims) (id : AccountId) :
    (ofText text = .ok id ↔ Names text id) ∧
    ((¬ ∃ other, Names text other) ↔
      ∃ detail, RefusedAs text detail ∧ ofText text = .error (.invalidFormat detail)) ∧
    ({ c with subject := id.text }.accountId = .ok id ↔ id.InRange) ∧
    ∀ other : AccountId, other.text = id.text ↔ other = id := by
  refine ⟨ofText_iff_names, exists_refusedAs_iff, ?_, fun other => text_inj⟩
  rw [Token.Claims.accountId_eq_ok, ofText_iff_names, names_text]
  exact and_iff_right rfl

/-- The last number that an account can have, and the next one. -/
example : AccountId.ofText "+0009223372036854775807" = .ok ⟨9223372036854775807⟩ ∧
    AccountId.ofText "9223372036854775808" =
      .error (.invalidFormat "9223372036854775808: number too large to fit in target type") := by
  decide

end Accounts

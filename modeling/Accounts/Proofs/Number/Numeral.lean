import Accounts.Number.Decimal
import Accounts.Proofs.Number.Decimal
import Accounts.Proofs.Text.Lowercase
import Mathlib.Data.List.TakeWhile

/-!
# Whole numbers in decimal notation

A numeral is a run of digits that a sign may precede. Readers of whole numbers read it as the number
that it stands for, or refuse it; as a float it is the float nearest to that number.

* `Integer.Numeral.parseInt_eq_ok`, `Integer.Numeral.eq_of_parseNat` — readers of whole numbers.
* `Integer.Numeral.of_parseInt` — what they read is a numeral.
* `Integer.numeral_toString`, `Integer.Numeral.unique` — each number has a numeral of its own.
* `Integer.parseInt_eq_error` — which texts are refused, and why.
* `Integer.Numeral.ofText?_eq` — the reader of floats.
-/

namespace Accounts

namespace Integer

/-- The texts that are whole numbers in decimal notation. -/
inductive Numeral : List Char → Int → Prop
  | digits {ds : List Char} (hne : ds ≠ []) (hds : ∀ c ∈ ds, c.isDigit = true) :
      Numeral ds (Nat.ofDigitChars 10 ds 0)
  | plus {ds : List Char} (hne : ds ≠ []) (hds : ∀ c ∈ ds, c.isDigit = true) :
      Numeral ('+' :: ds) (Nat.ofDigitChars 10 ds 0)
  | minus {ds : List Char} (hne : ds ≠ []) (hds : ∀ c ∈ ds, c.isDigit = true) :
      Numeral ('-' :: ds) (-(Nat.ofDigitChars 10 ds 0 : Nat))

namespace Numeral

variable {cs : List Char} {n : Int}

theorem isDigit_or_sign (h : Numeral cs n) {c : Char} (hc : c ∈ cs) :
    c.isDigit = true ∨ c = '+' ∨ c = '-' := by
  cases h with
  | digits hne hds => exact .inl (hds c hc)
  | plus hne hds =>
    obtain rfl | hc := List.mem_cons.1 hc
    · exact .inr (.inl rfl)
    · exact .inl (hds c hc)
  | minus hne hds =>
    obtain rfl | hc := List.mem_cons.1 hc
    · exact .inr (.inr rfl)
    · exact .inl (hds c hc)

theorem lowercase {text : String} (h : Numeral text.toList n) : Text.lowercase text = text := by
  have hchar : ∀ c ∈ text.toList, c.toNat < 0x80 ∧ c.isUpper = false := fun c hc => by
    obtain hdigit | rfl | rfl := h.isDigit_or_sign hc
    · have hrange := toNat_of_isDigit hdigit
      refine ⟨by omega, Bool.eq_false_iff.2 fun hupper => ?_⟩
      have := Text.isUpper_iff.1 hupper
      omega
    · decide
    · decide
  exact Text.lowercase_eq_self (fun c hc => (hchar c hc).1) fun c hc => (hchar c hc).2

theorem ne_of_mem {text word : String} (h : Numeral text.toList n) {c : Char}
    (hc : c ∈ word.toList) (hdigit : c.isDigit = false) (hplus : c ≠ '+') (hminus : c ≠ '-') :
    text ≠ word := by
  rintro rfl
  obtain hc | rfl | rfl := h.isDigit_or_sign hc
  · rw [hdigit] at hc
    cases hc
  · exact hplus rfl
  · exact hminus rfl

/-! ## Readers of whole numbers -/

/-- **The reader of signed numbers** reads a numeral exactly if the number has 64 bits. -/
theorem parseInt_eq_ok (h : Numeral cs n) {k : Int} :
    parseInt maxSigned64 cs = .ok k ↔ IsSigned64 n ∧ k = n := by
  have hmax : maxSigned64 = 9223372036854775807 := rfl
  cases h with
  | @digits ds hne hds =>
    obtain ⟨c, ds, rfl⟩ := List.exists_cons_of_ne_nil hne
    have hplus := ne_of_isDigit (hds c List.mem_cons_self) (show '+'.isDigit = false from rfl)
    have hminus := ne_of_isDigit (hds c List.mem_cons_self) (show '-'.isDigit = false from rfl)
    have hread : parseInt maxSigned64 (c :: ds) =
        (magnitude maxSigned64 .tooLarge (c :: ds) 0).map Int.ofNat := by
      unfold parseInt
      split <;> simp_all
    simp only [hread, Except.map_eq_ok, magnitude_eq_ok hds (Nat.zero_le _), and_assoc,
      exists_eq_left, exists_and_left, IsSigned64, Int.ofNat_eq_natCast]
    omega
  | @plus ds hne hds =>
    obtain ⟨c, ds, rfl⟩ := List.exists_cons_of_ne_nil hne
    simp only [parseInt, Except.map_eq_ok, magnitude_eq_ok hds (Nat.zero_le _), and_assoc,
      exists_eq_left, exists_and_left, IsSigned64, Int.ofNat_eq_natCast]
    omega
  | @minus ds hne hds =>
    obtain ⟨c, ds, rfl⟩ := List.exists_cons_of_ne_nil hne
    simp only [parseInt, Except.map_eq_ok, magnitude_eq_ok hds (Nat.zero_le _), and_assoc,
      exists_eq_left, exists_and_left, IsSigned64, Int.ofNat_eq_natCast]
    omega

/-- **The reader of unsigned numbers** reads a numeral as its number or not at all. -/
theorem eq_of_parseNat (h : Numeral cs n) {bound k : Nat} (hread : parseNat bound cs = .ok k) :
    (k : Int) = n := by
  cases h with
  | @digits ds hne hds =>
    obtain ⟨c, ds, rfl⟩ := List.exists_cons_of_ne_nil hne
    have hplus := ne_of_isDigit (hds c List.mem_cons_self) (show '+'.isDigit = false from rfl)
    have hdigits : parseNat bound (c :: ds) = magnitude bound .tooLarge (c :: ds) 0 := by
      unfold parseNat
      split <;> simp_all
    rw [hdigits, magnitude_eq_ok hds (Nat.zero_le _)] at hread
    rw [hread.2]
  | @plus ds hne hds =>
    obtain ⟨c, ds, rfl⟩ := List.exists_cons_of_ne_nil hne
    rw [parseNat, magnitude_eq_ok hds (Nat.zero_le _)] at hread
    · rw [hread.2]
    · exact nofun
  | @minus ds hne hds =>
    have hminus : digit? '-' = none := by decide
    simp [parseNat, magnitude, hminus] at hread

/-! ## What is read -/

theorem isDigit_of_magnitude {bound value m : Nat} {beyond : IntegerFault} {ds : List Char}
    (h : magnitude bound beyond ds value = .ok m) : ∀ c ∈ ds, c.isDigit = true := by
  induction ds generalizing value with
  | nil => exact List.forall_mem_nil _
  | cons c ds ih =>
    rw [magnitude] at h
    split at h
    · cases h
    · next d hd =>
      split at h
      · exact List.forall_mem_cons.2 ⟨isDigit_of_digit? (hd ▸ rfl), ih h⟩
      · cases h

/-- What is read as a whole number is a numeral of it. -/
theorem of_parseInt {bound : Nat} (h : parseInt bound cs = .ok n) : Numeral cs n := by
  unfold parseInt at h
  split at h
  case h_1 | h_2 | h_3 => cases h
  all_goals
    obtain ⟨m, hm, rfl⟩ := Except.map_eq_ok.1 h
    have hds := isDigit_of_magnitude hm
    obtain ⟨-, rfl⟩ := (magnitude_eq_ok hds (Nat.zero_le _)).1 hm
  · next hne => exact .plus hne hds
  · next hne => exact .minus hne hds
  · next hne _ _ _ _ => exact .digits hne hds

/-- A numeral stands for one number. -/
theorem unique {m : Int} (h : Numeral cs n) (h' : Numeral cs m) : n = m := by
  have hplus : '+'.isDigit ≠ true := by decide
  have hminus : '-'.isDigit ≠ true := by decide
  cases h with
  | digits hne hds =>
    cases h' with
    | digits hne' hds' => rfl
    | plus hne' hds' => exact absurd (hds _ List.mem_cons_self) hplus
    | minus hne' hds' => exact absurd (hds _ List.mem_cons_self) hminus
  | plus hne hds =>
    cases h' with
    | digits hne' hds' => exact absurd (hds' _ List.mem_cons_self) hplus
    | plus hne' hds' => rfl
  | minus hne hds =>
    cases h' with
    | digits hne' hds' => exact absurd (hds' _ List.mem_cons_self) hminus
    | minus hne' hds' => rfl

/-! ## The reader of floats -/

theorem digitsValue_eq (ds : List Char) :
    Binary64.digitsValue ds = Nat.ofDigitChars 10 ds 0 := by
  have hfold : ∀ value, ds.foldl (fun n c => n * 10 + (c.toNat - '0'.toNat)) value =
      Nat.ofDigitChars 10 ds value := by
    induction ds with
    | nil => simp
    | cons c ds ih =>
      intro value
      rw [List.foldl_cons, ih, Nat.ofDigitChars_cons, Nat.mul_comm]
  exact hfold 0

theorem unsigned?_digits {ds : List Char} (hne : ds ≠ []) (hds : ∀ c ∈ ds, c.isDigit = true)
    (negative : Bool) : Binary64.unsigned? negative ds =
      some (Binary64.ofDecimal negative (Nat.ofDigitChars 10 ds 0) 0) := by
  have hleading : Binary64.leadingDigits ds = (ds, []) := by
    rw [Binary64.leadingDigits, List.takeWhile_eq_self_iff.2 hds, List.dropWhile_eq_nil_iff.2 hds]
  have hempty : ds.isEmpty = false := List.isEmpty_eq_false_iff.2 hne
  simp [Binary64.unsigned?, hleading, Binary64.exponent?, hempty, digitsValue_eq]

theorem toLower_of_isDigit {c : Char} (h : c.isDigit = true) : c.toLower = c := by
  have hrange := toNat_of_isDigit h
  exact Text.forall_ascii (P := fun c => c.isDigit = true → c.toLower = c) (by decide)
    (by omega) h

theorem ofText?_of_leadingSign {ds : List Char} {negative : Bool}
    (hsign : Binary64.leadingSign cs = (negative, ds)) (hne : ds ≠ [])
    (hds : ∀ c ∈ ds, c.isDigit = true) :
    Binary64.ofText? cs = some (Binary64.ofDecimal negative (Nat.ofDigitChars 10 ds 0) 0) := by
  have hlower : ds.map Char.toLower = ds :=
    (List.map_congr_left fun c hc => toLower_of_isDigit (hds c hc)).trans (List.map_id ds)
  have hword : ∀ word : String, (∃ c ∈ word.toList, c.isDigit = false) →
      String.ofList ds ≠ word := by
    rintro word ⟨c, hc, hdigit⟩ rfl
    rw [String.toList_ofList] at hc
    rw [hds c hc] at hdigit
    cases hdigit
  rw [Binary64.ofText?, hsign]
  simp only [hlower]
  split
  · next h => exact absurd h (hword _ ⟨'i', by decide, rfl⟩)
  · next h => exact absurd h (hword _ ⟨'i', by decide, rfl⟩)
  · next h => exact absurd h (hword _ ⟨'n', by decide, rfl⟩)
  · exact unsigned?_digits hne hds negative

/-- **The reader of floats** reads a numeral as the float nearest to the number. The sign of zero is
that of the numeral. -/
theorem ofText?_eq (h : Numeral cs n) (hn : n ≠ 0) :
    Binary64.ofText? cs = some (Binary64.ofDecimal (n < 0) n.natAbs 0) := by
  cases h with
  | @digits ds hne hds =>
    obtain ⟨c, rest, rfl⟩ := List.exists_cons_of_ne_nil hne
    have hplus := ne_of_isDigit (hds c List.mem_cons_self) (show '+'.isDigit = false from rfl)
    have hminus := ne_of_isDigit (hds c List.mem_cons_self) (show '-'.isDigit = false from rfl)
    have hsign : Binary64.leadingSign (c :: rest) = (false, c :: rest) := by
      unfold Binary64.leadingSign
      split <;> simp_all
    rw [ofText?_of_leadingSign hsign hne hds, Int.natAbs_natCast,
      decide_eq_false (Int.not_lt.2 (Int.natCast_nonneg _))]
  | @plus ds hne hds =>
    have hsign : Binary64.leadingSign ('+' :: ds) = (false, ds) := rfl
    rw [ofText?_of_leadingSign hsign hne hds, Int.natAbs_natCast,
      decide_eq_false (Int.not_lt.2 (Int.natCast_nonneg _))]
  | @minus ds hne hds =>
    have hsign : Binary64.leadingSign ('-' :: ds) = (true, ds) := rfl
    rw [ofText?_of_leadingSign hsign hne hds, Int.natAbs_neg, Int.natAbs_natCast,
      decide_eq_true (by omega)]

end Numeral

theorem numeral_toString (n : Int) : Numeral (toString n).toList n := by
  have hds : ∀ c ∈ Nat.toDigits 10 n.natAbs, c.isDigit = true := fun c => isDigit_of_mem_digits
  have hvalue : Nat.ofDigitChars 10 (Nat.toDigits 10 n.natAbs) 0 = n.natAbs :=
    Nat.ofDigitChars_ten_toDigits
  rw [toList_toString]
  split
  · next hn =>
    have h := Numeral.digits Nat.toDigits_ne_nil hds
    rwa [hvalue, Int.natAbs_of_nonneg hn] at h
  · next hn =>
    have h := Numeral.minus Nat.toDigits_ne_nil hds
    rwa [hvalue, Int.ofNat_natAbs_of_nonpos (by omega), Int.neg_neg] at h

/-! ## What is not read -/

section Refusal

variable {bound : Nat} {beyond fault : IntegerFault} {cs : List Char}

/-- The number that the digits in front of any other character stand for. -/
def leading (cs : List Char) : Nat := Nat.ofDigitChars 10 (cs.takeWhile Char.isDigit) 0

/-- Why a text is not read as a number from `-(bound + 1)` to `bound`: the digits in front leave the
range, whatever follows them, or else there is something that is no digit. -/
def refusal (bound : Nat) : List Char → IntegerFault
  | [] => .empty
  | '-' :: cs => if bound + 1 < leading cs then .tooSmall else .invalidDigit
  | '+' :: cs => if bound < leading cs then .tooLarge else .invalidDigit
  | cs => if bound < leading cs then .tooLarge else .invalidDigit

theorem isDigit_of_digit?_eq_none {c : Char} (h : digit? c = none) : c.isDigit = false := by
  refine Bool.eq_false_iff.2 fun hc => ?_
  rw [digit?_of_isDigit hc] at h
  cases h

/-- Reading stops at the digit that leaves the bound or at the first character that is no digit,
whichever comes first. -/
theorem eq_of_magnitude_eq_error {value : Nat} (hvalue : value ≤ bound)
    (h : magnitude bound beyond cs value = .error fault) :
    fault = if bound < Nat.ofDigitChars 10 (cs.takeWhile Char.isDigit) value then beyond
      else .invalidDigit := by
  induction cs generalizing value with
  | nil => cases h
  | cons c cs ih =>
    rw [magnitude] at h
    split at h
    · next hd =>
      rw [List.takeWhile_cons_of_neg (by simp [isDigit_of_digit?_eq_none hd]),
        Nat.ofDigitChars_nil, if_neg (Nat.not_lt.2 hvalue)]
      exact (Except.error.inj h).symm
    · next d hd =>
      have hc : c.isDigit = true := isDigit_of_digit? (hd ▸ rfl)
      obtain rfl : c.toNat - '0'.toNat = d := Option.some.inj ((digit?_of_isDigit hc).symm.trans hd)
      rw [List.takeWhile_cons_of_pos hc, Nat.ofDigitChars_cons, Nat.mul_comm]
      split at h
      · next hle => exact ih hle h
      · next hnot =>
        have hle := le_ofDigitChars (value * 10 + (c.toNat - '0'.toNat)) (cs.takeWhile Char.isDigit)
        rw [if_pos (by omega)]
        exact (Except.error.inj h).symm

theorem eq_refusal_of_parseInt (h : parseInt bound cs = .error fault) :
    fault = refusal bound cs := by
  unfold parseInt at h
  split at h
  -- No character at all, and a sign that stands alone.
  · cases h
    rfl
  · cases h
    simp [refusal, leading]
  · cases h
    simp [refusal, leading]
  -- A plus sign, a minus sign and no sign in front of something.
  · exact eq_of_magnitude_eq_error (Nat.zero_le _) (Except.map_eq_error.1 h)
  · exact eq_of_magnitude_eq_error (Nat.zero_le _) (Except.map_eq_error.1 h)
  · rw [refusal]
    · exact eq_of_magnitude_eq_error (Nat.zero_le _) (Except.map_eq_error.1 h)
    all_goals assumption

/-- **The reader of signed numbers** reads the numerals of 64 bits. -/
theorem parseInt_iff {n : Int} :
    parseInt maxSigned64 cs = .ok n ↔ Numeral cs n ∧ IsSigned64 n :=
  ⟨fun h => ⟨.of_parseInt h, isSigned64_of_parseInt h⟩, fun h => h.1.parseInt_eq_ok.2 ⟨h.2, rfl⟩⟩

/-- **The reader of signed numbers** refuses all other texts. -/
theorem parseInt_eq_error :
    parseInt maxSigned64 cs = .error fault ↔
      (¬ ∃ n, Numeral cs n ∧ IsSigned64 n) ∧ fault = refusal maxSigned64 cs := by
  constructor
  · intro h
    refine ⟨?_, eq_refusal_of_parseInt h⟩
    rintro ⟨n, hn⟩
    cases h.symm.trans (parseInt_iff.2 hn)
  · rintro ⟨hnone, rfl⟩
    cases hread : parseInt maxSigned64 cs with
    | error fault => rw [eq_refusal_of_parseInt hread]
    | ok n => exact absurd ⟨n, parseInt_iff.1 hread⟩ hnone

end Refusal

end Integer

end Accounts

import Accounts.Text.Lowercase

/-!
# What lower case leaves

The lower-case form of a text has no capital letter of ASCII, and a text of ASCII without capital
letters is its own lower-case form.

* `isUpper_of_mem_lowercase` — no capital letter is left.
* `lowercase_eq_self` — what stays as it is.
-/

namespace Accounts.Text

theorem isUpper_iff {c : Char} : c.isUpper = true ↔ 65 ≤ c.toNat ∧ c.toNat ≤ 90 := by
  show decide (65 ≤ c.val ∧ c.val ≤ 90) = true ↔ _
  rw [decide_eq_true_iff, UInt32.le_iff_toNat_le, UInt32.le_iff_toNat_le]
  rfl

theorem isLower_iff {c : Char} : c.isLower = true ↔ 97 ≤ c.toNat ∧ c.toNat ≤ 122 := by
  show (decide (97 ≤ c.val) && decide (c.val ≤ 122)) = true ↔ _
  rw [Bool.and_eq_true, decide_eq_true_iff, decide_eq_true_iff, UInt32.le_iff_toNat_le,
    UInt32.le_iff_toNat_le]
  rfl

/-- What holds of the first characters by number holds of ASCII. -/
theorem forall_ascii {P : Char → Prop} (h : ∀ n < 0x80, P (Char.ofNat n)) {c : Char}
    (hc : c.toNat < 0x80) : P c := by
  have := h c.toNat hc
  rwa [Char.ofNat_toNat] at this

/-! ## Single characters -/

/-- Beyond ASCII, no letter has a capital letter of ASCII as its lower-case form. -/
theorem le_target_of_mem_lowercaseRanges {first last step target : Nat}
    (h : (first, last, step, target) ∈ lowercaseRanges) : 0x61 ≤ target := by
  have hall : lowercaseRanges.toList.all (fun range => 0x61 ≤ range.2.2.2) = true := by
    decide +kernel
  exact of_decide_eq_true (List.all_eq_true.1 hall _ (Array.mem_toList_iff.2 h))

/-- What is no code point is taken for zero. -/
theorem toNat_ofNat (n : Nat) : (Char.ofNat n).toNat = n ∨ (Char.ofNat n).toNat = 0 := by
  by_cases h : n.isValidChar
  · have hn : Char.ofNat n = Char.ofNatAux n h := dif_pos h
    exact .inl (hn ▸ rfl)
  · have hn : Char.ofNat n = Char.ofNat 0 := dif_neg h
    exact .inr (hn ▸ rfl)

theorem isUpper_ofNat {n : Nat} (h : 0x61 ≤ n) : (Char.ofNat n).isUpper = false := by
  refine Bool.eq_false_iff.2 fun hupper => ?_
  have hrange := isUpper_iff.1 hupper
  obtain hn | hn := toNat_ofNat n <;> omega

theorem isUpper_lowercaseChar (c : Char) : (lowercaseChar c).isUpper = false := by
  rw [lowercaseChar]
  split
  · next hc => exact forall_ascii (P := fun c => c.toLower.isUpper = false) (by decide) hc
  · next hc =>
    split
    · next first last step target hrange =>
      have := le_target_of_mem_lowercaseRanges (Array.mem_of_find?_eq_some hrange)
      exact isUpper_ofNat (by omega)
    · refine Bool.eq_false_iff.2 fun hupper => ?_
      have hrange := isUpper_iff.1 hupper
      omega

theorem lowercaseChar_eq_self {c : Char} (hc : c.toNat < 0x80) (hupper : c.isUpper = false) :
    lowercaseChar c = c := by
  rw [lowercaseChar, if_pos hc]
  exact forall_ascii (P := fun c => c.isUpper = false → c.toLower = c) (by decide) hc hupper

/-! ## Texts -/

theorem isUpper_of_mem_lowercaseAfter {before cs : List Char} {c : Char}
    (h : c ∈ lowercaseAfter before cs) : c.isUpper = false := by
  induction cs generalizing before with
  | nil => cases h
  | cons d cs ih =>
    obtain h | h := List.mem_append.1 h
    · split at h
      · obtain rfl | rfl : c = 'i' ∨ c = '\u0307' := by simpa using h
        · decide
        · decide
      · split at h
        · split at h
          · rw [List.mem_singleton.1 h]
            decide
          · rw [List.mem_singleton.1 h]
            decide
        · rw [List.mem_singleton.1 h]
          exact isUpper_lowercaseChar d
    · exact ih h

/-- **No capital letter of ASCII is left.** -/
theorem isUpper_of_mem_lowercase {s : String} {c : Char} (h : c ∈ (lowercase s).toList) :
    c.isUpper = false := by
  rw [lowercase, String.toList_ofList] at h
  exact isUpper_of_mem_lowercaseAfter h

theorem lowercaseAfter_eq_self {before cs : List Char} (hascii : ∀ c ∈ cs, c.toNat < 0x80)
    (hupper : ∀ c ∈ cs, c.isUpper = false) : lowercaseAfter before cs = cs := by
  induction cs generalizing before with
  | nil => rfl
  | cons c cs ih =>
    have hc := hascii c List.mem_cons_self
    have hdot : c ≠ '\u0130' := fun h => absurd (h ▸ hc) (by decide)
    have hsigma : c ≠ '\u03a3' := fun h => absurd (h ▸ hc) (by decide)
    have hrest : lowercaseAfter (c :: before) cs = cs :=
      ih (fun d hd => hascii d (List.mem_cons_of_mem _ hd))
        fun d hd => hupper d (List.mem_cons_of_mem _ hd)
    simp only [lowercaseAfter, if_neg hdot, if_neg hsigma, hrest,
      lowercaseChar_eq_self hc (hupper c List.mem_cons_self), List.singleton_append]

/-- **What stays as it is:** a text of ASCII without capital letters. -/
theorem lowercase_eq_self {s : String} (hascii : ∀ c ∈ s.toList, c.toNat < 0x80)
    (hupper : ∀ c ∈ s.toList, c.isUpper = false) : lowercase s = s := by
  rw [lowercase, lowercaseAfter_eq_self hascii hupper, String.ofList_toList]

end Accounts.Text

import Accounts.Proofs.Configuration.Precedence
import Accounts.Proofs.Number.Numeral
import Accounts.Proofs.Number.Rounding

/-!
# Numbers that are written down

A number in a file, in whatever form, becomes the field or nothing does. So does a number from the
environment that has 64 bits with its sign. A larger one is taken for a float there; it is rounded,
and clamped to a range of 64 bits, so that another number may stand in the field without a word.

* `KeyedSetting.clamped_signed`, `KeyedSetting.clamped_unsigned` — what is left of a large number.
* `Environment.scalar_numeral` — what a number from the environment is taken for.
* `Configuration.load_number` — the field for a number in a file or from the environment.
* `Configuration.not_as_written` — a number that is altered.
-/

namespace Accounts

open Integer

namespace KeyedSetting

open Binary64

variable {m : Nat} {low high : Int}

/-- A large positive number is clamped to the upper end, or rounded. -/
theorem clamped_positive (h : Nat.pow 2 52 ≤ m) (hlow : low ≤ 0) (hhigh : 0 ≤ high)
    (hbound : high < (Nat.pow 2 64 : Nat)) :
    clamped low high (ofDecimal false m 0) = min high (rounded m : Nat) := by
  obtain ⟨hinfinite, hlog⟩ | ⟨q, e, hfinite, hvalue⟩ := ofDecimal_large false h
  · have hrounded : ((Nat.pow 2 64 : Nat) : Int) ≤ (rounded m : Nat) :=
      Int.ofNat_le.2 (pow_le_rounded h (by omega))
    have hclamped : clamped low high (.infinite false) = high := rfl
    rw [hinfinite, hclamped]
    omega
  · have hclamped : clamped low high (.finite false q e) =
        max low (min high (rounded m : Nat)) := by
      rw [clamped, round?_finite, hvalue]
      · rfl
      · exact fun _ => nofun
    rw [hfinite, hclamped]
    omega

/-- A large negative number is clamped to the lower end, or rounded. -/
theorem clamped_negative (h : Nat.pow 2 52 ≤ m) (hhigh : 0 ≤ high)
    (hlow : -((Nat.pow 2 64 : Nat) : Int) < low) :
    clamped low high (ofDecimal true m 0) = max low (-((rounded m : Nat) : Int)) := by
  obtain ⟨hinfinite, hlog⟩ | ⟨q, e, hfinite, hvalue⟩ := ofDecimal_large true h
  · have hrounded : ((Nat.pow 2 64 : Nat) : Int) ≤ (rounded m : Nat) :=
      Int.ofNat_le.2 (pow_le_rounded h (by omega))
    have hclamped : clamped low high (.infinite true) = low := rfl
    rw [hinfinite, hclamped]
    omega
  · have hclamped : clamped low high (.finite true q e) =
        max low (min high (-((rounded m : Nat) : Int))) := by
      rw [clamped, round?_finite, hvalue]
      · rfl
      · exact fun _ => nofun
    rw [hfinite, hclamped]
    omega

/-- **Beyond 64 bits, as a signed number:** one of the ends of the range. -/
theorem clamped_signed (h : Nat.pow 2 63 ≤ m) (negative : Bool) :
    clamped (-9223372036854775808) Integer.maxSigned64 (ofDecimal negative m 0) =
      if negative then (-9223372036854775808 : Int) else Integer.maxSigned64 := by
  have hlarge : Nat.pow 2 52 ≤ m := Nat.le_trans (by decide) h
  have hrounded : Nat.pow 2 63 ≤ rounded m := pow_le_rounded hlarge (le_log2_of_pow_le h)
  have hpow63 : Nat.pow 2 63 = 9223372036854775808 := by decide
  have hpow64 : Nat.pow 2 64 = 18446744073709551616 := by decide
  have hmax : Integer.maxSigned64 = 9223372036854775807 := rfl
  cases negative with
  | true =>
    rw [clamped_negative hlarge (by omega) (by omega), if_pos rfl]
    omega
  | false =>
    rw [clamped_positive hlarge (by omega) (by omega) (by omega), if_neg Bool.false_ne_true]
    omega

/-- **Beyond 63 bits, as an unsigned number:** zero, or a multiple of 2048, or the upper end. -/
theorem clamped_unsigned (h : Nat.pow 2 63 ≤ m) (negative : Bool) :
    (clamped 0 Integer.maxUnsigned64 (ofDecimal negative m 0)).toNat =
      if negative then 0 else min Integer.maxUnsigned64 (roundQuotient m 2048 * 2048) := by
  have hlarge : Nat.pow 2 52 ≤ m := Nat.le_trans (by decide) h
  have hmin := min_rounded h
  have hpow64 : Nat.pow 2 64 = 18446744073709551616 := by decide
  have hmax : Integer.maxUnsigned64 = 18446744073709551615 := rfl
  cases negative with
  | true =>
    rw [clamped_negative hlarge (by omega) (by omega), if_pos rfl]
    omega
  | false =>
    rw [clamped_positive hlarge (by omega) (by omega) (by omega), if_neg Bool.false_ne_true]
    omega

end KeyedSetting

/-! ## What is read as a number -/

/-- **What a number from the environment is taken for:** the number, or a float if it is too
large. -/
theorem Environment.scalar_numeral {text : String} {n : Int} (h : Numeral text.toList n) :
    scalar text = if IsSigned64 n then .integer n
      else .float (Binary64.ofDecimal (n < 0) n.natAbs 0) := by
  have htrue : text ≠ "true" :=
    h.ne_of_mem (show 't' ∈ "true".toList by decide) (by decide) (by decide) (by decide)
  have hfalse : text ≠ "false" :=
    h.ne_of_mem (show 'f' ∈ "false".toList by decide) (by decide) (by decide) (by decide)
  rw [scalar, h.lowercase]
  split
  · next hword => exact absurd rfl htrue
  · next hword => exact absurd rfl hfalse
  · split
    · next k hk =>
      obtain ⟨hn, rfl⟩ := h.parseInt_eq_ok.1 hk
      exact (if_pos hn).symm
    · next fault hfault =>
      have hn : ¬ IsSigned64 n := fun hn => by
        rw [h.parseInt_eq_ok.2 ⟨hn, rfl⟩] at hfault
        cases hfault
      have hzero : n ≠ 0 := by
        rintro rfl
        exact hn (by decide)
      rw [h.ofText?_eq hzero]
      exact (if_neg hn).symm

theorem KeyedSetting.truthWord?_numeral {s : String} {n : Int} (h : Numeral s.toList n) :
    truthWord? s = none := by
  have hne : ∀ word ∈ ["true", "on", "yes"] ++ ["false", "off", "no"], s ≠ word := by
    intro word hword
    have hletter : ∀ word ∈ ["true", "on", "yes"] ++ ["false", "off", "no"],
        'o' ∈ word.toList ∨ 'e' ∈ word.toList := by decide
    obtain hc | hc := hletter word hword
    · exact h.ne_of_mem hc (by decide) (by decide) (by decide)
    · exact h.ne_of_mem hc (by decide) (by decide) (by decide)
  rw [truthWord?, if_neg, if_neg]
  · exact fun hmem => hne s (List.mem_append_right _ (List.contains_iff_mem.1 hmem)) rfl
  · exact fun hmem => hne s (List.mem_append_left _ (List.contains_iff_mem.1 hmem)) rfl

namespace Leaf.Kind

variable {a : Scalar} {bits : Nat} {m : Int}

theorem convert_natural : (natural bits).convert a = some (.integer m) ↔
    ∃ k : Nat, KeyedSetting.unsigned ⟨"", .scalar a none⟩ = .ok k ∧ k < Nat.pow 2 bits ∧
      (k : Int) = m := by
  simp only [convert, read, Except.toOption_eq_some, Except.map_eq_ok, natural_eq_ok, and_assoc,
    Scalar.integer.injEq]

theorem convert_integer : integer.convert a = some (.integer m) ↔
    KeyedSetting.integer ⟨"", .scalar a none⟩ = .ok m := by
  simp only [convert, read, Except.toOption_eq_some, Except.map_eq_ok, Scalar.integer.injEq,
    exists_eq_right]

end Leaf.Kind

namespace NumericSetting

variable {f : NumericSetting} {n m : Int} {s : String}

/-- What is left in the field of a number that the environment gives. -/
def kept (f : NumericSetting) (n : Int) : Int :=
  if IsSigned64 n then n
  else
    match f.bits? with
    | some _ =>
      if n < 0 then 0
      else (min maxUnsigned64 (Binary64.roundQuotient n.toNat 2048 * 2048) : Nat)
    | none => if n < 0 then -9223372036854775808 else maxSigned64

theorem eq_of_convert_integer (h : (Leaf.number f).kind.convert (.integer n) = some (.integer m)) :
    m = n := by
  rw [Leaf.kind] at h
  split at h
  · obtain ⟨k, hk, -, rfl⟩ := Leaf.Kind.convert_natural.1 h
    simp only [KeyedSetting.unsigned] at hk
    split at hk
    · cases hk
    · next hn =>
      rw [← Except.ok.inj hk]
      exact Int.toNat_of_nonneg (Int.not_lt.1 hn)
  · exact (Except.ok.inj (Leaf.Kind.convert_integer.1 h)).symm

theorem eq_of_convert_text (hs : Numeral s.toList n)
    (h : (Leaf.number f).kind.convert (.text s) = some (.integer m)) : m = n := by
  have hword := KeyedSetting.truthWord?_numeral hs
  rw [Leaf.kind] at h
  split at h
  · obtain ⟨k, hk, -, rfl⟩ := Leaf.Kind.convert_natural.1 h
    simp only [KeyedSetting.unsigned, Leaf.Kind.convert_scalar, hs.lowercase, hword] at hk
    split at hk
    · next k' hread =>
      rw [← Except.ok.inj hk]
      exact hs.eq_of_parseNat hread
    · cases hk
  · have hread := Leaf.Kind.convert_integer.1 h
    simp only [KeyedSetting.integer, Leaf.Kind.convert_scalar, hs.lowercase, hword] at hread
    split at hread
    · next k hk =>
      rw [← Except.ok.inj hread]
      exact (hs.parseInt_eq_ok.1 hk).2
    · cases hread

/-- **A number from the environment.** -/
theorem eq_kept_of_convert (hs : Numeral s.toList n)
    (h : (Leaf.number f).kind.convert (Environment.scalar s) = some (.integer m)) :
    m = f.kept n := by
  rw [Environment.scalar_numeral hs] at h
  rw [kept]
  split at h
  · next hn =>
    rw [if_pos hn]
    exact eq_of_convert_integer h
  · next hn =>
    have hlarge : Nat.pow 2 63 ≤ n.natAbs := by
      have hpow : Nat.pow 2 63 = 9223372036854775808 := by decide
      rw [IsSigned64] at hn
      omega
    rw [if_neg hn]
    rw [Leaf.kind] at h
    cases hbits : f.bits? with
    | some bits =>
      rw [hbits] at h
      obtain ⟨k, hk, -, rfl⟩ := Leaf.Kind.convert_natural.1 h
      simp only [KeyedSetting.unsigned, Leaf.Kind.convert_scalar,
        KeyedSetting.clamped_unsigned hlarge] at hk
      rw [← Except.ok.inj hk]
      by_cases hneg : n < 0
      · simp [hneg]
      · have hnat : n.natAbs = n.toNat := by omega
        simp [hneg, hnat]
    | none =>
      rw [hbits] at h
      have hread := Leaf.Kind.convert_integer.1 h
      simp only [KeyedSetting.integer, Leaf.Kind.convert_scalar,
        KeyedSetting.clamped_signed hlarge] at hread
      rw [← Except.ok.inj hread]
      by_cases hneg : n < 0 <;> simp [hneg]

/-- What an unsigned field can hold. -/
theorem lt_of_convert {a : Scalar} {bits : Nat} (hbits : f.bits? = some bits)
    (h : (Leaf.number f).kind.convert a = some (.integer m)) : m < (Nat.pow 2 bits : Nat) := by
  rw [Leaf.kind, hbits] at h
  obtain ⟨k, -, hk, rfl⟩ := Leaf.Kind.convert_natural.1 h
  exact Int.ofNat_lt.2 hk

/-- What is left of a large positive number is a large number. -/
theorem le_kept {bits : Nat} (hbits : f.bits? = some bits) (hn : 9223372036854775807 < n) :
    9223372036854775808 ≤ f.kept n := by
  have hnot : ¬ IsSigned64 n := by
    rw [IsSigned64]
    omega
  have hneg : ¬ n < 0 := by omega
  have hquotient : n.toNat / 2048 ≤ Binary64.roundQuotient n.toNat 2048 :=
    Binary64.div_le_roundQuotient
  have hmax : maxUnsigned64 = 18446744073709551615 := rfl
  simp only [kept, if_neg hnot, hbits, if_neg hneg]
  omega

/-- **A number that is altered** is beyond 64 bits with a sign. If it is positive, the field has 64
bits itself. -/
theorem of_kept_ne {a : Scalar} (h : (Leaf.number f).kind.convert a = some (.integer (f.kept n)))
    (hne : f.kept n ≠ n) : ¬ IsSigned64 n ∧ (0 ≤ n → f.bits? = none ∨ f.bits? = some 64) := by
  have hnot : ¬ IsSigned64 n := fun hn => hne (if_pos hn)
  refine ⟨hnot, fun hpos => ?_⟩
  cases hbits : f.bits? with
  | none => exact .inl rfl
  | some bits =>
    have hlarge : 9223372036854775807 < n := by
      rw [IsSigned64] at hnot
      omega
    have hkept := le_kept hbits hlarge
    have hfits := lt_of_convert hbits h
    have hpow : Nat.pow 2 16 = 65536 ∧ Nat.pow 2 32 = 4294967296 := by decide
    have hwidths : bits = 16 ∨ bits = 32 ∨ bits = 64 := by
      cases f <;> simp_all [bits?]
    obtain rfl | rfl | rfl := hwidths
    · omega
    · omega
    · exact .inr rfl

/-- What a setting says about the cost of a password. -/
def cost? (f : NumericSetting) (cost : Password.Cost) : Option Nat :=
  match f with
  | memory => some cost.memory
  | iterations => some cost.iterations
  | parallelism => some cost.parallelism
  | _ => none

end NumericSetting

namespace Configuration

/-- Passwords are hashed at the costs of the configuration. -/
theorem cost?_eq {f : NumericSetting} {c : Configuration} {settings : AuthSettings} {k : Nat}
    (hsettings : c.authSettings = .ok settings) (hk : f.cost? settings.cost = some k) :
    (k : Int) = f.get c := by
  simp only [authSettings, Except.bind_eq_ok] at hsettings
  obtain ⟨_, -, _, -, h⟩ := hsettings
  cases h
  cases f <;> cases hk <;> rfl

/-- **The field for a number that is written down.** A number in a file is in the field, whether it
is written as a number or as a text, and so is a number of 64 bits with a sign from the environment.
What is altered is a larger number from the environment; for the costs of passwords it is a negative
one. -/
theorem load_number (f : NumericSetting) {directory : Directory} {environment : Environment}
    {stack : List (Named Setting)} {a : Scalar} {o : Option String} {c : Configuration}
    (hlayers : layers directory environment = .ok stack)
    (hwins : f.place.get? (stack.foldl Setting.overlay .empty) = some (.scalar a o))
    (hload : load directory environment = .ok c) :
    (∀ n, (a = .integer n ∨ ∃ s, a = .text s ∧ Numeral s.toList n) → f.get c = n) ∧
      (∀ s n, a = Environment.scalar s → Numeral s.toList n → f.get c = f.kept n ∧
        (f.get c ≠ n → ¬ IsSigned64 n ∧ (0 ≤ n → f.bits? = none ∨ f.bits? = some 64))) ∧
      ∀ settings k, c.authSettings = .ok settings → f.cost? settings.cost = some k →
        (k : Int) = f.get c := by
  have hread : ofSetting (stack.foldl Setting.overlay .empty) = .ok c := by
    rw [load, hlayers, Except.ok_bind, Except.mapError_eq_ok] at hload
    exact hload
  have hconvert : (Leaf.number f).kind.convert a = some (.integer (f.get c)) :=
    Leaf.Kind.read_scalar.1 (read_of_ofSetting hread (f := .number f) hwins)
  refine ⟨?_, ?_, fun settings k => cost?_eq⟩
  · rintro n (rfl | ⟨s, rfl, hs⟩)
    · exact NumericSetting.eq_of_convert_integer hconvert
    · exact NumericSetting.eq_of_convert_text hs hconvert
  · rintro s n rfl hs
    have hkept := NumericSetting.eq_kept_of_convert hs hconvert
    refine ⟨hkept, fun hne => ?_⟩
    rw [hkept] at hconvert hne
    exact NumericSetting.of_kept_ne hconvert hne

/-- A large number for a setting of 64 bits, in an environment that has no more than it must. -/
theorem exists_large : ∃ (environment : Environment) (stack : List (Named Setting))
    (o : Option String) (c : Configuration),
    layers ⟨[]⟩ environment = .ok stack ∧
      NumericSetting.acquireTimeout.place.get? (stack.foldl Setting.overlay .empty) =
        some (.scalar (Environment.scalar "9223372036854775809") o) ∧
      Numeral "9223372036854775809".toList 9223372036854775809 ∧
      load ⟨[]⟩ environment = .ok c ∧
      NumericSetting.acquireTimeout.get c = 9223372036854775808 := by
  let environment : Environment := [("DATABASE__URL", "x"), ("JWT__ACCESS_SECRET", "a"),
    ("JWT__REFRESH_SECRET", "r"), ("JWT__CURSOR_SECRET", "c"),
    ("DATABASE__ACQUIRE_TIMEOUT_SECS", "9223372036854775809")]
  have hfile : ∀ name ∈ ["config/default", "config/" ++ runMode environment],
      Directory.layer ⟨[]⟩ name = .ok [] := by
    intro name hname
    have hfind : ∀ name ∈ ["config/default", "config/" ++ runMode environment],
        Directory.find? ⟨[]⟩ name = none := by decide +kernel
    rw [Directory.layer, hfind name hname]
  have hsources : Sources Leaf.Plain ⟨[]⟩ environment [] [] :=
    ⟨hfile _ (by simp), hfile _ (by simp), by simp, by simp, by decide +kernel, by decide +kernel⟩
  have hwinner : (Leaf.number .acquireTimeout).winner environment [] [] =
      some (Environment.scalar "9223372036854775809") := by decide +kernel
  obtain ⟨stack, o, hlayers, hwins⟩ := hsources.exists_get?_of_winner hwinner
  have hload : load ⟨[]⟩ environment = .ok ⟨⟨"x", 5, 9223372036854775808⟩, ⟨8080, 30, true⟩,
      ⟨"account-service", "a", "r", "c", 15, 72⟩, ⟨65536, 3, 2⟩⟩ :=
    Except.toOption_eq_some.1 (by decide +kernel)
  have hvalue : ((Nat.ofDigitChars 10 "9223372036854775809".toList 0 : Nat) : Int) =
      9223372036854775809 := by decide
  exact ⟨environment, stack, o, _, hlayers, hwins,
    hvalue ▸ Numeral.digits (by decide) (List.all_eq_true.1 (by decide)), hload, rfl⟩

/-- One more than a power of two loses the one. -/
theorem load_number_large : ∃ (environment : Environment) (c : Configuration),
    load ⟨[]⟩ environment = .ok c ∧
      NumericSetting.acquireTimeout.get c =
        NumericSetting.acquireTimeout.kept 9223372036854775809 ∧
      NumericSetting.acquireTimeout.get c ≠ 9223372036854775809 ∧
      ¬ IsSigned64 9223372036854775809 := by
  obtain ⟨environment, stack, o, c, hlayers, hwins, hs, hload, hget⟩ := exists_large
  obtain ⟨hkept, haltered⟩ :=
    (load_number .acquireTimeout hlayers hwins hload).2.1 _ _ rfl hs
  have hne : NumericSetting.acquireTimeout.get c ≠ 9223372036854775809 := by
    rw [hget]
    decide
  exact ⟨environment, c, hload, hkept, hne, (haltered hne).1⟩

/-- **A number that is altered** without an error. -/
theorem not_as_written : ¬ ∀ (f : NumericSetting) (directory : Directory)
    (environment : Environment) (stack : List (Named Setting)) (s : String) (n : Int)
    (o : Option String) (c : Configuration),
    layers directory environment = .ok stack →
    f.place.get? (stack.foldl Setting.overlay .empty) =
      some (.scalar (Environment.scalar s) o) →
    Numeral s.toList n → load directory environment = .ok c → f.get c = n := by
  intro h
  obtain ⟨environment, stack, o, c, hlayers, hwins, hs, hload, hget⟩ := exists_large
  have hsame := h .acquireTimeout ⟨[]⟩ environment stack _ _ o c hlayers hwins hs hload
  rw [hget] at hsame
  exact absurd hsame (by decide)

end Configuration

end Accounts

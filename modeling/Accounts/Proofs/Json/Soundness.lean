import Accounts.Proofs.Json.Grammar
import Accounts.Proofs.Json.Success
import Accounts.Proofs.Text.Utf8

/-!
# What readers take is JSON

A reader that succeeds has taken a value off the front of its input, by the rules of the grammar.
That holds of texts, of values that are skipped and of records; only of texts it is said what they
mean.

* `spells_of_text`, `content_of_skipText` — texts.
* `Closes` — what is left to come when brackets are open.
* `value_of_skip` — values that are skipped.
* `compound_of_record` — records, given what their fields take.
-/

namespace Accounts.Json.Reader

open Grammar

variable {α σ : Type} {input rest : List UInt8} {a : α} {b : UInt8}

/-! ## White space -/

theorem blank_dropWhile (input : List UInt8) : Blank input (input.dropWhile isSpace) := by
  induction input with
  | nil => exact .nil
  | cons b input ih =>
    rw [List.dropWhile_cons]
    split
    · next hb => exact .cons hb ih
    · exact .nil

theorem blank_of_dropWhile (h : input.dropWhile isSpace = rest) : Blank input rest :=
  h ▸ blank_dropWhile input

/-! ## Texts -/

theorem isDigit_of_digit? (h : (digit? b).isSome = true) : IsDigit b := by
  unfold digit? at h
  split at h
  · next hb => exact hb
  · cases h

theorem hexDigit?_eq_some {n : Nat} (h : hexDigit? b = some n) : IsHexDigit b ∧ hexValue b = n := by
  simp only [hexDigit?, UInt8.le_iff_toNat_le] at h
  simp only [IsHexDigit, IsDigit, hexValue, UInt8.le_iff_toNat_le]
  grind

theorem exists_of_hexUnit {n : Nat} (h : hexUnit input = .ok n rest) :
    ∃ p q r s, input = p :: q :: r :: s :: rest ∧ (∀ b ∈ [p, q, r, s], IsHexDigit b) ∧
      hexNumber [p, q, r, s] = n := by
  unfold hexUnit at h
  split at h
  · next p q r s tail =>
    split at h
    · next hp hq hr hs =>
      cases h
      obtain ⟨hp', rfl⟩ := hexDigit?_eq_some hp
      obtain ⟨hq', rfl⟩ := hexDigit?_eq_some hq
      obtain ⟨hr', rfl⟩ := hexDigit?_eq_some hr
      obtain ⟨hs', rfl⟩ := hexDigit?_eq_some hs
      refine ⟨p, q, r, s, rfl, ?_, by simp [hexNumber]⟩
      simp only [List.forall_mem_cons, List.not_mem_nil, false_imp_iff, implies_true, and_true]
      exact ⟨hp', hq', hr', hs'⟩
    · cases h
  · cases h

theorem mem_zip_escaped {c : UInt8} (h : simpleEscape? b = some c) :
    (b, c) ∈ escapes.zip escaped := by
  have hall : ∀ b, ∀ c ∈ simpleEscape? b, (b, c) ∈ escapes.zip escaped :=
    Utf8.forall_byte (by decide +kernel)
  exact hall b c h

theorem mem_escapes (h : (simpleEscape? b).isSome = true) : b ∈ escapes := by
  obtain ⟨c, hc⟩ := Option.isSome_iff_exists.1 h
  exact (List.of_mem_zip (mem_zip_escaped hc)).1

theorem textByte_eq_ok : textByte input = .ok b rest ↔ input = b :: rest := by
  cases input <;> simp [textByte]

theorem pairByte_eq_ok {wanted : UInt8} :
    pairByte wanted input = .ok () rest ↔ input = wanted :: rest := by
  rw [pairByte, bind_eq_ok]
  simp only [textByte_eq_ok]
  constructor
  · rintro ⟨b, mid, rfl, h⟩
    split at h
    · next hb =>
      cases h
      rw [beq_iff_eq.1 hb]
    · cases h
  · rintro rfl
    exact ⟨wanted, rest, rfl, by simp⟩

theorem spells_of_hexEscape {bytes more last : List UInt8} (h : hexEscape input = .ok bytes rest)
    (hrest : Spells more rest last) :
    Spells (bytes ++ more) (byte '\\' :: byte 'u' :: input) last := by
  rw [hexEscape, bind_eq_ok] at h
  obtain ⟨unit, mid, hunit, h⟩ := h
  obtain ⟨p, q, r, s, rfl, hdigits, rfl⟩ := exists_of_hexUnit hunit
  split at h
  · cases h
  next hlow =>
  split at h
  · next hhigh =>
    obtain ⟨_, _, hescape, h⟩ := bind_eq_ok.1 h
    obtain ⟨_, _, hletter, h⟩ := bind_eq_ok.1 h
    obtain ⟨low, mid', hunit', hpair⟩ := bind_eq_ok.1 h
    rw [pairByte_eq_ok.1 hescape, pairByte_eq_ok.1 hletter]
    obtain ⟨p', q', r', s', rfl, hdigits', rfl⟩ := exists_of_hexUnit hunit'
    split at hpair
    · next hlow' =>
      rw [pure_apply, Outcome.ok.injEq] at hpair
      obtain ⟨rfl, rfl⟩ := hpair
      exact .pair hdigits hdigits' hhigh hlow' hrest
    · cases hpair
  · next hhigh =>
    cases h
    exact .unit hdigits hhigh hlow hrest

theorem spells_of_escape {bytes more last : List UInt8} (h : escape input = .ok bytes rest)
    (hrest : Spells more rest last) : Spells (bytes ++ more) (byte '\\' :: input) last := by
  rw [escape, bind_eq_ok] at h
  obtain ⟨b, tail, hb, h⟩ := h
  obtain rfl := textByte_eq_ok.1 hb
  split at h
  · next hu =>
    obtain rfl := beq_iff_eq.1 hu
    exact spells_of_hexEscape h hrest
  · cases hc : simpleEscape? b with
    | none =>
      rw [hc] at h
      cases h
    | some c =>
      rw [hc] at h
      cases h
      exact .escape (mem_zip_escaped hc) hrest

theorem spells_of_textBytes {fuel : Nat} {read bytes : List UInt8}
    (h : textBytes fuel read input = .ok bytes rest) :
    ∃ after new, rest = byte '"' :: after ∧ bytes = read.reverse ++ new ∧
      Spells new input after := by
  induction fuel generalizing read input with
  | zero => cases h
  | succ fuel ih =>
    cases input with
    | nil => cases h
    | cons b tail =>
      simp only [textBytes] at h
      split at h
      · next hquote =>
        cases h
        obtain rfl := beq_iff_eq.1 hquote
        exact ⟨tail, [], rfl, by simp, .quote⟩
      next hquote =>
      split at h
      · next hescape =>
        obtain rfl := beq_iff_eq.1 hescape
        obtain ⟨found, mid, hread, hmid⟩ := bind_eq_ok.1 h
        obtain ⟨after, new, rfl, rfl, hafter⟩ := ih hmid
        exact ⟨after, found ++ new, rfl, by simp, spells_of_escape hread hafter⟩
      next hescape =>
      split at h
      · cases h
      · next hcontrol =>
        obtain ⟨after, new, rfl, rfl, hafter⟩ := ih h
        exact ⟨after, b :: new, rfl, by simp, .plain (by simpa using hquote)
          (by simpa using hescape) (UInt8.not_lt.1 hcontrol) hafter⟩

/-- **A text that is read**, and what it stands for. -/
theorem spells_of_text {value : String} (h : Reader.text (b :: input) = .ok value rest) :
    Spells (Utf8.encode value) input rest := by
  rw [Reader.text, advance_bind] at h
  obtain ⟨bytes, mid, hbytes, hmid⟩ := bind_eq_ok.1 h
  obtain ⟨after, new, rfl, hnew, hafter⟩ := spells_of_textBytes hbytes
  obtain rfl : bytes = new := by simpa using hnew
  obtain ⟨_, mid, hdecoded, hend⟩ := bind_eq_ok.1 hmid
  unfold decoded at hdecoded
  cases hvalue : Utf8.decode? bytes with
  | none =>
    rw [hvalue] at hdecoded
    cases hdecoded
  | some text =>
    rw [hvalue] at hdecoded
    cases hdecoded
    cases hend
    exact Utf8.decode?_eq_some.1 hvalue ▸ hafter

theorem content_of_text {value : String} (h : Reader.text (b :: input) = .ok value rest) :
    Content input rest := (spells_of_text h).content

/-- **A text that is skipped.** -/
theorem content_of_skipText {fuel : Nat} (h : skipText fuel input = .ok () rest) :
    Content input rest := by
  induction fuel generalizing input with
  | zero => cases h
  | succ fuel ih =>
    cases input with
    | nil => cases h
    | cons b tail =>
      by_cases hquote : b = byte '"'
      · simp only [skipText, hquote, beq_self_eq_true, if_true] at h
        cases h
        exact hquote ▸ .quote
      by_cases hescape : b = byte '\\'
      · simp only [skipText, beq_iff_eq, hquote, if_false, if_pos hescape] at h
        subst hescape
        cases tail with
        | nil => cases h
        | cons e tail =>
          dsimp only at h
          split at h
          · next hu =>
            obtain rfl := hu
            obtain ⟨_, mid, hunit, hmid⟩ := bind_eq_ok.1 h
            obtain ⟨p, q, r, s, rfl, hdigits, -⟩ := exists_of_hexUnit hunit
            exact .unit hdigits (ih hmid)
          split at h
          · next he => exact .escape (mem_escapes he) (ih h)
          · cases h
      · simp only [skipText, beq_iff_eq, hquote, hescape, if_false] at h
        split at h
        · cases h
        · next hcontrol => exact .plain hquote hescape (UInt8.not_lt.1 hcontrol) (ih h)

/-! ## Numbers that are skipped -/

theorem digits_skippedDigits (input : List UInt8) (count : Nat) :
    Digits input (skippedDigits input count).2 ∧ count ≤ (skippedDigits input count).1 ∧
      ((skippedDigits input count).1 = count ∨
        ∃ b tail, input = b :: tail ∧ IsDigit b ∧ Digits tail (skippedDigits input count).2) := by
  fun_induction skippedDigits input count with
  | case1 => exact ⟨.nil, Nat.le_refl _, .inl rfl⟩
  | case2 b tail count hdigit ih =>
    have hb := isDigit_of_digit? hdigit
    exact ⟨.cons hb ih.1, Nat.le_of_succ_le ih.2.1, .inr ⟨b, tail, rfl, hb, ih.1⟩⟩
  | case3 => exact ⟨.nil, Nat.le_refl _, .inl rfl⟩

theorem sign_of_exponentSign {below : Bool} (h : exponentSign input = .ok below rest) :
    Sign input rest := by
  cases input with
  | nil =>
    cases h
    exact .none
  | cons b tail =>
    simp only [exponentSign, beq_iff_eq] at h
    split at h
    · next hb =>
      cases h
      exact hb ▸ .plus
    split at h
    · next hb =>
      cases h
      exact hb ▸ .minus
    · cases h
      exact .none

theorem exists_of_exponentDigit {e : SyntaxFault} {d : Nat}
    (h : exponentDigit e input = .ok d rest) :
    ∃ b, input = b :: rest ∧ IsDigit b := by
  cases input with
  | nil => cases h
  | cons b tail =>
    simp only [exponentDigit] at h
    split at h
    · next hd =>
      cases h
      exact ⟨b, rfl, isDigit_of_digit? (hd ▸ rfl)⟩
    · cases h

theorem exponent_of_skipExponent {e : UInt8} (he : e = byte 'e' ∨ e = byte 'E')
    (h : skipExponent (e :: input) = .ok () rest) : Exponent (e :: input) rest := by
  rw [skipExponent, advance_bind] at h
  obtain ⟨_, mid, hsign, h⟩ := bind_eq_ok.1 h
  obtain ⟨_, mid', hdigit, hdigits⟩ := bind_eq_ok.1 h
  obtain ⟨b, rfl, hb⟩ := exists_of_exponentDigit hdigit
  cases hdigits
  exact .some he (sign_of_exponentSign hsign) hb (digits_skippedDigits mid' 0).1

theorem exponent_of_skipOptionalExponent (h : skipOptionalExponent input = .ok () rest) :
    Exponent input rest := by
  cases input with
  | nil =>
    cases h
    exact .none
  | cons b tail =>
    simp only [skipOptionalExponent, Bool.or_eq_true, beq_iff_eq] at h
    split at h
    · next he => exact exponent_of_skipExponent he h
    · cases h
      exact .none

theorem of_skipFraction (h : skipFraction input = .ok () rest) :
    ∃ mid, Fraction input mid ∧ Exponent mid rest := by
  cases input with
  | nil =>
    cases h
    exact ⟨[], .none, .none⟩
  | cons p places =>
    simp only [skipFraction, beq_iff_eq] at h
    split at h
    · next hp =>
      subst hp
      obtain ⟨-, -, hcount | ⟨b, tail, rfl, hb, htail⟩⟩ := digits_skippedDigits places 0
      · simp [hcount] at h
      · split at h
        · cases h
        · exact ⟨_, .places hb htail, exponent_of_skipOptionalExponent h⟩
    · exact ⟨_, .none, exponent_of_skipOptionalExponent h⟩

theorem eq_zero_of_digit? (h : digit? b = some 0) : b = byte '0' := by
  unfold digit? at h
  split at h
  · next hb =>
    have hle : 48 ≤ b.toNat := UInt8.le_iff_toNat_le.1 hb.1
    have hzero : b.toNat - 48 = 0 := Option.some.inj h
    exact UInt8.toNat_inj.1 (show b.toNat = 48 by omega)
  · cases h

theorem digit?_zero : digit? (byte '0') = some 0 := by decide

/-- **A number that is skipped**, its sign apart. -/
theorem magnitude_of_skipMagnitude (h : skipMagnitude input = .ok () rest) :
    Magnitude input rest := by
  cases input with
  | nil => cases h
  | cons b tail =>
    simp only [skipMagnitude] at h
    cases hd : digit? b with
    | none =>
      rw [hd] at h
      cases h
    | some d =>
      simp only [hd] at h
      split at h
      · cases h
      by_cases hzero : d = 0
      · subst hzero
        obtain ⟨mid, hfraction, hexponent⟩ := of_skipFraction h
        obtain rfl := eq_zero_of_digit? hd
        exact .parts .zero hfraction hexponent
      · have hne : b ≠ byte '0' := by
          rintro rfl
          exact hzero (Option.some.inj (hd.symm.trans digit?_zero))
        simp only [beq_iff_eq, hzero, if_false] at h
        obtain ⟨mid, hfraction, hexponent⟩ := of_skipFraction h
        have hb := isDigit_of_digit? (Option.isSome_of_eq_some hd)
        exact .parts (.positive hb hne (digits_skippedDigits tail 0).1) hfraction hexponent

/-! ## Words and scalars -/

theorem word_eq_ok {letters : List UInt8} (h : word letters input = .ok () rest) :
    input = letters ++ rest := by
  induction letters generalizing input with
  | nil =>
    cases h
    rfl
  | cons w letters ih =>
    cases input with
    | nil => cases h
    | cons b tail =>
      simp only [word, beq_iff_eq] at h
      split at h
      · next hb => rw [hb, ih h, List.cons_append]
      · cases h

theorem scalar_of_null (h : nullWord (byte 'n' :: input) = .ok () rest) :
    Grammar.Scalar (byte 'n' :: input) rest := by
  rw [nullWord, advance_bind] at h
  rw [word_eq_ok h]
  exact .null

theorem scalar_of_skip (h : skipUntilClosed.scalar b (b :: input) = .ok () rest) :
    Grammar.Scalar (b :: input) rest := by
  simp only [skipUntilClosed.scalar, beq_iff_eq] at h
  split at h
  · next hb =>
    subst hb
    exact scalar_of_null h
  split at h
  · next hb =>
    subst hb
    rw [trueWord, advance_bind] at h
    rw [word_eq_ok h]
    exact .true
  split at h
  · next hb =>
    subst hb
    rw [falseWord, advance_bind] at h
    rw [word_eq_ok h]
    exact .false
  split at h
  · next hb =>
    subst hb
    rw [advance_bind] at h
    exact .negative (magnitude_of_skipMagnitude h)
  split at h
  · exact .natural (magnitude_of_skipMagnitude h)
  split at h
  · next hb =>
    subst hb
    obtain ⟨_, mid, hquote, h⟩ := bind_eq_ok.1 h
    cases hquote
    exact .text (content_of_skipText h)
  · cases h

/-! ## Values that are skipped -/

theorem label_of_skip {bracket : Bracket} (h : skipUntilClosed.member bracket input = .ok () rest) :
    ∃ mid, Blank input mid ∧ Label bracket mid rest := by
  cases bracket with
  | list =>
    cases h
    exact ⟨input, .nil, .list⟩
  | object =>
    have h : skipKey input = .ok () rest := h
    rw [skipKey, peek_bind] at h
    have hblank := blank_dropWhile input
    cases hinput : input.dropWhile isSpace with
    | nil => simp [hinput] at h
    | cons b tail =>
      rw [hinput] at h hblank
      simp only [List.head?_cons, beq_iff_eq] at h
      split at h
      · next hb =>
        subst hb
        obtain ⟨_, _, hquote, h⟩ := bind_eq_ok.1 h
        cases hquote
        obtain ⟨_, mid, hkey, hcolon⟩ := bind_eq_ok.1 h
        exact ⟨_, hblank,
          .object (content_of_skipText hkey) (blank_of_dropWhile (colon_eq_ok.1 hcolon))⟩
      · cases h

/-- The rest of some brackets that are open, innermost first: further members of the first of them,
or all its members, and its end. -/
inductive Closes : Bool → List Bracket → List UInt8 → List UInt8 → Prop where
  | nil {first rest} : Closes first [] rest rest
  | cons {first bracket opened input mid mid' rest} (hmembers : Members bracket first input mid)
      (hclose : Blank mid (bracket.closing :: mid')) (h : Closes false opened mid' rest) :
      Closes first (bracket :: opened) input rest

/-- What a reader that skips takes, by what it wants next. -/
def Takes : Want → List Bracket → List UInt8 → List UInt8 → Prop
  | .value, opened, input, rest => ∃ mid, Value input mid ∧ Closes false opened mid rest
  | .opening, opened, input, rest => Closes true opened input rest
  | .following, opened, input, rest => Closes false opened input rest

/-- A further member, after what separates it from the ones before. -/
theorem closes_of_member {fuel : Nat} {first : Bool} {bracket : Bracket} {opened : List Bracket}
    {mid mid' : List UInt8}
    (ih : ∀ {input}, skipUntilClosed fuel .value (bracket :: opened) input = .ok () rest →
      Takes .value (bracket :: opened) input rest)
    (hseparator : Separator first input mid) (hblank : Blank mid mid')
    (h : (skipUntilClosed.member bracket >>= fun _ =>
      skipUntilClosed fuel .value (bracket :: opened)) mid' = .ok () rest) :
    Closes first (bracket :: opened) input rest := by
  obtain ⟨_, last, hmember, hlast⟩ := bind_eq_ok.1 h
  obtain ⟨_, hblank', hlabel⟩ := label_of_skip hmember
  obtain ⟨_, hvalue, hrest⟩ := ih hlast
  cases hrest with
  | cons hmembers hclose hrest =>
    exact .cons (.cons hseparator (hblank.trans hblank') hlabel hvalue hmembers) hclose hrest

theorem takes_of_skipUntilClosed {fuel : Nat} {want : Want} {opened : List Bracket}
    (h : skipUntilClosed fuel want opened input = .ok () rest) : Takes want opened input rest := by
  induction fuel generalizing want opened input with
  | zero => cases want <;> cases h
  | succ fuel ih =>
    have hblank := blank_dropWhile input
    cases want with
    | value =>
      simp only [skipUntilClosed, beq_iff_eq] at h
      cases hinput : input.dropWhile isSpace with
      | nil => simp [hinput] at h
      | cons b after =>
        simp only [hinput] at h hblank
        split at h
        · next hb =>
          subst hb
          cases ih h with
          | cons hmembers hclose hrest =>
            exact ⟨_, .compound (.brackets .list hblank hmembers hclose), hrest⟩
        split at h
        · next hb =>
          subst hb
          cases ih h with
          | cons hmembers hclose hrest =>
            exact ⟨_, .compound (.brackets .object hblank hmembers hclose), hrest⟩
        · obtain ⟨_, mid, hscalar, h⟩ := bind_eq_ok.1 h
          exact ⟨mid, .scalar hblank (scalar_of_skip hscalar), ih h⟩
    | opening =>
      cases opened with
      | nil =>
        cases h
        exact .nil
      | cons bracket opened =>
        simp only [skipUntilClosed, beq_iff_eq] at h
        cases hinput : input.dropWhile isSpace with
        | nil => simp [hinput] at h
        | cons b after =>
          simp only [hinput] at h hblank
          split at h
          · next hb => exact .cons .nil (hb ▸ hblank) (ih h)
          · exact closes_of_member ih .first hblank h
    | following =>
      cases opened with
      | nil =>
        cases h
        exact .nil
      | cons bracket opened =>
        simp only [skipUntilClosed, beq_iff_eq] at h
        cases hinput : input.dropWhile isSpace with
        | nil => simp [hinput] at h
        | cons b after =>
          simp only [hinput] at h hblank
          split at h
          · next hb =>
            subst hb
            exact closes_of_member ih (.following hblank) .nil h
          split at h
          · next hb => exact .cons .nil (hb ▸ hblank) (ih h)
          · cases h

/-- **A value that is skipped.** -/
theorem value_of_skip (h : skip input = .ok () rest) : Value input rest := by
  obtain ⟨mid, hvalue, hcloses⟩ : Takes .value [] input rest := takes_of_skipUntilClosed h
  cases hcloses
  exact hvalue

/-! ## Readers of values -/

/-- Whether a reader that succeeds has taken a value. -/
def TakesValue (r : Reader α) : Prop := ∀ input a rest, r input = .ok a rest → Value input rest

theorem takesValue_string (wanted : String) : TakesValue (string wanted) := by
  intro input value rest h
  obtain ⟨after, hinput, htext⟩ := string_eq_ok.1 h
  exact .scalar (blank_of_dropWhile hinput) (.text (content_of_text htext))

theorem takesValue_optional {r : Reader α} (hr : TakesValue r) : TakesValue (optional r) := by
  intro input a rest h
  rw [optional, peek_bind] at h
  have hblank := blank_dropWhile input
  have hsome {input : List UInt8} {a : Option α}
      (h : (do pure (some (← r)) : Reader (Option α)) input = .ok a rest) : Value input rest := by
    obtain ⟨_, _, hread, h⟩ := bind_eq_ok.1 h
    cases h
    exact hr _ _ _ hread
  cases hinput : input.dropWhile isSpace with
  | nil =>
    rw [hinput] at h hblank
    exact (hsome h).blank hblank
  | cons b tail =>
    rw [hinput] at h hblank
    simp only [List.head?_cons, beq_iff_eq] at h
    split at h
    · next hb =>
      subst hb
      obtain ⟨_, _, hnull, h⟩ := bind_eq_ok.1 h
      cases h
      exact .scalar hblank (scalar_of_null hnull)
    · exact (hsome h).blank hblank

/-! ## Members and elements -/

/-- Whether a reader that succeeds has taken a colon and a value. -/
def TakesMember (r : Reader α) : Prop :=
  ∀ input a rest, r input = .ok a rest → ∃ mid, Blank input (byte ':' :: mid) ∧ Value mid rest

theorem TakesMember.map {β : Type} {r : Reader α} (hr : TakesMember r) (f : α → β) :
    TakesMember (do pure (f (← r))) := by
  intro input b rest h
  obtain ⟨_, _, hread, h⟩ := bind_eq_ok.1 h
  cases h
  exact hr _ _ _ hread

theorem takesMember_field {name : String} {old : Option α} {r : Reader α} (hr : TakesValue r) :
    TakesMember (Reader.field name old r) := by
  intro input a rest h
  obtain ⟨-, mid, _, hcolon, hvalue, -⟩ := field_eq_ok.1 h
  exact ⟨mid, blank_of_dropWhile (colon_eq_ok.1 hcolon), hr _ _ _ hvalue⟩

theorem takesMember_ignoredField (name : String) : TakesMember (ignoredField name) := by
  intro input _ rest h
  obtain ⟨mid, hcolon, hskip⟩ := ignoredField_eq_ok.1 h
  exact ⟨mid, blank_of_dropWhile (colon_eq_ok.1 hcolon), value_of_skip hskip⟩

theorem exists_separator {first : Bool} {place : List UInt8} (h : keyPlace first input place) :
    ∃ mid, Separator first input mid ∧ Blank mid place := by
  cases first with
  | true => exact ⟨input, .first, blank_of_dropWhile h⟩
  | false =>
    obtain ⟨mid, hcomma, hplace⟩ := h
    exact ⟨mid, .following (blank_of_dropWhile hcomma), blank_of_dropWhile hplace⟩

theorem members_of_members {member : String → σ → Reader σ}
    (hmember : ∀ key state, TakesMember (member key state)) {fuel : Nat} {first : Bool}
    {state last : σ} (h : members member fuel first state input = .ok last rest) :
    ∃ mid, Members .object first input mid ∧ Blank mid rest := by
  induction fuel generalizing first state input with
  | zero => cases h
  | succ fuel ih =>
    rcases members_eq_ok.1 h with ⟨hend, -⟩ | ⟨key, mid, next, mid', hkey, hvalue, hrest⟩
    · exact ⟨input, .nil, blank_of_dropWhile (nextKey_eq_ok_none.1 hend).1⟩
    · obtain ⟨after, hplace, htext⟩ := nextKey_eq_ok_some.1 hkey
      obtain ⟨_, hseparator, hblank⟩ := exists_separator hplace
      obtain ⟨_, hcolon, hvalue⟩ := hmember key state _ _ _ hvalue
      obtain ⟨last, hmembers, hlast⟩ := ih hrest
      have hlabel := Label.object (content_of_text htext) hcolon
      exact ⟨last, .cons hseparator hblank hlabel hvalue hmembers, hlast⟩

/-- Whether a reader that succeeds has taken elements of a list, the first of them or later ones. -/
def TakesElements (first : Bool) (r : Reader α) : Prop :=
  ∀ input a rest, r input = .ok a rest → ∃ mid, Members .list first input mid ∧ Blank mid rest

theorem takesElements_pure (first : Bool) (a : α) : TakesElements first (pure a : Reader α) := by
  intro input b rest h
  cases h
  exact ⟨input, .nil, .nil⟩

theorem separator_of_nextElement {first more : Bool} (h : nextElement first input = .ok more rest) :
    (more = true → ∃ mid, Separator first input mid ∧ Blank mid rest) ∧
    (more = false → Blank input rest) := by
  rw [nextElement, peek_bind] at h
  have hblank := blank_dropWhile input
  cases hinput : input.dropWhile isSpace with
  | nil => simp [hinput] at h
  | cons b tail =>
    rw [hinput] at h hblank
    simp only [List.head?_cons, beq_iff_eq] at h
    split at h
    · cases h
      exact ⟨nofun, fun _ => hblank⟩
    cases first with
    | true =>
      cases h
      exact ⟨fun _ => ⟨input, .first, hblank⟩, nofun⟩
    | false =>
      simp only [Bool.false_eq_true, if_false] at h
      split at h
      · next hb =>
        subst hb
        rw [advance_bind, peek_bind] at h
        cases htail : tail.dropWhile isSpace with
        | nil => simp [htail] at h
        | cons c after =>
          simp only [htail, List.head?_cons] at h
          split at h
          · cases h
          · cases h
            exact ⟨fun _ => ⟨tail, .following hblank, blank_of_dropWhile htail⟩, nofun⟩
      · cases h

theorem takesElements_elementAt {β : Type} {index : Nat} {wanted : String} {r : Reader α}
    {f : α → Reader β} (hr : TakesValue r) (hf : ∀ a, TakesElements false (f a)) :
    TakesElements (index == 0) (elementAt index wanted r >>= f) := by
  intro input b rest h
  obtain ⟨a, mid, helement, hrest⟩ := bind_eq_ok.1 h
  obtain ⟨_, hnext, hvalue⟩ := elementAt_eq_ok.1 helement
  obtain ⟨_, hseparator, hblank⟩ := (separator_of_nextElement hnext).1 rfl
  obtain ⟨last, hmembers, hlast⟩ := hf a _ _ _ hrest
  exact ⟨last, .cons hseparator hblank .list (hr _ _ _ hvalue) hmembers, hlast⟩

theorem blank_of_listEnd (h : listEnd input = .ok () rest) : Blank input (byte ']' :: rest) := by
  rw [listEnd, peek_bind] at h
  refine blank_of_dropWhile ?_
  cases hinput : input.dropWhile isSpace with
  | nil => simp [hinput] at h
  | cons b tail =>
    simp only [hinput, List.head?_cons, beq_iff_eq] at h
    split at h
    · next hb =>
      cases h
      rw [hb]
      rfl
    split at h
    · rw [advance_bind, peek_bind] at h
      split at h <;> cases h
    · cases h

/-! ## Records -/

theorem compound_of_object {wanted : String} {member : String → σ → Reader σ} {start : σ}
    {finish : σ → Except FormFault α} (hmember : ∀ key state, TakesMember (member key state))
    (h : Reader.object wanted member start finish input = .ok a rest) : Compound input rest := by
  obtain ⟨after, last, mid, hopen, hmembers, -, hend⟩ := object_eq_ok.1 h
  obtain ⟨_, hmembers, hblank⟩ := members_of_members hmember hmembers
  exact .brackets .object (blank_of_dropWhile hopen) hmembers
    (hblank.trans (blank_of_dropWhile (objectEnd_eq_ok.1 hend)))

/-- **A record that is read.** -/
theorem compound_of_record {wanted : String} {member : String → σ → Reader σ} {start : σ}
    {finish : σ → Except FormFault α} {positional : Reader α}
    (hmember : ∀ key state, TakesMember (member key state))
    (hpositional : TakesElements true positional)
    (h : record wanted member start finish positional input = .ok a rest) :
    Compound input rest := by
  rcases record_eq_ok.1 h with ⟨after, mid, hopen, helements, hend⟩ | hobject
  · obtain ⟨_, hmembers, hblank⟩ := hpositional _ _ _ helements
    exact .brackets .list (blank_of_dropWhile hopen) hmembers (hblank.trans (blank_of_listEnd hend))
  · exact compound_of_object hmember hobject

end Accounts.Json.Reader

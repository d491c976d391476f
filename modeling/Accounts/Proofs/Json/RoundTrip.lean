import Accounts.Proofs.Json.Success
import Accounts.Proofs.Number.Decimal
import Accounts.Proofs.Text.Utf8
import Mathlib.Tactic.IntervalCases
import Mathlib.Tactic.SplitIfs

/-!
# Reading what was written

Texts and whole numbers are read back from their written form, whatever follows it, and an object is
read member by member. The bytes that follow a number have to end it.

* `text_quote` — a text between quotes.
* `number_write` — a whole number of 64 bits.
* `members_written` — the members of an object, given what each of them does.
* `skip_…` — written values are skipped as a whole.
-/

namespace Accounts.Json

open Reader

/-- The bytes of characters. -/
def wire (cs : List Char) : List UInt8 := cs.flatMap String.utf8EncodeChar

theorem encode_ofList (cs : List Char) : Utf8.encode (String.ofList cs) = wire cs :=
  Utf8.encode_ofList cs

theorem wire_append (cs ds : List Char) : wire (cs ++ ds) = wire cs ++ wire ds :=
  List.flatMap_append

theorem wire_cons (c : Char) (cs : List Char) :
    wire (c :: cs) = String.utf8EncodeChar c ++ wire cs := rfl

/-- The bytes of a written value. -/
def written (v : Json) : List UInt8 := wire v.write

variable {rest : List UInt8} {fuel : Nat}

/-! ## Texts -/

/-- A byte that stands for itself inside a text. -/
def Plain (b : UInt8) : Prop := b ≠ byte '"' ∧ b ≠ byte '\\' ∧ ¬ b < 0x20

theorem plain_ofNat {n : Nat} (hn : n < 256) (hquote : n ≠ 34) (hslash : n ≠ 92)
    (hcontrol : ¬ n < 32) : Plain (UInt8.ofNat n) := by
  have hnat : (UInt8.ofNat n).toNat = n := UInt8.toNat_ofNat_of_lt' hn
  refine ⟨fun h => hquote ?_, fun h => hslash ?_, fun h => hcontrol ?_⟩
  · rw [← hnat, h]
    rfl
  · rw [← hnat, h]
    rfl
  · rw [UInt8.lt_iff_toNat_lt, hnat] at h
    exact h

/-- The bytes of a character that is not escaped. -/
theorem plain_of_mem {c : Char} {b : UInt8} (hquote : c ≠ '"') (hslash : c ≠ '\\')
    (hcontrol : ¬ c.toNat < 0x20) (hb : b ∈ String.utf8EncodeChar c) : Plain b := by
  have hval : c.val.toNat = c.toNat := rfl
  unfold String.utf8EncodeChar at hb
  simp only [hval] at hb
  split at hb
  · next hsmall =>
    rw [List.mem_singleton] at hb
    subst hb
    refine plain_ofNat (by omega) (fun h => hquote ?_) (fun h => hslash ?_) hcontrol
    · exact Char.ext (UInt32.toNat_inj.1 h)
    · exact Char.ext (UInt32.toNat_inj.1 h)
  split at hb
  · simp only [List.mem_cons, List.not_mem_nil, or_false] at hb
    rcases hb with rfl | rfl <;> exact plain_ofNat (by omega) (by omega) (by omega) (by omega)
  split at hb
  · simp only [List.mem_cons, List.not_mem_nil, or_false] at hb
    rcases hb with rfl | rfl | rfl <;> exact plain_ofNat (by omega) (by omega) (by omega) (by omega)
  · simp only [List.mem_cons, List.not_mem_nil, or_false] at hb
    rcases hb with rfl | rfl | rfl | rfl <;>
      exact plain_ofNat (by omega) (by omega) (by omega) (by omega)

theorem textBytes_plain {bytes : List UInt8} (h : ∀ b ∈ bytes, Plain b) (read : List UInt8) :
    textBytes (fuel + bytes.length) read (bytes ++ rest) =
      textBytes fuel (bytes.reverse ++ read) rest := by
  induction bytes generalizing read with
  | nil => rfl
  | cons b bytes ih =>
    obtain ⟨hquote, hslash, hcontrol⟩ := h b List.mem_cons_self
    have hfuel : fuel + (b :: bytes).length = (fuel + bytes.length) + 1 := by
      simp only [List.length_cons]
      omega
    rw [hfuel, List.cons_append, textBytes]
    simp only [beq_iff_eq, hquote, hslash, hcontrol, if_false]
    rw [ih (fun c hc => h c (List.mem_cons_of_mem _ hc))]
    simp

theorem hexUnit_hexUnitText {n : Nat} (h : n < 0x20) (rest : List UInt8) :
    hexUnit (wire (hexUnitText n) ++ rest) = .ok n rest := by
  interval_cases n <;> rfl

/-- An escape: the byte after the backslash and what follows it up to the next character. -/
structure Escapes (c : Char) (e : UInt8) (tail : List UInt8) : Prop where
  escape_eq : ∀ rest, escape (e :: (tail ++ rest)) = .ok (String.utf8EncodeChar c) rest
  skips : e = byte 'u' ∧ (∀ rest, ∃ n, hexUnit (tail ++ rest) = .ok n rest) ∨
    e ≠ byte 'u' ∧ (simpleEscape? e).isSome = true ∧ tail = []

theorem escapes_short {c : Char} {e b : UInt8} (he : simpleEscape? e = some b)
    (hu : e ≠ byte 'u') (hb : String.utf8EncodeChar c = [b]) : Escapes c e [] where
  escape_eq rest := by
    show (textByte >>= _) _ = _
    rw [bind_apply, hb]
    simp only [textByte, beq_iff_eq, hu, if_false, he, pure_apply, List.nil_append]
  skips := .inr ⟨hu, by rw [he]; rfl, rfl⟩

theorem escapes_hex {c : Char} (h : c.toNat < 0x20) :
    Escapes c (byte 'u') (wire (hexUnitText c.toNat)) where
  escape_eq rest := by
    have hunit := hexUnit_hexUnitText h rest
    have hlow : ¬ (0xdc00 ≤ c.toNat ∧ c.toNat ≤ 0xdfff) := by omega
    have hhigh : ¬ (0xd800 ≤ c.toNat ∧ c.toNat ≤ 0xdbff) := by omega
    show (textByte >>= _) _ = _
    rw [bind_apply]
    simp only [textByte, beq_self_eq_true, if_true]
    rw [hexEscape, bind_of_eq_ok hunit, if_neg hlow, if_neg hhigh, pure_apply, Char.ofNat_toNat,
      String.singleton_eq_ofList, encode_ofList, wire_cons]
    simp [wire]
  skips := .inl ⟨rfl, fun rest => ⟨_, hexUnit_hexUnitText h rest⟩⟩

theorem wire_escapeChar (c : Char) :
    (wire (escapeChar c) = String.utf8EncodeChar c ∧ ∀ b ∈ String.utf8EncodeChar c, Plain b) ∨
      ∃ e tail, wire (escapeChar c) = byte '\\' :: e :: tail ∧ Escapes c e tail := by
  unfold escapeChar
  split_ifs with hquote hslash hb hf hn hr ht hcontrol
  · subst hquote
    exact .inr ⟨byte '"', [], rfl, escapes_short rfl (by decide) rfl⟩
  · subst hslash
    exact .inr ⟨byte '\\', [], rfl, escapes_short rfl (by decide) rfl⟩
  · subst hb
    exact .inr ⟨byte 'b', [], rfl, escapes_short rfl (by decide) rfl⟩
  · subst hf
    exact .inr ⟨byte 'f', [], rfl, escapes_short rfl (by decide) rfl⟩
  · subst hn
    exact .inr ⟨byte 'n', [], rfl, escapes_short rfl (by decide) rfl⟩
  · subst hr
    exact .inr ⟨byte 'r', [], rfl, escapes_short rfl (by decide) rfl⟩
  · subst ht
    exact .inr ⟨byte 't', [], rfl, escapes_short rfl (by decide) rfl⟩
  · exact .inr ⟨byte 'u', wire (hexUnitText c.toNat), rfl, escapes_hex hcontrol⟩
  · exact .inl ⟨List.append_nil _, fun b hb => plain_of_mem hquote hslash hcontrol hb⟩

theorem textBytes_content (cs : List Char) (read rest : List UInt8)
    (hfuel : (wire (cs.flatMap escapeChar)).length < fuel) :
    textBytes fuel read (wire (cs.flatMap escapeChar) ++ byte '"' :: rest) =
      .ok (read.reverse ++ wire cs) (byte '"' :: rest) := by
  induction cs generalizing fuel read with
  | nil =>
    obtain ⟨fuel, rfl⟩ := Nat.exists_eq_succ_of_ne_zero (Nat.ne_of_gt (Nat.zero_lt_of_lt hfuel))
    simp [wire, textBytes]
  | cons c cs ih =>
    rw [List.flatMap_cons, wire_append] at hfuel ⊢
    rw [List.append_assoc]
    rcases wire_escapeChar c with ⟨hwire, hplain⟩ | ⟨e, tail, hwire, hescape⟩
    · rw [hwire] at hfuel ⊢
      rw [List.length_append] at hfuel
      obtain ⟨fuel', rfl⟩ := Nat.exists_eq_add_of_le'
        (show (String.utf8EncodeChar c).length ≤ fuel by omega)
      rw [textBytes_plain hplain, ih _ (by omega)]
      simp [wire_cons]
    · rw [hwire] at hfuel ⊢
      simp only [List.cons_append, List.length_cons, List.length_append] at hfuel ⊢
      obtain ⟨fuel', rfl⟩ := Nat.exists_eq_succ_of_ne_zero (show fuel ≠ 0 by omega)
      have hquote : byte '\\' ≠ byte '"' := by decide
      simp only [textBytes, beq_iff_eq, hquote, if_false, if_true]
      rw [bind_of_eq_ok (hescape.escape_eq _), ih _ (by omega)]
      simp [wire_cons]

theorem wire_quote (s : String) (rest : List UInt8) :
    wire (quote s) ++ rest =
      byte '"' :: (wire (s.toList.flatMap escapeChar) ++ byte '"' :: rest) := by
  have hquote : String.utf8EncodeChar '"' = [byte '"'] := rfl
  simp [quote, hquote, wire]

/-- **A text between quotes.** -/
theorem text_quote (s : String) (rest : List UInt8) :
    Reader.text (wire (quote s) ++ rest) = .ok s rest := by
  rw [wire_quote, Reader.text, advance_bind]
  have hbytes := textBytes_content s.toList [] rest
    (Nat.lt_succ_of_le (Nat.le_add_right _ (byte '"' :: rest).length))
  rw [← List.length_append, List.reverse_nil, List.nil_append] at hbytes
  have hdecoded : decoded (wire s.toList) (byte '"' :: rest) = .ok s (byte '"' :: rest) := by
    rw [decoded, ← encode_ofList, String.ofList_toList, Utf8.decode?_encode]
    rfl
  refine bind_eq_ok.2 ⟨_, _, hbytes, ?_⟩
  rw [bind_of_eq_ok hdecoded]
  rfl

theorem dropWhile_quote (s : String) (rest : List UInt8) :
    ∃ after, (wire (quote s) ++ rest).dropWhile isSpace = byte '"' :: after ∧
      Reader.text (byte '"' :: after) = .ok s rest := by
  have htext := text_quote s rest
  rw [wire_quote] at htext ⊢
  exact ⟨_, rfl, htext⟩

theorem written_text (s : String) : written (.text s) = wire (quote s) := by
  rw [written, write]

theorem string_written (wanted s : String) (rest : List UInt8) :
    string wanted (written (.text s) ++ rest) = .ok s rest := by
  rw [written_text]
  exact string_eq_ok.2 (dropWhile_quote s rest)

theorem skipText_plain {bytes : List UInt8} (h : ∀ b ∈ bytes, Plain b) :
    skipText (fuel + bytes.length) (bytes ++ rest) = skipText fuel rest := by
  induction bytes with
  | nil => rfl
  | cons b bytes ih =>
    obtain ⟨hquote, hslash, hcontrol⟩ := h b List.mem_cons_self
    have hfuel : fuel + (b :: bytes).length = (fuel + bytes.length) + 1 := by
      simp only [List.length_cons]
      omega
    rw [hfuel, List.cons_append]
    simp only [skipText, beq_iff_eq, hquote, hslash, hcontrol, if_false]
    exact ih fun c hc => h c (List.mem_cons_of_mem _ hc)

theorem skipText_content (cs : List Char)
    (hfuel : (wire (cs.flatMap escapeChar)).length < fuel) :
    skipText fuel (wire (cs.flatMap escapeChar) ++ byte '"' :: rest) = .ok () rest := by
  induction cs generalizing fuel with
  | nil =>
    obtain ⟨fuel, rfl⟩ := Nat.exists_eq_succ_of_ne_zero (Nat.ne_of_gt (Nat.zero_lt_of_lt hfuel))
    simp [wire, skipText]
  | cons c cs ih =>
    rw [List.flatMap_cons, wire_append] at hfuel ⊢
    rw [List.append_assoc]
    rcases wire_escapeChar c with ⟨hwire, hplain⟩ | ⟨e, tail, hwire, hescape⟩
    · rw [hwire] at hfuel ⊢
      rw [List.length_append] at hfuel
      obtain ⟨fuel', rfl⟩ := Nat.exists_eq_add_of_le'
        (show (String.utf8EncodeChar c).length ≤ fuel by omega)
      rw [skipText_plain hplain, ih (by omega)]
    · rw [hwire] at hfuel ⊢
      simp only [List.cons_append, List.length_cons, List.length_append] at hfuel ⊢
      obtain ⟨fuel', rfl⟩ := Nat.exists_eq_succ_of_ne_zero (show fuel ≠ 0 by omega)
      have hquote : byte '\\' ≠ byte '"' := by decide
      simp only [skipText, beq_iff_eq, hquote, if_false, if_true]
      rcases hescape.skips with ⟨rfl, hhex⟩ | ⟨hu, hshort, rfl⟩
      · obtain ⟨n, hn⟩ := hhex (wire (cs.flatMap escapeChar) ++ byte '"' :: rest)
        rw [if_pos rfl, bind_of_eq_ok hn, ih (by omega)]
      · rw [if_neg hu, if_pos hshort, List.nil_append, ih (by omega)]

theorem skipText_quote (s : String) (rest : List UInt8) :
    (do advance; fun input => skipText (input.length + 1) input : Reader Unit)
      (wire (quote s) ++ rest) = .ok () rest := by
  rw [wire_quote]
  refine skipText_content s.toList ?_
  show _ < (wire (s.toList.flatMap escapeChar) ++ byte '"' :: rest).length + 1
  rw [List.length_append]
  omega

/-! ## Whole numbers -/

/-- The bytes after a number that do not go on with it. -/
def EndsNumber (rest : List UInt8) : Prop :=
  ∀ b ∈ rest.head?, digit? b = none ∧ b ≠ byte '.' ∧ b ≠ byte 'e' ∧ b ≠ byte 'E'

theorem EndsNumber.not_startsWithDigit (h : EndsNumber rest) : startsWithDigit rest = false := by
  cases rest with
  | nil => rfl
  | cons b rest => simp [startsWithDigit, (h b rfl).1]

theorem endsNumber_comma (rest : List UInt8) : EndsNumber (byte ',' :: rest) := by
  rintro b hb
  cases hb
  decide

theorem endsNumber_brace (rest : List UInt8) : EndsNumber (byte '\x7d' :: rest) := by
  rintro b hb
  cases hb
  decide

theorem digit?_digit {c : Char} (h : c.isDigit = true) :
    String.utf8EncodeChar c = [byte c] ∧ digit? (byte c) = some (c.toNat - '0'.toNat) := by
  have hall : ∀ n < 58, 48 ≤ n → String.utf8EncodeChar (Char.ofNat n) = [byte (Char.ofNat n)] ∧
      digit? (byte (Char.ofNat n)) = some ((Char.ofNat n).toNat - '0'.toNat) := by decide
  obtain ⟨hlow, hhigh⟩ := Integer.toNat_of_isDigit h
  have hc := hall c.toNat (by omega) hlow
  rwa [Char.ofNat_toNat] at hc

theorem fittingDigits_digits {digits : List Char} (significand count : Nat)
    (hdigits : ∀ c ∈ digits, c.isDigit = true)
    (hbound : Nat.ofDigitChars 10 digits significand ≤ Integer.maxUnsigned64)
    (hrest : EndsNumber rest) :
    fittingDigits (wire digits ++ rest) significand count =
      (Nat.ofDigitChars 10 digits significand, count + digits.length, rest) := by
  induction digits generalizing significand count with
  | nil =>
    cases rest with
    | nil => rfl
    | cons b rest => simp [wire, fittingDigits, (hrest b rfl).1]
  | cons c digits ih =>
    obtain ⟨hwire, hc⟩ := digit?_digit (hdigits c List.mem_cons_self)
    rw [Nat.ofDigitChars_cons, Nat.mul_comm] at hbound ⊢
    have hle : significand * 10 + (c.toNat - '0'.toNat) ≤ Integer.maxUnsigned64 :=
      Nat.le_trans (Integer.le_ofDigitChars _ digits) hbound
    rw [wire_cons, hwire, List.cons_append, List.nil_append, List.cons_append, fittingDigits]
    simp only [hc, if_pos hle]
    rw [ih _ _ (fun d hd => hdigits d (List.mem_cons_of_mem _ hd)) hbound]
    simp [Nat.add_comm, Nat.add_left_comm]

theorem afterWhole_rest {negative : Bool} {significand : Nat} (hrest : EndsNumber rest) :
    afterWhole negative significand rest = .ok (afterWhole.whole negative significand) rest := by
  cases rest with
  | nil => rfl
  | cons b rest =>
    obtain ⟨-, hpoint, he, hE⟩ := hrest b rfl
    simp [afterWhole, hpoint, he, hE]

theorem magnitude_digits (negative : Bool) {n : Nat} (hn : n ≤ Integer.maxUnsigned64)
    (hrest : EndsNumber rest) :
    Reader.magnitude negative (wire (Nat.toDigits 10 n) ++ rest) =
      .ok (afterWhole.whole negative n) rest := by
  obtain ⟨c, digits, hdigits, hzero⟩ := Integer.toDigits_eq_cons n
  have hall : ∀ d ∈ c :: digits, d.isDigit = true := fun d hd =>
    Integer.isDigit_of_mem_digits (hdigits ▸ hd)
  obtain ⟨hwire, hc⟩ := digit?_digit (hall c List.mem_cons_self)
  have hvalue : Nat.ofDigitChars 10 digits (c.toNat - '0'.toNat) = n := by
    have hn : Nat.ofDigitChars 10 (c :: digits) 0 = n := by
      rw [← hdigits, Nat.ofDigitChars_ten_toDigits]
    rwa [Nat.ofDigitChars_cons, Nat.mul_zero, Nat.zero_add] at hn
  rw [hdigits, wire_cons, hwire, List.cons_append, List.cons_append, List.nil_append]
  cases hd : c.toNat - '0'.toNat with
  | zero =>
    obtain ⟨rfl, rfl⟩ := hzero (Integer.eq_zero_of_digit (hall c List.mem_cons_self) hd)
    simp only [Reader.magnitude, hc, hd, wire, List.flatMap_nil, List.nil_append,
      hrest.not_startsWithDigit, Bool.false_eq_true, if_false]
    exact afterWhole_rest hrest
  | succ d =>
    have hread := fittingDigits_digits (c.toNat - '0'.toNat) 1
      (fun d hd => hall d (List.mem_cons_of_mem _ hd)) (by omega) hrest
    rw [hvalue, hd] at hread
    simp only [Reader.magnitude, hc, hd, hread, hrest.not_startsWithDigit, Bool.false_eq_true,
      if_false]
    exact afterWhole_rest hrest

def wholeNumber (n : Int) : Number := if n < 0 then .negative n else .natural n.toNat

theorem int_eq (n : Int) : Json.int n = .number (wholeNumber n) := by
  unfold Json.int wholeNumber
  split <;> rfl

theorem toList_toString_neg {n : Int} (h : n < 0) :
    (toString n).toList = '-' :: Nat.toDigits 10 n.natAbs := by
  obtain ⟨m, rfl⟩ := Int.eq_negSucc_of_lt_zero h
  show ("-" ++ toString (m + 1)).toList = _
  rw [String.toList_append, Nat.toString_eq_repr, Nat.toList_repr]
  rfl

theorem head_digits (n : Nat) (rest : List UInt8) :
    ∃ b after, wire (Nat.toDigits 10 n) ++ rest = b :: after ∧ (digit? b).isSome = true := by
  obtain ⟨c, digits, hdigits, -⟩ := Integer.toDigits_eq_cons n
  have hc : c ∈ Nat.toDigits 10 n := hdigits ▸ List.mem_cons_self
  obtain ⟨hwire, hdigit⟩ := digit?_digit (Integer.isDigit_of_mem_digits hc)
  rw [hdigits, wire_cons, hwire]
  exact ⟨byte c, _, rfl, by rw [hdigit]; rfl⟩

/-- **A whole number of 64 bits**, signed. -/
theorem number_write {n : Int} (hn : Integer.IsSigned64 n) (hrest : EndsNumber rest) :
    ∃ b after, wire (wholeNumber n).write ++ rest = b :: after ∧
      (b = byte '-' ∨ (digit? b).isSome = true) ∧
      Reader.number (b :: after) = .ok (wholeNumber n) rest := by
  unfold Integer.IsSigned64 at hn
  by_cases hneg : n < 0
  · have hmagnitude := magnitude_digits true (n := n.natAbs)
      (by unfold Integer.maxUnsigned64; omega) hrest
    have hwhole : afterWhole.whole true n.natAbs = .negative n := by
      have hzero : n.natAbs ≠ 0 := by omega
      have hfits : ¬ 9223372036854775808 < n.natAbs := by omega
      simp only [afterWhole.whole, Bool.not_true, Bool.false_eq_true, if_false, beq_iff_eq, hzero,
        hfits, decide_false, Bool.or_false, Number.negative.injEq]
      omega
    have hminus : String.utf8EncodeChar '-' = [byte '-'] := rfl
    rw [wholeNumber, if_pos hneg, Number.write, toList_toString_neg hneg, wire_cons, hminus,
      List.cons_append, List.cons_append, List.nil_append]
    refine ⟨byte '-', _, rfl, .inl rfl, ?_⟩
    rw [Reader.number, if_pos (beq_self_eq_true _), hmagnitude, hwhole]
  · obtain ⟨b, after, hwire, hb⟩ := head_digits n.toNat rest
    have hmagnitude := magnitude_digits false (n := n.toNat)
      (by unfold Integer.maxUnsigned64; omega) hrest
    rw [wholeNumber, if_neg hneg, Number.write, Nat.toString_eq_repr, Nat.toList_repr]
    refine ⟨b, after, hwire, .inr hb, ?_⟩
    have hb' : b ≠ byte '-' := by
      rintro rfl
      cases hb
    rw [Reader.number, if_neg (by simpa using hb'), ← hwire, hmagnitude]
    rfl

theorem whole?_wholeNumber (n : Int) : (wholeNumber n).whole? = some n := by
  unfold wholeNumber
  split
  · rfl
  · exact congrArg some (Int.toNat_of_nonneg (by omega))

theorem dropWhile_number {b : UInt8} {after : List UInt8}
    (hb : b = byte '-' ∨ (digit? b).isSome = true) :
    (b :: after).dropWhile isSpace = b :: after := by
  refine List.dropWhile_cons_of_neg ?_
  intro hspace
  simp only [isSpace, Bool.or_eq_true, beq_iff_eq] at hspace
  rcases hspace with ((rfl | rfl) | rfl) | rfl <;> revert hb <;> decide

theorem integer_write {wanted : String} {fits : Int → Bool} {n : Int}
    (hn : Integer.IsSigned64 n) (hfits : fits n = true) (hrest : EndsNumber rest) :
    integer wanted fits (written (.int n) ++ rest) = .ok n rest := by
  obtain ⟨b, after, hwire, hb, hnumber⟩ := number_write hn hrest
  rw [written, int_eq, write, hwire]
  exact integer_eq_ok.2 ⟨b, after, wholeNumber n, dropWhile_number hb, hb, hnumber,
    whole?_wholeNumber n, hfits⟩

/-! ## Values of any form -/

theorem value_text (depth : Nat) (s : String) (rest : List UInt8) :
    value (depth + 1) (written (.text s) ++ rest) = .ok (.text s) rest := by
  obtain ⟨after, hdrop, htext⟩ := dropWhile_quote s rest
  exact value_of_text hdrop htext

theorem value_int (depth : Nat) {n : Int} (hn : Integer.IsSigned64 n) (hrest : EndsNumber rest) :
    value (depth + 1) (written (.int n) ++ rest) = .ok (.number (wholeNumber n)) rest := by
  obtain ⟨b, after, hwire, hb, hnumber⟩ := number_write hn hrest
  rw [written, int_eq, write, hwire]
  exact value_of_number (dropWhile_number hb) hb hnumber

/-! ## Members -/

/-- The bytes after a member: another one follows, or the object ends. -/
def Follows (rest : List UInt8) : Prop :=
  ∃ after, rest = byte ',' :: after ∨ rest = byte '\x7d' :: after

theorem Follows.endsNumber (h : Follows rest) : EndsNumber rest := by
  obtain ⟨after, rfl | rfl⟩ := h
  · exact endsNumber_comma after
  · exact endsNumber_brace after

/-- The members take a reader of objects from one state to another. -/
inductive Takes {σ : Type} (member : String → σ → Reader σ) :
    List (String × Json) → σ → σ → Prop where
  | nil (s : σ) : Takes member [] s s
  | cons {s t u : σ} {key : String} {v : Json} {entries : List (String × Json)}
      (hmember : ∀ rest, Follows rest →
        member key s (byte ':' :: (written v ++ rest)) = .ok t rest)
      (htakes : Takes member entries t u) : Takes member ((key, v) :: entries) s u

variable {σ α : Type} {member : String → σ → Reader σ} {s t u : σ}
  {entries : List (String × Json)}

theorem wire_member (key : String) (v : Json) (cs : List Char) :
    wire (quote key ++ ':' :: (v.write ++ cs)) =
      wire (quote key) ++ byte ':' :: (written v ++ wire cs) := by
  have hcolon : String.utf8EncodeChar ':' = [byte ':'] := rfl
  rw [wire_append, wire_cons, wire_append, hcolon]
  rfl

/-- The members behind the first one, with the comma before them. -/
def writeLater (entries : List (String × Json)) : List Char :=
  match entries with
  | [] => ['\x7d']
  | entry :: rest => ',' :: writeMembers (entry :: rest)

theorem writeMembers_cons (key : String) (v : Json) (entries : List (String × Json)) :
    writeMembers ((key, v) :: entries) =
      quote key ++ ':' :: (v.write ++ writeLater entries) := by
  cases entries <;> rfl

theorem wire_writeLater (entries : List (String × Json)) (rest : List UInt8) :
    Follows (wire (writeLater entries) ++ rest) := by
  cases entries with
  | nil => exact ⟨rest, .inr rfl⟩
  | cons entry entries => exact ⟨wire (writeMembers (entry :: entries)) ++ rest, .inl rfl⟩

theorem wire_writeMembers (key : String) (v : Json) (entries : List (String × Json))
    (rest : List UInt8) :
    wire (writeMembers ((key, v) :: entries)) ++ rest =
      wire (quote key) ++ byte ':' :: (written v ++ (wire (writeLater entries) ++ rest)) := by
  rw [writeMembers_cons, wire_member]
  simp only [List.append_assoc, List.cons_append]

theorem nextKey_first (key : String) (rest : List UInt8) :
    nextKey true (wire (quote key) ++ rest) = .ok (some key) rest := by
  obtain ⟨after, hdrop, htext⟩ := dropWhile_quote key rest
  exact nextKey_eq_ok_some.2 ⟨after, hdrop, htext⟩

theorem nextKey_later (key : String) (rest : List UInt8) :
    nextKey false (byte ',' :: (wire (quote key) ++ rest)) = .ok (some key) rest := by
  obtain ⟨after, hdrop, htext⟩ := dropWhile_quote key rest
  exact nextKey_eq_ok_some.2 ⟨after, ⟨_, rfl, hdrop⟩, htext⟩

theorem members_later (h : Takes member entries s u) (hfuel : entries.length < fuel)
    (rest : List UInt8) :
    Reader.members member fuel false s (wire (writeLater entries) ++ rest) =
      .ok u (byte '\x7d' :: rest) := by
  induction h generalizing fuel with
  | nil s =>
    obtain ⟨fuel, rfl⟩ := Nat.exists_eq_succ_of_ne_zero (Nat.ne_of_gt (Nat.zero_lt_of_lt hfuel))
    exact members_eq_ok.2 (.inl ⟨nextKey_eq_ok_none.2 ⟨rfl, rest, rfl⟩, rfl⟩)
  | @cons s t u key v entries hmember htakes ih =>
    obtain ⟨fuel, rfl⟩ := Nat.exists_eq_succ_of_ne_zero (Nat.ne_of_gt (Nat.zero_lt_of_lt hfuel))
    have hcomma : wire (writeLater ((key, v) :: entries)) ++ rest =
        byte ',' :: (wire (writeMembers ((key, v) :: entries)) ++ rest) := rfl
    rw [hcomma, wire_writeMembers]
    exact members_eq_ok.2 (.inr ⟨key, _, t, _, nextKey_later key _,
      hmember _ (wire_writeLater entries rest), ih (by simpa using hfuel)⟩)

/-- **The members of an object.** -/
theorem members_written (h : Takes member entries s u) (hfuel : entries.length < fuel)
    (rest : List UInt8) :
    Reader.members member fuel true s (wire (writeMembers entries) ++ rest) =
      .ok u (byte '\x7d' :: rest) := by
  obtain ⟨fuel, rfl⟩ := Nat.exists_eq_succ_of_ne_zero (Nat.ne_of_gt (Nat.zero_lt_of_lt hfuel))
  cases h with
  | nil => exact members_eq_ok.2 (.inl ⟨nextKey_eq_ok_none.2 ⟨rfl, rest, rfl⟩, rfl⟩)
  | @cons _ t _ key v entries hmember htakes =>
    rw [wire_writeMembers]
    exact members_eq_ok.2 (.inr ⟨key, _, t, _, nextKey_first key _,
      hmember _ (wire_writeLater entries rest),
      members_later htakes (by simpa using hfuel) rest⟩)

theorem length_le_writeMembers (entries : List (String × Json)) :
    entries.length ≤ (wire (writeMembers entries)).length := by
  induction entries with
  | nil => exact Nat.zero_le _
  | cons entry entries ih =>
    obtain ⟨key, v⟩ := entry
    have hwire := congrArg List.length (wire_writeMembers key v entries [])
    have hlater : (wire (writeMembers entries)).length ≤ (wire (writeLater entries)).length := by
      cases entries with
      | nil => exact Nat.le_refl _
      | cons entry entries => exact Nat.le_succ _
    simp only [List.append_nil, List.length_append, List.length_cons] at hwire ⊢
    omega

/-- **An object**, read member by member. -/
theorem object_written {wanted : String} {finish : σ → Except FormFault α} {a : α}
    (h : Takes member entries s u) (hfinish : finish u = .ok a) (rest : List UInt8) :
    Reader.object wanted member s finish (written (.object entries) ++ rest) = .ok a rest := by
  refine object_eq_ok.2 ⟨wire (writeMembers entries) ++ rest, u, byte '\x7d' :: rest, rfl, ?_,
    hfinish, objectEnd_eq_ok.2 rfl⟩
  refine members_written h ?_ rest
  have := length_le_writeMembers entries
  rw [List.length_append]
  omega

theorem record_written {wanted : String} {finish : σ → Except FormFault α}
    {positional : Reader α} {a : α} (h : Takes member entries s u) (hfinish : finish u = .ok a)
    (rest : List UInt8) :
    record wanted member s finish positional (written (.object entries) ++ rest) = .ok a rest :=
  record_eq_ok.2 (.inr (object_written h hfinish rest))

theorem field_written {name : String} {r : Reader α} {v : Json} {a : α}
    (h : r (written v ++ rest) = .ok a rest) :
    Reader.field name none r (byte ':' :: (written v ++ rest)) = .ok (some a) rest :=
  field_eq_ok.2 ⟨rfl, written v ++ rest, a, colon_eq_ok.2 rfl, h, rfl⟩

/-! ## Skipped values -/

variable {opened : List Bracket}

theorem skipValue_text (s : String) (rest : List UInt8) :
    skipUntilClosed (fuel + 1) .value opened (written (.text s) ++ rest) =
      skipUntilClosed fuel .following opened rest := by
  have htext := skipText_quote s rest
  rw [written, write]
  rw [wire_quote] at htext ⊢
  exact bind_of_eq_ok htext _

theorem skippedDigits_digits {digits : List Char} (count : Nat)
    (hdigits : ∀ c ∈ digits, c.isDigit = true) (hrest : EndsNumber rest) :
    (skippedDigits (wire digits ++ rest) count).2 = rest := by
  induction digits generalizing count with
  | nil =>
    cases rest with
    | nil => rfl
    | cons b rest => simp [wire, skippedDigits, (hrest b rfl).1]
  | cons c digits ih =>
    obtain ⟨hwire, hc⟩ := digit?_digit (hdigits c List.mem_cons_self)
    rw [wire_cons, hwire, List.cons_append, List.nil_append, List.cons_append, skippedDigits, hc]
    exact ih _ fun d hd => hdigits d (List.mem_cons_of_mem _ hd)

theorem skipFraction_rest (hrest : EndsNumber rest) : skipFraction rest = .ok () rest := by
  cases rest with
  | nil => rfl
  | cons b rest =>
    obtain ⟨-, hpoint, he, hE⟩ := hrest b rfl
    simp [skipFraction, skipOptionalExponent, hpoint, he, hE]

theorem skipMagnitude_digits (n : Nat) (hrest : EndsNumber rest) :
    skipMagnitude (wire (Nat.toDigits 10 n) ++ rest) = .ok () rest := by
  obtain ⟨c, digits, hdigits, hzero⟩ := Integer.toDigits_eq_cons n
  have hall : ∀ d ∈ c :: digits, d.isDigit = true := fun d hd =>
    Integer.isDigit_of_mem_digits (hdigits ▸ hd)
  obtain ⟨hwire, hc⟩ := digit?_digit (hall c List.mem_cons_self)
  have hskip := skippedDigits_digits 0
    (fun d hd => hall d (List.mem_cons_of_mem _ hd)) hrest
  rw [hdigits, wire_cons, hwire, List.cons_append, List.cons_append, List.nil_append]
  cases hd : c.toNat - '0'.toNat with
  | zero =>
    obtain ⟨-, rfl⟩ := hzero (Integer.eq_zero_of_digit (hall c List.mem_cons_self) hd)
    simp only [skipMagnitude, hc, hd, wire, List.flatMap_nil, List.nil_append,
      hrest.not_startsWithDigit, Bool.and_false, Bool.false_eq_true, if_false, beq_self_eq_true,
      if_true]
    exact skipFraction_rest hrest
  | succ d =>
    have hne : (d + 1 == 0) = false := rfl
    simp only [skipMagnitude, hc, hd, hskip, hne, Bool.false_and, Bool.false_eq_true, if_false]
    exact skipFraction_rest hrest

theorem skipValue_int {n : Int} (hrest : EndsNumber rest) :
    skipUntilClosed (fuel + 1) .value opened (written (.int n) ++ rest) =
      skipUntilClosed fuel .following opened rest := by
  by_cases hneg : n < 0
  · have hminus : String.utf8EncodeChar '-' = [byte '-'] := rfl
    rw [written, int_eq, wholeNumber, if_pos hneg, write, Number.write, toList_toString_neg hneg,
      wire_cons, hminus, List.cons_append, List.cons_append, List.nil_append]
    exact bind_of_eq_ok (skipMagnitude_digits n.natAbs hrest) _
  · obtain ⟨b, after, hwire, hb⟩ := head_digits n.toNat rest
    have hskip := skipMagnitude_digits n.toNat hrest
    rw [written, int_eq, wholeNumber, if_neg hneg, write, Number.write, Nat.toString_eq_repr,
      Nat.toList_repr, hwire]
    rw [hwire] at hskip
    have hne : ∀ c, digit? c = none → b ≠ c := by
      rintro c hc rfl
      rw [hc] at hb
      cases hb
    have hscalar : skipUntilClosed.scalar b (b :: after) = .ok () rest := by
      simp only [skipUntilClosed.scalar, beq_iff_eq, hne (byte 'n') rfl, hne (byte 't') rfl,
        hne (byte 'f') rfl, hne (byte '-') rfl, hb, if_true, if_false]
      exact hskip
    simp only [skipUntilClosed, dropWhile_number (.inr hb), beq_iff_eq, hne (byte '[') rfl,
      hne (byte '\x7b') rfl, if_false]
    exact bind_of_eq_ok hscalar _

theorem skipUntilClosed_nil (fuel : Nat) (rest : List UInt8) :
    skipUntilClosed (fuel + 1) .following [] rest = .ok () rest := rfl

theorem skip_text (s : String) (rest : List UInt8) :
    skip (written (.text s) ++ rest) = .ok () rest := by
  rw [skip, skipValue_text, skipUntilClosed_nil]

theorem skip_int {n : Int} (hrest : EndsNumber rest) :
    skip (written (.int n) ++ rest) = .ok () rest := by
  rw [skip, skipValue_int hrest, skipUntilClosed_nil]

theorem skipKey_quote (key : String) (rest : List UInt8) :
    skipKey (wire (quote key) ++ byte ':' :: rest) = .ok () rest := by
  have htext := skipText_quote key (byte ':' :: rest)
  rw [wire_quote] at htext ⊢
  exact (bind_of_eq_ok htext fun _ => colon).trans (colon_eq_ok.2 rfl)

/-- The entries of an object of texts. -/
def textEntries (entries : List (String × String)) : List (String × Json) :=
  entries.map fun (key, s) => (key, .text s)

theorem skipUntilClosed_later (entries : List (String × String)) (rest : List UInt8) :
    skipUntilClosed (fuel + (2 * entries.length + 1)) .following (.object :: opened)
      (wire (writeLater (textEntries entries)) ++ rest) =
        skipUntilClosed fuel .following opened rest := by
  induction entries with
  | nil => rfl
  | cons entry entries ih =>
    obtain ⟨key, s⟩ := entry
    have hfuel : fuel + (2 * ((key, s) :: entries).length + 1) =
        (fuel + (2 * entries.length + 1)) + 1 + 1 := by
      simp only [List.length_cons]
      omega
    have hcomma : wire (writeLater (textEntries ((key, s) :: entries))) ++ rest =
        byte ',' :: (wire (writeMembers ((key, .text s) :: textEntries entries)) ++ rest) := rfl
    rw [hfuel, hcomma, wire_writeMembers, ← ih]
    refine (bind_of_eq_ok (skipKey_quote key _) _).trans ?_
    exact skipValue_text s _

theorem skipUntilClosed_first (key s : String) (entries : List (String × String))
    (rest : List UInt8) :
    skipUntilClosed (fuel + (2 * entries.length + 1) + 1 + 1) .opening (.object :: opened)
      (wire (writeMembers (textEntries ((key, s) :: entries))) ++ rest) =
        skipUntilClosed fuel .following opened rest := by
  have hmembers : wire (writeMembers (textEntries ((key, s) :: entries))) ++ rest =
      wire (quote key) ++ byte ':' :: (written (.text s) ++
        (wire (writeLater (textEntries entries)) ++ rest)) := wire_writeMembers _ _ _ _
  have hkey := skipKey_quote key
    (written (.text s) ++ (wire (writeLater (textEntries entries)) ++ rest))
  rw [hmembers, ← skipUntilClosed_later]
  rw [wire_quote] at hkey ⊢
  exact (bind_of_eq_ok hkey _).trans (skipValue_text s _)

theorem skip_texts (entries : List (String × String)) (rest : List UInt8) :
    skip (written (.object (textEntries entries)) ++ rest) = .ok () rest := by
  cases entries with
  | nil => rfl
  | cons entry entries =>
    obtain ⟨key, s⟩ := entry
    have hopen : written (.object (textEntries ((key, s) :: entries))) ++ rest =
        byte '\x7b' :: (wire (writeMembers (textEntries ((key, s) :: entries))) ++ rest) := rfl
    have hlength : entries.length + 1 ≤
        (wire (writeMembers (textEntries ((key, s) :: entries)))).length := by
      simpa [textEntries] using length_le_writeMembers (textEntries ((key, s) :: entries))
    obtain ⟨fuel, hfuel⟩ := Nat.exists_eq_add_of_le'
      (show 1 + (2 * entries.length + 1) + 1 + 1 + 1 ≤
        2 * (written (.object (textEntries ((key, s) :: entries))) ++ rest).length + 2 by
          rw [hopen, List.length_cons, List.length_append]
          omega)
    rw [skip, hfuel, hopen, ← Nat.add_assoc, ← Nat.add_assoc, ← Nat.add_assoc, ← Nat.add_assoc]
    exact (skipUntilClosed_first key s entries rest).trans (skipUntilClosed_nil fuel rest)

end Accounts.Json

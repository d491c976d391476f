import Accounts.Json.Reader.Record

/-!
# The grammar of JSON

What JSON is, apart from any reader. Each rule says what may stand at the front of some bytes and
what follows it: `Value input rest` says that `input` begins with a value and goes on with `rest`. A
text is JSON if it is a value between white space.

* `Content`, `Magnitude` — texts and numbers; `Spells` — what a text stands for.
* `Value`, `Compound`, `Members` — values, lists and objects, and what stands in those.
* `IsJson` — the texts that are JSON.
* `not_isJson_of_foreign` — bytes that nothing that is JSON begins with.
-/

namespace Accounts.Json.Grammar

open Reader (byte isSpace Bracket)

/-! ## White space and texts -/

inductive Blank : List UInt8 → List UInt8 → Prop where
  | nil {rest} : Blank rest rest
  | cons {b input rest} (hb : isSpace b = true) (h : Blank input rest) : Blank (b :: input) rest

theorem Blank.trans {input mid rest : List UInt8} (h : Blank input mid) (h' : Blank mid rest) :
    Blank input rest := by
  induction h with
  | nil => exact h'
  | cons hb _ ih => exact .cons hb (ih h')

def IsDigit (b : UInt8) : Prop := 0x30 ≤ b ∧ b ≤ 0x39

def IsHexDigit (b : UInt8) : Prop := IsDigit b ∨ 0x61 ≤ b ∧ b ≤ 0x66 ∨ 0x41 ≤ b ∧ b ≤ 0x46

/-- The characters that may follow a backslash and stand for one character. -/
def escapes : List UInt8 :=
  [byte '"', byte '\\', byte '/', byte 'b', byte 'f', byte 'n', byte 'r', byte 't']

/-- The content of a text and the quote at its end. -/
inductive Content : List UInt8 → List UInt8 → Prop where
  | quote {rest} : Content (byte '"' :: rest) rest
  | plain {b input rest} (hquote : b ≠ byte '"') (hescape : b ≠ byte '\\') (hcontrol : 0x20 ≤ b)
      (h : Content input rest) : Content (b :: input) rest
  | escape {b input rest} (hb : b ∈ escapes) (h : Content input rest) :
      Content (byte '\\' :: b :: input) rest
  | unit {p q r s input rest} (hdigits : ∀ b ∈ [p, q, r, s], IsHexDigit b)
      (h : Content input rest) :
      Content (byte '\\' :: byte 'u' :: p :: q :: r :: s :: input) rest

/-! ## What texts stand for -/

def hexValue (b : UInt8) : Nat :=
  if b ≤ 0x39 then b.toNat - 0x30 else if b ≤ 0x46 then b.toNat - 0x37 else b.toNat - 0x57

/-- The number that hexadecimal digits stand for. -/
def hexNumber (digits : List UInt8) : Nat := digits.foldl (fun n b => n * 16 + hexValue b) 0

/-- What the characters after a backslash stand for, in the order of `escapes`. -/
def escaped : List UInt8 := [0x22, 0x5c, 0x2f, 0x08, 0x0c, 0x0a, 0x0d, 0x09]

/-- The first half of a pair that stands for one character. -/
def IsHighSurrogate (unit : Nat) : Prop := 0xd800 ≤ unit ∧ unit ≤ 0xdbff

/-- The second half of such a pair. -/
def IsLowSurrogate (unit : Nat) : Prop := 0xdc00 ≤ unit ∧ unit ≤ 0xdfff

/-- A character in UTF-8. -/
def encoded (code : Nat) : List UInt8 := Utf8.encode (String.singleton (Char.ofNat code))

/-- The content of a text and the quote at its end, after the bytes that the text stands for. -/
inductive Spells : List UInt8 → List UInt8 → List UInt8 → Prop where
  | quote {rest} : Spells [] (byte '"' :: rest) rest
  | plain {b bytes input rest} (hquote : b ≠ byte '"') (hescape : b ≠ byte '\\')
      (hcontrol : 0x20 ≤ b) (h : Spells bytes input rest) : Spells (b :: bytes) (b :: input) rest
  | escape {b c bytes input rest} (hb : (b, c) ∈ escapes.zip escaped)
      (h : Spells bytes input rest) : Spells (c :: bytes) (byte '\\' :: b :: input) rest
  | unit {p q r s bytes input rest} (hdigits : ∀ b ∈ [p, q, r, s], IsHexDigit b)
      (hhigh : ¬ IsHighSurrogate (hexNumber [p, q, r, s]))
      (hlow : ¬ IsLowSurrogate (hexNumber [p, q, r, s])) (h : Spells bytes input rest) :
      Spells (encoded (hexNumber [p, q, r, s]) ++ bytes)
        (byte '\\' :: byte 'u' :: p :: q :: r :: s :: input) rest
  | pair {p q r s p' q' r' s' bytes input rest} (hdigits : ∀ b ∈ [p, q, r, s], IsHexDigit b)
      (hdigits' : ∀ b ∈ [p', q', r', s'], IsHexDigit b)
      (hhigh : IsHighSurrogate (hexNumber [p, q, r, s]))
      (hlow : IsLowSurrogate (hexNumber [p', q', r', s'])) (h : Spells bytes input rest) :
      Spells (encoded (0x10000 + (hexNumber [p, q, r, s] - 0xd800) * 0x400 +
          (hexNumber [p', q', r', s'] - 0xdc00)) ++ bytes)
        (byte '\\' :: byte 'u' :: p :: q :: r :: s ::
          byte '\\' :: byte 'u' :: p' :: q' :: r' :: s' :: input) rest

theorem Spells.content {bytes input rest : List UInt8} (h : Spells bytes input rest) :
    Content input rest := by
  induction h with
  | quote => exact .quote
  | plain hquote hescape hcontrol _ ih => exact .plain hquote hescape hcontrol ih
  | escape hb _ ih => exact .escape (List.of_mem_zip hb).1 ih
  | unit hdigits _ _ _ ih => exact .unit hdigits ih
  | pair hdigits hdigits' _ _ _ ih => exact .unit hdigits (.unit hdigits' ih)

/-- A text of this value stands at the front, perhaps after white space. -/
def IsText (value : String) (input rest : List UInt8) : Prop :=
  ∃ mid, Blank input (byte '"' :: mid) ∧ Spells (Utf8.encode value) mid rest

theorem IsText.blank {value : String} {input mid rest : List UInt8} (h : IsText value mid rest)
    (hblank : Blank input mid) : IsText value input rest := by
  obtain ⟨after, hmid, hvalue⟩ := h
  exact ⟨after, hblank.trans hmid, hvalue⟩

/-! ## Numbers -/

inductive Digits : List UInt8 → List UInt8 → Prop where
  | nil {rest} : Digits rest rest
  | cons {b input rest} (hb : IsDigit b) (h : Digits input rest) : Digits (b :: input) rest

/-- The places before the point. There is no leading zero. -/
inductive Whole : List UInt8 → List UInt8 → Prop where
  | zero {rest} : Whole (byte '0' :: rest) rest
  | positive {b input rest} (hb : IsDigit b) (hzero : b ≠ byte '0') (h : Digits input rest) :
      Whole (b :: input) rest

/-- The point and the places after it, if there is one. -/
inductive Fraction : List UInt8 → List UInt8 → Prop where
  | none {rest} : Fraction rest rest
  | places {b input rest} (hb : IsDigit b) (h : Digits input rest) :
      Fraction (byte '.' :: b :: input) rest

/-- A sign, if there is one. -/
inductive Sign : List UInt8 → List UInt8 → Prop where
  | none {rest} : Sign rest rest
  | plus {rest} : Sign (byte '+' :: rest) rest
  | minus {rest} : Sign (byte '-' :: rest) rest

/-- An exponent, if there is one. -/
inductive Exponent : List UInt8 → List UInt8 → Prop where
  | none {rest} : Exponent rest rest
  | some {e b input mid rest} (he : e = byte 'e' ∨ e = byte 'E') (hsign : Sign input (b :: mid))
      (hb : IsDigit b) (h : Digits mid rest) : Exponent (e :: input) rest

/-- A number without its sign. -/
inductive Magnitude : List UInt8 → List UInt8 → Prop where
  | parts {input mid mid' rest} (hwhole : Whole input mid) (hfraction : Fraction mid mid')
      (hexponent : Exponent mid' rest) : Magnitude input rest

/-! ## Values -/

/-- A value without brackets. -/
inductive Scalar : List UInt8 → List UInt8 → Prop where
  | null {rest} : Scalar (byte 'n' :: byte 'u' :: byte 'l' :: byte 'l' :: rest) rest
  | true {rest} : Scalar (byte 't' :: byte 'r' :: byte 'u' :: byte 'e' :: rest) rest
  | false {rest} : Scalar (byte 'f' :: byte 'a' :: byte 'l' :: byte 's' :: byte 'e' :: rest) rest
  | natural {input rest} (h : Magnitude input rest) : Scalar input rest
  | negative {input rest} (h : Magnitude input rest) : Scalar (byte '-' :: input) rest
  | text {input rest} (h : Content input rest) : Scalar (byte '"' :: input) rest

/-- What separates a member from the one before it; the first has none. -/
inductive Separator : Bool → List UInt8 → List UInt8 → Prop where
  | first {rest} : Separator true rest rest
  | following {input rest} (h : Blank input (byte ',' :: rest)) : Separator false input rest

/-- What stands before the value of a member: in an object, its key and a colon. -/
inductive Label : Bracket → List UInt8 → List UInt8 → Prop where
  | list {rest} : Label .list rest rest
  | object {input mid rest} (hkey : Content input mid) (hcolon : Blank mid (byte ':' :: rest)) :
      Label .object (byte '"' :: input) rest

/-- The byte that opens a bracket. -/
def opening : Bracket → UInt8
  | .list => byte '['
  | .object => byte '\x7b'

mutual

inductive Value : List UInt8 → List UInt8 → Prop where
  | scalar {input mid rest} (hblank : Blank input mid) (h : Scalar mid rest) : Value input rest
  | compound {input rest} (h : Compound input rest) : Value input rest

inductive Compound : List UInt8 → List UInt8 → Prop where
  | brackets (bracket : Bracket) {input mid mid' rest}
      (hopen : Blank input (opening bracket :: mid))
      (h : Members bracket true mid mid') (hclose : Blank mid' (bracket.closing :: rest)) :
      Compound input rest

/-- The members of a list or an object, from the first or from a later one on. -/
inductive Members : Bracket → Bool → List UInt8 → List UInt8 → Prop where
  | nil {bracket first rest} : Members bracket first rest rest
  | cons {bracket first input input' mid mid' mid'' rest}
      (hseparator : Separator first input input')
      (hblank : Blank input' mid) (hlabel : Label bracket mid mid') (hvalue : Value mid' mid'')
      (h : Members bracket false mid'' rest) : Members bracket first input rest

end

theorem Value.blank {input mid rest : List UInt8} (h : Value mid rest) (hblank : Blank input mid) :
    Value input rest := by
  cases h with
  | scalar hblank' h => exact .scalar (hblank.trans hblank') h
  | compound h =>
    cases h with
    | brackets bracket hopen h hclose =>
      exact .compound (.brackets bracket (hblank.trans hopen) h hclose)

/-- What is JSON. -/
structure IsJson (text : List UInt8) : Prop where
  utf8 : (Utf8.decode? text).isSome = true
  value : ∃ rest, Value text rest ∧ Blank rest []

/-! ## What JSON begins with -/

/-- The bytes that a value may begin with, apart from digits. -/
def marks : List UInt8 :=
  [byte 'n', byte 't', byte 'f', byte '-', byte '"', byte '[', byte '\x7b']

/-- A byte that no value begins with. -/
def IsForeign (b : UInt8) : Prop := isSpace b = false ∧ ¬ IsDigit b ∧ b ∉ marks

instance (b : UInt8) : Decidable (IsForeign b) :=
  inferInstanceAs (Decidable (isSpace b = false ∧ ¬ (0x30 ≤ b ∧ b ≤ 0x39) ∧ b ∉ marks))

variable {b : UInt8} {input text rest : List UInt8}

theorem Blank.eq_self (hb : isSpace b = false) (h : Blank (b :: input) rest) :
    rest = b :: input := by
  cases h with
  | nil => rfl
  | cons hspace => exact absurd hspace (by simp [hb])

theorem Scalar.exists_mark (h : Scalar text rest) :
    ∃ b input, text = b :: input ∧ (IsDigit b ∨ b ∈ marks) := by
  cases h with
  | natural h =>
    cases h with
    | parts hwhole =>
      cases hwhole with
      | zero => exact ⟨_, _, rfl, .inl ⟨by decide, by decide⟩⟩
      | positive hb => exact ⟨_, _, rfl, .inl hb⟩
  | null | true | false | negative | text => exact ⟨_, _, rfl, .inr (by decide)⟩

theorem not_compound_of_foreign (hb : IsForeign b) : ¬ Compound (b :: input) rest := by
  intro h
  obtain ⟨hspace, -, hmarks⟩ := hb
  cases h with
  | brackets bracket hopen =>
    obtain ⟨rfl, -⟩ := List.cons.inj (hopen.eq_self hspace)
    cases bracket <;> exact hmarks (by decide)

theorem not_isJson_of_foreign (hb : IsForeign b) : ¬ IsJson (b :: input) := by
  rintro ⟨-, rest, hvalue, -⟩
  cases hvalue with
  | compound h => exact not_compound_of_foreign hb h
  | scalar hblank h =>
    obtain ⟨hspace, hdigit, hmarks⟩ := hb
    rw [hblank.eq_self hspace] at h
    obtain ⟨_, _, hinput, hmark⟩ := h.exists_mark
    obtain ⟨rfl, -⟩ := List.cons.inj hinput
    exact hmark.elim hdigit hmarks

theorem not_compound_nil : ¬ Compound [] rest := by
  intro h
  cases h with
  | brackets bracket hopen => cases hopen

theorem not_isJson_nil : ¬ IsJson [] := by
  rintro ⟨-, rest, hvalue, -⟩
  cases hvalue with
  | compound h => exact not_compound_nil h
  | scalar hblank h =>
    cases hblank
    obtain ⟨_, _, hinput, -⟩ := h.exists_mark
    cases hinput

end Accounts.Json.Grammar

import Accounts.Json.Value
import Mathlib.Tactic.SplitIfs

/-!
# The outline of a JSON text

A machine of few modes follows a JSON text byte by byte. It knows whether a byte stands inside a
text between quotes and how many brackets are open, but not which brackets they are or what stands
between them.

* `Mode.step` — what one byte does, apart from the depth.
* `State.run` — where a piece of text leads, the depth counted.
* `mirrored` — inside and outside of texts change places for a machine that starts on the wrong
  side of a quote.

Readers that agree on nothing but their input can be compared by the outline of what they have
consumed.
-/

namespace Accounts.Json.Outline

open Reader

/-! ## Modes -/

/-- Where the next byte stands. -/
inductive Mode where
  /-- Outside texts, where a token may begin or a number go on. -/
  | plain
  /-- Inside a text. -/
  | quoted
  /-- Inside a text, after a backslash. -/
  | escaped
  /-- Inside a text, before one more than `left` hexadecimal digits. -/
  | digits (left : Nat)
  /-- Inside a word of which these bytes are to come. -/
  | word (next : UInt8) (rest : List UInt8)
  /-- After a sign: a digit has to come. -/
  | signed
  /-- After the letter of an exponent. -/
  | exponent
deriving DecidableEq, Repr

/-- What a byte does to the number of open brackets. -/
inductive Turn where
  | stay
  | opens
  | closes
  /-- A separator, which has to stand between brackets. -/
  | separates
deriving DecidableEq, Repr

namespace Mode

/-- The mode inside a text when `left` hexadecimal digits are to come. -/
def beforeDigits : Nat → Mode
  | 0 => quoted
  | left + 1 => digits left

/-- The mode inside a word of which these bytes are to come. -/
def beforeWord : List UInt8 → Mode
  | [] => plain
  | next :: rest => word next rest

/-- The mode outside texts after a byte. -/
def stepPlain (b : UInt8) : Option (Mode × Turn) :=
  if isSpace b || (digit? b).isSome || b == byte '.' then some (plain, .stay)
  else if b == byte '"' then some (quoted, .stay)
  else if b == byte '[' || b == byte '\x7b' then some (plain, .opens)
  else if b == byte ']' || b == byte '\x7d' then some (plain, .closes)
  else if b == byte ',' || b == byte ':' then some (plain, .separates)
  else if b == byte '-' then some (signed, .stay)
  else if b == byte 'e' || b == byte 'E' then some (exponent, .stay)
  else if b == byte 'n' then some (word (byte 'u') [byte 'l', byte 'l'], .stay)
  else if b == byte 't' then some (word (byte 'r') [byte 'u', byte 'e'], .stay)
  else if b == byte 'f' then some (word (byte 'a') [byte 'l', byte 's', byte 'e'], .stay)
  else none

/-- The mode inside a text after a byte. -/
def stepQuoted (b : UInt8) : Mode :=
  if b == byte '"' then plain else if b == byte '\\' then escaped else quoted

/-- The mode after a byte, and what the byte does to the depth; `none` if it may not stand there. -/
def step : Mode → UInt8 → Option (Mode × Turn)
  | plain, b => stepPlain b
  | quoted, b => some (stepQuoted b, .stay)
  | escaped, b =>
    if b == byte 'u' then some (digits 3, .stay)
    else if (simpleEscape? b).isSome then some (quoted, .stay)
    else none
  | digits left, b => if (hexDigit? b).isSome then some (beforeDigits left, .stay) else none
  | word next rest, b => if b == next then some (beforeWord rest, .stay) else none
  | signed, b => if (digit? b).isSome then some (plain, .stay) else none
  | exponent, b =>
    if (digit? b).isSome then some (plain, .stay)
    else if b == byte '+' || b == byte '-' then some (signed, .stay)
    else none

/-- The mode after a piece of text. -/
def run : Mode → List UInt8 → Option Mode
  | m, [] => some m
  | m, b :: rest => (m.step b).bind fun next => next.1.run rest

@[simp] theorem run_nil (m : Mode) : m.run [] = some m := rfl

theorem run_append (m : Mode) (x y : List UInt8) : m.run (x ++ y) = (m.run x).bind (·.run y) := by
  induction x generalizing m with
  | nil => rfl
  | cons b x ih =>
    cases h : m.step b with
    | none => simp [run, h]
    | some next => simp [run, h, ih]

end Mode

/-! ## States -/

/-- A mode and the number of open brackets. -/
structure State where
  mode : Mode
  depth : Nat
deriving DecidableEq, Repr

namespace State

/-- The depth after a turn; `none` if more is closed than is open, or nothing is separated. -/
def turned (depth : Nat) : Turn → Option Nat
  | .stay => some depth
  | .opens => some (depth + 1)
  | .closes => if depth = 0 then none else some (depth - 1)
  | .separates => if depth = 0 then none else some depth

def step (s : State) (b : UInt8) : Option State :=
  (s.mode.step b).bind fun next => (turned s.depth next.2).map (⟨next.1, ·⟩)

def run : State → List UInt8 → Option State
  | s, [] => some s
  | s, b :: rest => (s.step b).bind (·.run rest)

@[simp] theorem run_nil (s : State) : s.run [] = some s := rfl

theorem run_cons (s : State) (b : UInt8) (rest : List UInt8) :
    s.run (b :: rest) = (s.step b).bind (·.run rest) := rfl

theorem run_append (s : State) (x y : List UInt8) :
    s.run (x ++ y) = (s.run x).bind (·.run y) := by
  induction x generalizing s with
  | nil => rfl
  | cons b x ih =>
    cases h : s.step b with
    | none => simp [run_cons, h]
    | some next => simp [run_cons, h, ih]

theorem run_append_of_eq {s t : State} {x : List UInt8} (h : s.run x = some t) (y : List UInt8) :
    s.run (x ++ y) = t.run y := by
  rw [run_append, h, Option.bind_some]

/-- The mode does not depend on the depth. -/
theorem mode_step {s t : State} {b : UInt8} (h : s.step b = some t) :
    ∃ turn, s.mode.step b = some (t.mode, turn) ∧ turned s.depth turn = some t.depth := by
  simp only [step, Option.bind_eq_some_iff, Option.map_eq_some_iff] at h
  obtain ⟨⟨m, turn⟩, hm, d, hd, rfl⟩ := h
  exact ⟨turn, hm, hd⟩

theorem mode_run {s t : State} {x : List UInt8} (h : s.run x = some t) :
    s.mode.run x = some t.mode := by
  induction x generalizing s with
  | nil => simp_all
  | cons b x ih =>
    rw [run_cons, Option.bind_eq_some_iff] at h
    obtain ⟨u, hu, hx⟩ := h
    obtain ⟨turn, hm, -⟩ := mode_step hu
    rw [Mode.run, hm, Option.bind_some, ih hx]

/-- The state with more brackets open. -/
def deepen (s : State) (k : Nat) : State := ⟨s.mode, s.depth + k⟩

theorem step_deepen {s t : State} {b : UInt8} (h : s.step b = some t) (k : Nat) :
    (s.deepen k).step b = some (t.deepen k) := by
  obtain ⟨turn, hm, hd⟩ := mode_step h
  have hk : turned (s.depth + k) turn = some (t.depth + k) := by
    cases turn with
    | stay => simp_all [turned]
    | opens =>
      simp only [turned, Option.some.injEq] at hd ⊢
      omega
    | closes =>
      simp only [turned] at hd ⊢
      split at hd
      · cases hd
      · rw [if_neg (by omega)]
        simp only [Option.some.injEq] at hd ⊢
        omega
    | separates =>
      simp only [turned] at hd ⊢
      split at hd
      · cases hd
      · rw [if_neg (by omega)]
        simp only [Option.some.injEq] at hd ⊢
        omega
  simp [step, deepen, hm, hk]

/-- What leads from one state to another does so among more brackets as well. -/
theorem run_deepen {s t : State} {x : List UInt8} (h : s.run x = some t) (k : Nat) :
    (s.deepen k).run x = some (t.deepen k) := by
  induction x generalizing s with
  | nil => simp_all
  | cons b x ih =>
    rw [run_cons, Option.bind_eq_some_iff] at h
    obtain ⟨u, hu, hx⟩ := h
    rw [run_cons, step_deepen hu, Option.bind_some, ih hx]

end State

/-- Between tokens, with a number of brackets open. -/
abbrev plainAt (depth : Nat) : State := ⟨.plain, depth⟩

/-- Inside a text, with a number of brackets open. -/
abbrev quotedAt (depth : Nat) : State := ⟨.quoted, depth⟩

/-! ## On the wrong side of a quote -/

/-- The letters of `null`, `true` and `false` after the first. -/
def wordLetters : List UInt8 := [byte 'u', byte 'l', byte 'r', byte 's', byte 'a', byte 'e']

/-- Bytes that stand in no token but a text: a backslash, and the letters that tell the names of
the claims about validity from words and numbers. -/
def textOnly : List UInt8 := [byte '\\', byte 'x', byte 'b', byte 'i', byte 'd']

namespace Mode

/-- The modes outside of texts. -/
def Outside : Mode → Prop
  | plain | signed | exponent => True
  | word next rest => ∀ b ∈ next :: rest, b ∈ wordLetters
  | quoted | escaped | digits _ => False

theorem outside_word {w : UInt8} {rest : List UInt8}
    (h : (w :: rest).all wordLetters.contains = true) : (word w rest).Outside :=
  fun b hb => List.contains_iff_mem.1 (List.all_eq_true.1 h b hb)

theorem outside_stepPlain {next : Mode} {turn : Turn} {b : UInt8} (hb : b ≠ byte '"')
    (h : stepPlain b = some (next, turn)) : next.Outside := by
  simp only [stepPlain, beq_iff_eq, hb, if_false] at h
  split_ifs at h <;> cases h
  case pos | pos | pos | pos | pos | pos => trivial
  all_goals exact outside_word (by decide)

/-- Outside of texts a quote opens a text, and any other byte keeps the machine outside. -/
theorem outside_step {m next : Mode} {turn : Turn} {b : UInt8} (hm : m.Outside)
    (h : m.step b = some (next, turn)) : if b = byte '"' then next = quoted else next.Outside := by
  split
  · next hq =>
    subst hq
    cases m with
    | plain => cases h; rfl
    | signed => cases h
    | exponent => cases h
    | word w rest =>
      have hw : byte '"' ≠ w := fun he => absurd (hm w List.mem_cons_self) (he ▸ by decide)
      simp [step, hw] at h
    | quoted | escaped | digits => exact hm.elim
  · next hq =>
    cases m with
    | plain => exact outside_stepPlain hq h
    | signed => simp only [step] at h; split_ifs at h; cases h; trivial
    | exponent => simp only [step] at h; split_ifs at h <;> cases h <;> trivial
    | word w rest =>
      simp only [step] at h
      split_ifs at h
      cases h
      cases rest with
      | nil => trivial
      | cons v rest => exact fun c hc => hm c (List.mem_cons_of_mem _ hc)
    | quoted | escaped | digits => exact hm.elim

theorem eq_of_mem_textOnly {b : UInt8} (h : b ∈ textOnly) :
    b = byte '\\' ∨ b = byte 'x' ∨ b = byte 'b' ∨ b = byte 'i' ∨ b = byte 'd' := by
  simpa only [textOnly, List.mem_cons, List.not_mem_nil, or_false] using h

/-- Outside of texts some bytes never stand. -/
theorem step_of_mem_textOnly {m : Mode} {b : UInt8} (hm : m.Outside) (hb : b ∈ textOnly) :
    m.step b = none := by
  have hcases := eq_of_mem_textOnly hb
  cases m with
  | plain => rcases hcases with rfl | rfl | rfl | rfl | rfl <;> rfl
  | signed => rcases hcases with rfl | rfl | rfl | rfl | rfl <;> rfl
  | exponent => rcases hcases with rfl | rfl | rfl | rfl | rfl <;> rfl
  | word w rest =>
    have hletter : b ∉ wordLetters := by
      rcases hcases with rfl | rfl | rfl | rfl | rfl <;> decide
    have hw : b ≠ w := fun he => hletter (he ▸ hm w List.mem_cons_self)
    simp [step, hw]
  | quoted | escaped | digits => exact hm.elim

/-- The two machines are on different sides of a quote. -/
def Mirror (m n : Mode) : Prop := m.Outside ∧ n = quoted ∨ m = quoted ∧ n.Outside

theorem Mirror.symm {m n : Mode} (h : Mirror m n) : Mirror n m :=
  Or.symm (h.imp And.symm And.symm)

theorem mirror_step_of_outside {m m' n' : Mode} {t u : Turn} {b : UInt8} (hm : m.Outside)
    (h : m.step b = some (m', t)) (h' : quoted.step b = some (n', u)) : Mirror m' n' := by
  have ho := outside_step hm h
  have hs : b ≠ byte '\\' := fun he => by
    rw [step_of_mem_textOnly hm (by simp [he, textOnly])] at h
    cases h
  cases h'
  split at ho
  · next hq => exact .inr ⟨ho, by simp [stepQuoted, hq, Outside]⟩
  · next hq => exact .inl ⟨ho, by simp [stepQuoted, hq, hs]⟩

theorem mirror_step {m n m' n' : Mode} {t u : Turn} {b : UInt8} (hmn : Mirror m n)
    (h : m.step b = some (m', t)) (h' : n.step b = some (n', u)) : Mirror m' n' := by
  rcases hmn with ⟨hm, rfl⟩ | ⟨rfl, hn⟩
  · exact mirror_step_of_outside hm h h'
  · exact (mirror_step_of_outside hn h' h).symm

/-- Two machines on different sides of a quote stay on different sides. -/
theorem mirrored {m n m' n' : Mode} {x : List UInt8} (hmn : Mirror m n)
    (h : m.run x = some m') (h' : n.run x = some n') : Mirror m' n' := by
  induction x generalizing m n with
  | nil => cases h; cases h'; exact hmn
  | cons b x ih =>
    simp only [run, Option.bind_eq_some_iff] at h h'
    obtain ⟨⟨p, t⟩, hp, h⟩ := h
    obtain ⟨⟨q, u⟩, hq, h'⟩ := h'
    exact ih (mirror_step hmn hp hq) h h'

end Mode

end Accounts.Json.Outline

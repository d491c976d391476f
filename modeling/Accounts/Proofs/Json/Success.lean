import Accounts.Json.Value

/-!
# Readers that succeed

What it takes for a compound reader to succeed, in terms of its parts: bind, brackets, fields,
members and records. Both directions are used, to take a successful reading apart and to put one
together.

* `bind_eq_ok` — readers in sequence.
* `closedBy_eq_ok` — what stands between brackets.
* `members_eq_ok` — the members of an object, one at a time.
* `record_eq_ok` — a record, in either of its two forms.
* `run_eq_ok` — a whole text.
-/

namespace Accounts.Json

/-- The integer that a number is, if it is one. -/
def Number.whole? : Number → Option Int
  | .natural n => some n
  | .negative n => some n
  | .float _ => none

namespace Reader

variable {α β σ : Type} {input rest after : List UInt8} {a : α} {b : β}

/-! ## Sequence -/

theorem bind_apply (r : Reader α) (f : α → Reader β) (input : List UInt8) :
    (r >>= f) input = match r input with
      | .ok a rest => f a rest
      | .fault e rest => .fault e rest := rfl

theorem bind_eq_ok {r : Reader α} {f : α → Reader β} :
    (r >>= f) input = .ok b rest ↔ ∃ a mid, r input = .ok a mid ∧ f a mid = .ok b rest := by
  rw [bind_apply]
  cases h : r input with
  | ok a mid =>
    refine ⟨fun hf => ⟨a, mid, rfl, hf⟩, ?_⟩
    rintro ⟨_, _, he, hf⟩
    cases he
    exact hf
  | fault e mid => simp

/-- A reader that succeeds hands over to the next one. -/
theorem bind_of_eq_ok {r : Reader α} (h : r input = .ok a rest) (f : α → Reader β) :
    (r >>= f) input = f a rest := by
  rw [bind_apply, h]

@[simp] theorem pure_apply (a : α) (input : List UInt8) : (pure a : Reader α) input = .ok a input :=
  rfl

theorem advance_bind (f : Unit → Reader α) (b : UInt8) (rest : List UInt8) :
    (advance >>= f) (b :: rest) = f () rest := rfl

/-- A reader that looks at the next byte depends on what follows the white space only. -/
theorem peek_bind (f : Option UInt8 → Reader α) (input : List UInt8) :
    (peek >>= f) input = f (input.dropWhile isSpace).head? (input.dropWhile isSpace) := rfl

theorem ofExcept_eq_ok {result : Except FormFault α} :
    ofExcept result input = .ok a rest ↔ result = .ok a ∧ rest = input := by
  cases result with
  | ok b => simp [ofExcept, eq_comm]
  | error f => simp [ofExcept, failForm]

@[simp] theorem failHere_ne_ok {e : SyntaxFault} : failHere e input ≠ .ok a rest := nofun

@[simp] theorem failNext_ne_ok {e : SyntaxFault} : failNext e input ≠ .ok a rest := nofun

@[simp] theorem failForm_ne_ok {e : FormFault} : failForm e input ≠ .ok a rest := nofun

/-! ## Faults in context -/

theorem located_eq_ok {r : Reader α} : located r input = .ok a rest ↔ r input = .ok a rest := by
  unfold located
  cases r input <;> simp

theorem inField_eq_ok {r : Reader α} {name : String} :
    inField name r input = .ok a rest ↔ r input = .ok a rest := by
  unfold inField
  cases r input <;> simp

theorem closedBy_eq_ok {r : Reader α} {close : Reader Unit} :
    closedBy r close input = .ok a rest ↔
      ∃ mid, r input = .ok a mid ∧ close mid = .ok () rest := by
  unfold closedBy
  cases r input with
  | ok b mid =>
    cases hclose : close mid with
    | ok _ last =>
      simp only [hclose, Outcome.ok.injEq]
      refine ⟨?_, ?_⟩
      · rintro ⟨rfl, rfl⟩
        exact ⟨mid, ⟨rfl, rfl⟩, hclose⟩
      · rintro ⟨mid', ⟨rfl, rfl⟩, h⟩
        rw [hclose] at h
        cases h
        exact ⟨rfl, rfl⟩
    | fault e last =>
      simp only [hclose, Outcome.ok.injEq, reduceCtorEq, false_iff]
      rintro ⟨mid', ⟨rfl, rfl⟩, h⟩
      rw [hclose] at h
      cases h
  | fault e mid => cases hclose : close mid <;> simp [hclose]

/-! ## Tokens -/

theorem dropWhile_dropWhile_space (input : List UInt8) :
    (input.dropWhile isSpace).dropWhile isSpace = input.dropWhile isSpace := by
  cases h : input.dropWhile isSpace with
  | nil => rfl
  | cons b rest =>
    have hb : isSpace b = false := by
      have := List.head?_dropWhile_not isSpace input
      simpa [h] using this
    rw [List.dropWhile_cons, hb]
    rfl

theorem valueStart_eq_ok {b : UInt8} :
    valueStart input = .ok b rest ↔
      ∃ after, input.dropWhile isSpace = b :: after ∧ rest = b :: after := by
  show (peek >>= _) input = _ ↔ _
  rw [peek_bind]
  cases input.dropWhile isSpace with
  | nil => simp [demand]
  | cons c after =>
    simp only [List.head?_cons, demand, pure_apply, Outcome.ok.injEq, List.cons.injEq]
    constructor
    · rintro ⟨rfl, rfl⟩
      exact ⟨after, ⟨rfl, rfl⟩, rfl⟩
    · rintro ⟨_, ⟨rfl, rfl⟩, rfl⟩
      exact ⟨rfl, rfl⟩

theorem colon_eq_ok : colon input = .ok () rest ↔ input.dropWhile isSpace = byte ':' :: rest := by
  show (peek >>= _) input = _ ↔ _
  rw [peek_bind]
  cases input.dropWhile isSpace with
  | nil => simp
  | cons b after => by_cases hb : b = byte ':' <;> simp [hb, advance]

theorem objectEnd_eq_ok :
    objectEnd input = .ok () rest ↔ input.dropWhile isSpace = byte '\x7d' :: rest := by
  show (peek >>= _) input = _ ↔ _
  rw [peek_bind]
  cases input.dropWhile isSpace with
  | nil => simp
  | cons b after =>
    by_cases hb : b = byte '\x7d'
    · simp [hb, advance]
    · simp only [List.head?_cons, beq_iff_eq, hb, if_false, List.cons.injEq, false_and, iff_false]
      split <;> simp

/-- What follows the separator before a key; the first key has none. -/
def keyPlace (first : Bool) (input place : List UInt8) : Prop :=
  if first then input.dropWhile isSpace = place
  else ∃ mid, input.dropWhile isSpace = byte ',' :: mid ∧ mid.dropWhile isSpace = place

theorem nextKey_eq_ok_none {first : Bool} :
    nextKey first input = .ok none rest ↔
      input.dropWhile isSpace = rest ∧ ∃ after, rest = byte '\x7d' :: after := by
  have hsome : ∀ mid, (do pure (some (← Reader.text)) : Reader (Option String)) mid ≠
      .ok none rest := by
    intro mid h
    obtain ⟨_, _, -, h⟩ := bind_eq_ok.1 h
    cases h
  show (peek >>= _) input = _ ↔ _
  rw [peek_bind]
  cases hinput : input.dropWhile isSpace with
  | nil =>
    simp only [List.head?_nil, failNext_ne_ok, false_iff]
    rintro ⟨rfl, _, h⟩
    cases h
  | cons b tail =>
    by_cases hb : b = byte '\x7d'
    · subst hb
      simp only [List.head?_cons, beq_self_eq_true, if_true, pure_apply, Outcome.ok.injEq,
        true_and]
      exact ⟨fun h => ⟨h, tail, h ▸ rfl⟩, fun h => h.1⟩
    · have hne : ¬ (b :: tail = rest ∧ ∃ after, rest = byte '\x7d' :: after) := by
        rintro ⟨rfl, _, h⟩
        cases h
        exact hb rfl
      simp only [List.head?_cons, beq_iff_eq, hb, if_false, hne, iff_false]
      split
      · split
        · exact hsome _
        · exact failNext_ne_ok
      split
      · rw [advance_bind, peek_bind]
        cases tail.dropWhile isSpace with
        | nil => exact failNext_ne_ok
        | cons c tail =>
          dsimp only [List.head?_cons]
          split
          · exact hsome _
          split <;> exact failNext_ne_ok
      · exact failNext_ne_ok

theorem nextKey_eq_ok_some {first : Bool} {key : String} :
    nextKey first input = .ok (some key) rest ↔
      ∃ after, keyPlace first input (byte '"' :: after) ∧
        Reader.text (byte '"' :: after) = .ok key rest := by
  have hsome : ∀ mid, (do pure (some (← Reader.text)) : Reader (Option String)) mid =
      .ok (some key) rest ↔ Reader.text mid = .ok key rest := by
    intro mid
    rw [bind_eq_ok]
    simp only [pure_apply, Outcome.ok.injEq, Option.some.injEq]
    exact ⟨fun ⟨_, _, h, hk, hr⟩ => hk ▸ hr ▸ h, fun h => ⟨_, _, h, rfl, rfl⟩⟩
  show (peek >>= _) input = _ ↔ _
  rw [peek_bind]
  unfold keyPlace
  cases hinput : input.dropWhile isSpace with
  | nil => cases first <;> simp
  | cons b tail =>
    by_cases hb : b = byte '\x7d'
    · subst hb
      have h₁ : byte '\x7d' ≠ byte '"' := by decide
      have h₂ : byte '\x7d' ≠ byte ',' := by decide
      cases first <;> simp [h₁, h₂]
    cases first with
    | true =>
      simp only [List.head?_cons, beq_iff_eq, hb, if_false, if_true, List.cons.injEq]
      by_cases hq : b = byte '"'
      · subst hq
        simp only [if_true, true_and, exists_eq_left', hsome]
      · simp [hq]
    | false =>
      simp only [List.head?_cons, beq_iff_eq, hb, if_false, List.cons.injEq, Bool.false_eq_true]
      by_cases hc : b = byte ','
      · subst hc
        simp only [if_true, advance_bind, peek_bind, true_and, exists_eq_left']
        cases tail.dropWhile isSpace with
        | nil => simp
        | cons c tail =>
          simp only [List.head?_cons, List.cons.injEq]
          by_cases hq : c = byte '"'
          · subst hq
            simp only [if_true, true_and, exists_eq_left', hsome]
          · simp only [hq, if_false, false_and, exists_const, iff_false]
            split <;> exact failNext_ne_ok
      · simp [hc]

theorem nextKey_congr {left right : List UInt8} (first : Bool)
    (h : left.dropWhile isSpace = right.dropWhile isSpace) :
    nextKey first left = nextKey first right := by
  show (peek >>= _) left = (peek >>= _) right
  rw [peek_bind, peek_bind, h]

/-! ## Values -/

theorem wrongKind_ne_ok {wanted : String} : (wrongKind wanted : Reader α) input ≠ .ok a rest := by
  intro h
  have hform : ∀ {β : Type} {r : Reader β} {f : β → FormFault} {input : List UInt8},
      (r >>= fun b => (failForm (f b) : Reader α)) input ≠ .ok a rest := by
    intro β r f input h
    obtain ⟨_, _, -, h⟩ := bind_eq_ok.1 h
    cases h
  rw [wrongKind, located_eq_ok, peek_bind] at h
  cases hinput : input.dropWhile isSpace with
  | nil => simp [hinput] at h
  | cons b tail =>
    simp only [hinput, List.head?_cons] at h
    split at h
    · exact hform h
    split at h
    · exact hform h
    split at h
    · exact hform h
    split at h
    · exact hform h
    split at h
    · exact hform h
    split at h
    · cases h
    split at h <;> cases h

theorem valueStart_bind_eq_ok {f : UInt8 → Reader α} :
    (valueStart >>= f) input = .ok a rest ↔
      ∃ b after, input.dropWhile isSpace = b :: after ∧ f b (b :: after) = .ok a rest := by
  rw [bind_eq_ok]
  simp only [valueStart_eq_ok]
  constructor
  · rintro ⟨b, _, ⟨after, hinput, rfl⟩, h⟩
    exact ⟨b, after, hinput, h⟩
  · rintro ⟨b, after, hinput, h⟩
    exact ⟨b, _, ⟨after, hinput, rfl⟩, h⟩

theorem string_eq_ok {wanted value : String} :
    string wanted input = .ok value rest ↔
      ∃ after, input.dropWhile isSpace = byte '"' :: after ∧
        Reader.text (byte '"' :: after) = .ok value rest := by
  rw [string, valueStart_bind_eq_ok]
  constructor
  · rintro ⟨b, after, hinput, h⟩
    split at h
    · next hb =>
      rw [beq_iff_eq] at hb
      subst hb
      exact ⟨after, hinput, h⟩
    · exact (wrongKind_ne_ok h).elim
  · rintro ⟨after, hinput, h⟩
    exact ⟨_, after, hinput, h⟩

theorem integer_eq_ok {wanted : String} {fits : Int → Bool} {n : Int} :
    integer wanted fits input = .ok n rest ↔
      ∃ b after number, input.dropWhile isSpace = b :: after ∧
        (b = byte '-' ∨ (digit? b).isSome = true) ∧
        Reader.number (b :: after) = .ok number rest ∧ number.whole? = some n ∧ fits n = true := by
  have hnumber : ∀ number mid, (match (number : Number) with
      | .natural n => if fits n then pure (n : Int) else failForm (.outOfRange (.natural n) wanted)
      | .negative n => if fits n then pure n else failForm (.outOfRange (.negative n) wanted)
      | .float x => failForm (.wrongKind (.float x) wanted) : Reader Int) mid = .ok n rest ↔
      number.whole? = some n ∧ fits n = true ∧ mid = rest := by
    intro number mid
    cases number with
    | natural m =>
      simp only [Number.whole?, Option.some.injEq]
      split <;> grind [pure_apply, failForm_ne_ok]
    | negative m =>
      simp only [Number.whole?, Option.some.injEq]
      split <;> grind [pure_apply, failForm_ne_ok]
    | float x => simp [Number.whole?]
  rw [integer, valueStart_bind_eq_ok]
  constructor
  · rintro ⟨b, after, hinput, h⟩
    split at h
    · next hb =>
      rw [located_eq_ok, bind_eq_ok] at h
      obtain ⟨number, mid, hread, h⟩ := h
      obtain ⟨hwhole, hfits, rfl⟩ := (hnumber number mid).1 h
      exact ⟨b, after, number, hinput, by simpa using hb, hread, hwhole, hfits⟩
    · exact (wrongKind_ne_ok h).elim
  · rintro ⟨b, after, number, hinput, hb, hread, hwhole, hfits⟩
    refine ⟨b, after, hinput, ?_⟩
    rw [if_pos (by simpa using hb), located_eq_ok, bind_eq_ok]
    exact ⟨number, rest, hread, (hnumber number rest).2 ⟨hwhole, hfits, rfl⟩⟩

theorem value_of_number {depth : Nat} {b : UInt8} {number : Number}
    (hinput : input.dropWhile isSpace = b :: after)
    (hb : b = byte '-' ∨ (digit? b).isSome = true)
    (hnumber : Reader.number (b :: after) = .ok number rest) :
    value (depth + 1) input = .ok (.number number) rest := by
  have hword : b ≠ byte 'n' ∧ b ≠ byte 't' ∧ b ≠ byte 'f' := by
    refine ⟨?_, ?_, ?_⟩ <;> rintro rfl <;> revert hb <;> decide
  rw [value, valueStart_bind_eq_ok]
  refine ⟨b, after, hinput, ?_⟩
  simp only [beq_iff_eq, hword.1, hword.2.1, hword.2.2, if_false, Bool.or_eq_true, if_pos hb]
  exact bind_of_eq_ok hnumber _

theorem value_of_text {depth : Nat} {value : String}
    (hinput : input.dropWhile isSpace = byte '"' :: after)
    (htext : Reader.text (byte '"' :: after) = .ok value rest) :
    Reader.value (depth + 1) input = .ok (.text value) rest := by
  rw [Reader.value, valueStart_bind_eq_ok]
  exact ⟨_, after, hinput, bind_of_eq_ok htext _⟩

/-! ## Members and elements -/

theorem field_eq_ok {name : String} {old value : Option α} {r : Reader α} :
    Reader.field name old r input = .ok value rest ↔
      old = none ∧ ∃ mid a, colon input = .ok () mid ∧ r mid = .ok a rest ∧ value = some a := by
  unfold Reader.field
  cases old with
  | some _ => simp
  | none =>
    simp only [Option.isSome_none, Bool.false_eq_true, if_false, inField_eq_ok, bind_eq_ok,
      pure_apply, Outcome.ok.injEq, true_and]
    constructor
    · rintro ⟨_, mid, hcolon, a, _, hr, rfl, rfl⟩
      exact ⟨mid, a, hcolon, hr, rfl⟩
    · rintro ⟨mid, a, hcolon, hr, rfl⟩
      exact ⟨(), mid, hcolon, a, rest, hr, rfl, rfl⟩

theorem ignoredField_eq_ok {name : String} :
    ignoredField name input = .ok () rest ↔
      ∃ mid, colon input = .ok () mid ∧ skip mid = .ok () rest := by
  rw [ignoredField, inField_eq_ok, bind_eq_ok]
  exact ⟨fun ⟨_, mid, hcolon, h⟩ => ⟨mid, hcolon, h⟩, fun ⟨mid, hcolon, h⟩ => ⟨_, mid, hcolon, h⟩⟩

theorem members_eq_ok {member : String → σ → Reader σ} {fuel : Nat} {first : Bool}
    {state last : σ} :
    members member (fuel + 1) first state input = .ok last rest ↔
      nextKey first input = .ok none rest ∧ last = state ∨
      ∃ key mid next mid', nextKey first input = .ok (some key) mid ∧
        member key state mid = .ok next mid' ∧
        members member fuel false next mid' = .ok last rest := by
  rw [members, bind_eq_ok]
  constructor
  · rintro ⟨found, mid, hkey, h⟩
    cases found with
    | none =>
      cases h
      exact .inl ⟨hkey, rfl⟩
    | some key =>
      obtain ⟨next, mid', hmember, h⟩ := bind_eq_ok.1 h
      exact .inr ⟨key, mid, next, mid', hkey, hmember, h⟩
  · rintro (⟨hkey, rfl⟩ | ⟨key, mid, next, mid', hkey, hmember, h⟩)
    · exact ⟨none, rest, hkey, rfl⟩
    · exact ⟨some key, mid, hkey, bind_eq_ok.2 ⟨next, mid', hmember, h⟩⟩

theorem elementAt_eq_ok {index : Nat} {wanted : String} {r : Reader α} :
    elementAt index wanted r input = .ok a rest ↔
      ∃ mid, nextElement (index == 0) input = .ok true mid ∧ r mid = .ok a rest := by
  rw [elementAt, bind_eq_ok]
  constructor
  · rintro ⟨more, mid, hnext, h⟩
    split at h
    · next hmore =>
      rw [inField_eq_ok] at h
      exact ⟨mid, hmore ▸ hnext, h⟩
    · cases h
  · rintro ⟨mid, hnext, h⟩
    exact ⟨true, mid, hnext, by rwa [if_pos rfl, inField_eq_ok]⟩

/-! ## Objects and records -/

theorem object_eq_ok {wanted : String} {member : String → σ → Reader σ} {start : σ}
    {finish : σ → Except FormFault α} :
    Reader.object wanted member start finish input = .ok a rest ↔
      ∃ after last mid, input.dropWhile isSpace = byte '\x7b' :: after ∧
        members member (after.length + 1) true start after = .ok last mid ∧
        finish last = .ok a ∧ objectEnd mid = .ok () rest := by
  rw [Reader.object, valueStart_bind_eq_ok]
  constructor
  · rintro ⟨b, after, hinput, h⟩
    split at h
    · next hb =>
      rw [beq_iff_eq] at hb
      subst hb
      rw [located_eq_ok, closedBy_eq_ok] at h
      obtain ⟨mid, h, hend⟩ := h
      rw [advance_bind] at h
      obtain ⟨last, mid', hmembers, h⟩ := bind_eq_ok.1 h
      obtain ⟨hfinish, rfl⟩ := ofExcept_eq_ok.1 h
      exact ⟨after, last, mid, hinput, hmembers, hfinish, hend⟩
    · exact (wrongKind_ne_ok h).elim
  · rintro ⟨after, last, mid, hinput, hmembers, hfinish, hend⟩
    refine ⟨_, after, hinput, ?_⟩
    rw [if_pos (beq_self_eq_true _), located_eq_ok, closedBy_eq_ok]
    refine ⟨mid, ?_, hend⟩
    rw [advance_bind]
    exact bind_eq_ok.2 ⟨last, mid, hmembers, ofExcept_eq_ok.2 ⟨hfinish, rfl⟩⟩

theorem record_eq_ok {wanted : String} {member : String → σ → Reader σ} {start : σ}
    {finish : σ → Except FormFault α} {positional : Reader α} :
    record wanted member start finish positional input = .ok a rest ↔
      (∃ after mid, input.dropWhile isSpace = byte '[' :: after ∧
        positional after = .ok a mid ∧ listEnd mid = .ok () rest) ∨
      Reader.object wanted member start finish input = .ok a rest := by
  rw [record, valueStart_bind_eq_ok]
  have hagain : ∀ b after, input.dropWhile isSpace = b :: after →
      (Reader.object wanted member start finish (b :: after) = .ok a rest ↔
        Reader.object wanted member start finish input = .ok a rest) := by
    intro b after hinput
    rw [object_eq_ok, object_eq_ok, ← hinput, dropWhile_dropWhile_space]
  constructor
  · rintro ⟨b, after, hinput, h⟩
    split at h
    · next hb =>
      rw [beq_iff_eq] at hb
      subst hb
      rw [located_eq_ok, closedBy_eq_ok] at h
      obtain ⟨mid, h, hend⟩ := h
      exact .inl ⟨after, mid, hinput, h, hend⟩
    · exact .inr ((hagain b after hinput).1 h)
  · rintro (⟨after, mid, hinput, hpositional, hend⟩ | h)
    · refine ⟨_, after, hinput, ?_⟩
      rw [if_pos (beq_self_eq_true _), located_eq_ok, closedBy_eq_ok]
      exact ⟨mid, hpositional, hend⟩
    · obtain ⟨after, last, mid, hinput, -⟩ := object_eq_ok.1 h
      exact ⟨_, after, hinput, (hagain _ after hinput).2 h⟩

/-! ## Whole texts -/

theorem finished_eq_ok :
    finished input = .ok () rest ↔ input.dropWhile isSpace = [] ∧ rest = [] := by
  show (peek >>= _) input = _ ↔ _
  rw [peek_bind]
  cases input.dropWhile isSpace with
  | nil => simp [eq_comm]
  | cons b after => simp

theorem run_eq_ok {r : Reader α} :
    run r input = .ok a ↔ ∃ rest, r input = .ok a rest ∧ rest.dropWhile isSpace = [] := by
  unfold run
  constructor
  · intro h
    split at h
    · next b last hread =>
      cases h
      obtain ⟨_, rest, hr, hread⟩ := bind_eq_ok.1 hread
      obtain ⟨_, _, hfinished, hread⟩ := bind_eq_ok.1 hread
      cases hread
      exact ⟨rest, hr, (finished_eq_ok.1 hfinished).1⟩
    · cases h
  · rintro ⟨rest, hr, hrest⟩
    rw [bind_of_eq_ok hr, bind_of_eq_ok (finished_eq_ok.2 ⟨hrest, rfl⟩)]
    rfl

/-! ## Readers that go on after a fault -/

/-- What an outcome leaves. -/
def remainder : Outcome α → List UInt8
  | .ok _ rest => rest
  | .fault _ rest => rest

/-- The value of an outcome that has one. -/
def value? : Outcome α → Option α
  | .ok a _ => some a
  | .fault _ _ => none

theorem attempt_apply (r : Reader α) (input : List UInt8) :
    attempt r input = .ok (value? (r input)) (remainder (r input)) := by
  unfold attempt
  cases r input <;> rfl

end Reader

end Accounts.Json

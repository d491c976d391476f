import Accounts.Proofs.Json.Outline
import Accounts.Proofs.Json.Success

/-!
# What readers consume

Every reader takes a piece off the front of its input, and the outline of that piece is known. A
reader of a value that succeeds has passed over a whole value: the outline is where it was. One
that fails in the middle of a value has stopped inside a text or outside of texts, never with fewer
brackets open than before.

* `Leads` — what an outcome says about the outline of the consumed piece.
* `leads_value` — values of any form, which may be given up after a fault.
* `leads_skip` — values that are skipped.
* `leads_object` — objects, given what their members do.
-/

namespace Accounts.Json

open Outline

open Reader

namespace Outline

variable {α β : Type} {s t u : State} {input rest x : List UInt8}

/-! ## Outcomes -/

/-- A state in which reading may go on after a fault: inside a text, or outside with at least
`floor` brackets open. -/
def Astray (floor : Nat) (s : State) : Prop := s.mode = .quoted ∨ s.mode = .plain ∧ floor ≤ s.depth

theorem Astray.mono {floor floor' : Nat} (h : Astray floor s) (hle : floor' ≤ floor) :
    Astray floor' s := h.imp_right fun ⟨hm, hd⟩ => ⟨hm, Nat.le_trans hle hd⟩

/-- An outcome of reading `input` from state `s`. After a success the state is `t`. After a fault
either nothing is left, or the piece consumed may stand in no JSON text, or the state is one in
which no more is closed than was open. -/
def Leads (s t : State) (input : List UInt8) : Outcome α → Prop
  | .ok _ rest => ∃ x, input = x ++ rest ∧ s.run x = some t
  | .fault _ rest => rest = [] ∨ ∃ x, input = x ++ rest ∧
      (s.mode.run x = none ∨ ∃ u, s.run x = some u ∧ Astray t.depth u)

namespace Leads

theorem ok {a : α} : Leads s s input (.ok a input) := ⟨[], rfl, rfl⟩

theorem fault {e : Fault} (h : Astray t.depth s) : Leads s t input (.fault e input : Outcome α) :=
  .inr ⟨[], rfl, .inr ⟨s, rfl, h⟩⟩

theorem fault_nil {e : Fault} : Leads s t input (.fault e [] : Outcome α) := .inl rfl

/-- A byte that may not stand there is consumed with a fault. -/
theorem fault_of_step {e : Fault} {b : UInt8} (h : s.mode.step b = none) :
    Leads s t (b :: rest) (.fault e rest : Outcome α) :=
  .inr ⟨[b], rfl, .inl (by simp [Mode.run, h])⟩

theorem append {o : Outcome α} (hx : s.run x = some t) (h : Leads t u input o) :
    Leads s u (x ++ input) o := by
  cases o with
  | ok a rest =>
    obtain ⟨y, rfl, hy⟩ := h
    exact ⟨x ++ y, by simp, by rw [State.run_append_of_eq hx, hy]⟩
  | fault e rest =>
    refine h.imp_right fun ⟨y, hy, hrun⟩ => ⟨x ++ y, by simp [hy], hrun.imp ?_ ?_⟩
    · intro hdead
      rw [Mode.run_append, State.mode_run hx, Option.bind_some, hdead]
    · rintro ⟨v, hv, hastray⟩
      exact ⟨v, by rw [State.run_append_of_eq hx, hv], hastray⟩

theorem cons {o : Outcome α} {b : UInt8} (hb : s.step b = some t) (h : Leads t u input o) :
    Leads s u (b :: input) o :=
  append (x := [b]) (by simp [State.run_cons, hb]) h

/-- Reading on after a success. -/
theorem bind {r : Reader α} {f : α → Reader β} (hr : Leads s t input (r input))
    (hf : ∀ a rest, r input = .ok a rest → Leads t u rest (f a rest))
    (hd : u.depth ≤ t.depth := by simp) : Leads s u input ((r >>= f) input) := by
  rw [bind_apply]
  cases h : r input with
  | ok a rest =>
    rw [h] at hr
    obtain ⟨x, rfl, hx⟩ := hr
    exact append hx (hf a rest h)
  | fault e rest =>
    rw [h] at hr
    refine hr.imp_right fun ⟨x, hx, hrun⟩ => ⟨x, hx, hrun.imp_right ?_⟩
    rintro ⟨v, hv, hastray⟩
    exact ⟨v, hv, hastray.mono hd⟩

theorem located {r : Reader α} (h : Leads s t input (r input)) :
    Leads s t input (Reader.located r input) := by
  unfold Reader.located
  cases hr : r input with
  | ok a rest => rwa [hr] at h
  | fault e rest => rwa [hr] at h

theorem inField {r : Reader α} {name : String} (h : Leads s t input (r input)) :
    Leads s t input (Reader.inField name r input) := by
  unfold Reader.inField
  cases hr : r input with
  | ok a rest => rwa [hr] at h
  | fault e rest => rwa [hr] at h

/-- The same among more brackets. -/
theorem deepen {o : Outcome α} (h : Leads s t input o) (k : Nat) :
    Leads (s.deepen k) (t.deepen k) input o := by
  cases o with
  | ok a rest =>
    obtain ⟨x, rfl, hx⟩ := h
    exact ⟨x, rfl, State.run_deepen hx k⟩
  | fault e rest =>
    refine h.imp_right fun ⟨x, hx, hrun⟩ => ⟨x, hx, hrun.imp_right ?_⟩
    rintro ⟨v, hv, hastray⟩
    exact ⟨v.deepen k, State.run_deepen hv k,
      hastray.imp_right fun ⟨hm, hle⟩ => ⟨hm, Nat.add_le_add_right hle k⟩⟩

end Leads

/-! ## White space -/

theorem step_isSpace {d : Nat} {b : UInt8} (h : isSpace b = true) :
    (plainAt d).step b = some (plainAt d) := by
  simp only [isSpace, Bool.or_eq_true, beq_iff_eq] at h
  rcases h with ((rfl | rfl) | rfl) | rfl <;> rfl

theorem run_space {d : Nat} (h : ∀ b ∈ x, isSpace b = true) :
    (plainAt d).run x = some (plainAt d) := by
  induction x with
  | nil => rfl
  | cons b x ih =>
    rw [State.run_cons, step_isSpace (h b List.mem_cons_self), Option.bind_some,
      ih fun c hc => h c (List.mem_cons_of_mem _ hc)]

theorem run_takeWhile_space (d : Nat) (input : List UInt8) :
    (plainAt d).run (input.takeWhile isSpace) = some (plainAt d) :=
  run_space (List.all_eq_true.1 List.all_takeWhile)

theorem Leads.space {d : Nat} {o : Outcome α}
    (h : Leads (plainAt d) t (input.dropWhile isSpace) o) : Leads (plainAt d) t input o := by
  rw [← List.takeWhile_append_dropWhile (p := isSpace) (l := input)]
  exact Leads.append (run_takeWhile_space d input) h

theorem Leads.peek {d : Nat} {f : Option UInt8 → Reader α}
    (hnil : Leads (plainAt d) t [] (f none []))
    (hcons : ∀ b rest, Leads (plainAt d) t (b :: rest) (f (some b) (b :: rest))) :
    Leads (plainAt d) t input ((Reader.peek >>= f) input) := by
  refine Leads.space ?_
  show Leads (plainAt d) t (input.dropWhile isSpace)
    (f (input.dropWhile isSpace).head? (input.dropWhile isSpace))
  cases input.dropWhile isSpace with
  | nil => exact hnil
  | cons b rest => exact hcons b rest

/-! ## Texts -/

theorem astray_quoted {floor d : Nat} : Astray floor (quotedAt d) := .inl rfl

theorem astray_plain {floor d : Nat} (h : floor ≤ d) : Astray floor (plainAt d) := .inr ⟨rfl, h⟩

theorem step_digits {left d : Nat} {b : UInt8} (h : (hexDigit? b).isSome = true) :
    (⟨.digits left, d⟩ : State).step b = some ⟨Mode.beforeDigits left, d⟩ := by
  simp [State.step, Mode.step, h, State.turned]

theorem leads_hexUnit (d : Nat) (input : List UInt8) :
    Leads ⟨.digits 3, d⟩ (quotedAt d) input (hexUnit input) := by
  unfold hexUnit
  split
  · next b₁ b₂ b₃ b₄ rest =>
    split
    · next h₁ h₂ h₃ h₄ =>
      exact .cons (step_digits (by simp [h₁])) (.cons (step_digits (by simp [h₂]))
        (.cons (step_digits (by simp [h₃])) (.cons (step_digits (by simp [h₄])) .ok)))
    · next hnone =>
      refine .inr ⟨[b₁, b₂, b₃, b₄], rfl, .inl ?_⟩
      cases h₁ : hexDigit? b₁ with
      | none => simp [Mode.run, Mode.step, h₁]
      | some =>
        cases h₂ : hexDigit? b₂ with
        | none => simp [Mode.run, Mode.step, Mode.beforeDigits, h₁, h₂]
        | some =>
          cases h₃ : hexDigit? b₃ with
          | none => simp [Mode.run, Mode.step, Mode.beforeDigits, h₁, h₂, h₃]
          | some =>
            cases h₄ : hexDigit? b₄ with
            | none => simp [Mode.run, Mode.step, Mode.beforeDigits, h₁, h₂, h₃, h₄]
            | some => exact absurd h₄ (hnone _ _ _ _ h₁ h₂ h₃)
  · exact .fault_nil

theorem leads_pairByte {wanted : UInt8} (hs : s.step wanted = some t)
    (hother : ∀ b, b ≠ wanted → s.mode.step b = none ∨ ∃ u, s.step b = some u ∧ Astray t.depth u) :
    Leads s t input (pairByte wanted input) := by
  cases input with
  | nil => exact .fault_nil
  | cons b rest =>
    simp only [pairByte, textByte, bind_apply]
    by_cases hb : b = wanted
    · subst hb
      simp only [beq_self_eq_true, if_true]
      exact .cons hs .ok
    · simp only [beq_iff_eq, hb, if_false]
      refine .inr ⟨[b], rfl, (hother b hb).imp (by simp [Mode.run, ·]) ?_⟩
      rintro ⟨u, hu, hastray⟩
      exact ⟨u, by simp [State.run_cons, hu], hastray⟩

/-- A byte other than a backslash keeps a text going or ends it. -/
theorem astray_step_quoted {floor d : Nat} {b : UInt8} (hb : b ≠ byte '\\') (hd : floor ≤ d) :
    ∃ u, (quotedAt d).step b = some u ∧ Astray floor u := by
  by_cases hq : b = byte '"'
  · exact ⟨plainAt d, by simp [State.step, Mode.step, Mode.stepQuoted, hq, State.turned],
      astray_plain hd⟩
  · exact ⟨quotedAt d, by simp [State.step, Mode.step, Mode.stepQuoted, hq, hb, State.turned],
      astray_quoted⟩

theorem step_escaped {d : Nat} {b : UInt8} (hb : b ≠ byte 'u') :
    (⟨.escaped, d⟩ : State).mode.step b = none ∨
      (⟨.escaped, d⟩ : State).step b = some (quotedAt d) := by
  cases h : (simpleEscape? b).isSome with
  | false => exact .inl (by simp [Mode.step, hb, h])
  | true => exact .inr (by simp [State.step, Mode.step, hb, h, State.turned])

theorem leads_hexEscape (d : Nat) (input : List UInt8) :
    Leads ⟨.digits 3, d⟩ (quotedAt d) input (hexEscape input) := by
  unfold hexEscape
  refine .bind (leads_hexUnit d input) ?_
  intro unit rest _
  split
  · exact .fault astray_quoted
  split
  · refine .bind (leads_pairByte (t := ⟨.escaped, d⟩) rfl fun b hb =>
      .inr (astray_step_quoted hb (Nat.le_refl d))) fun _ rest _ => ?_
    refine .bind (leads_pairByte (t := ⟨.digits 3, d⟩) rfl fun b hb =>
      (step_escaped hb).imp_right fun h => ⟨_, h, astray_quoted⟩) fun _ rest _ => ?_
    refine .bind (leads_hexUnit d rest) ?_
    intro low rest _
    split
    · exact .ok
    · exact .fault astray_quoted
  · exact .ok

theorem leads_escape (d : Nat) (input : List UInt8) :
    Leads ⟨.escaped, d⟩ (quotedAt d) input (escape input) := by
  cases input with
  | nil => exact .fault_nil
  | cons b rest =>
    simp only [escape, textByte, bind_apply]
    split
    · next hb =>
      rw [beq_iff_eq] at hb
      subst hb
      exact .cons (t := ⟨.digits 3, d⟩) rfl (leads_hexEscape d rest)
    · next hb =>
      rw [beq_iff_eq] at hb
      cases h : simpleEscape? b with
      | none => exact .fault_of_step (by simp [Mode.step, hb, h])
      | some c => exact .cons (by simp [State.step, Mode.step, hb, h, State.turned]) .ok

/-- The bytes up to the closing quote, which is next after a success. -/
theorem leads_textBytes (d fuel : Nat) (read input : List UInt8) :
    Leads (quotedAt d) (quotedAt d) input (textBytes fuel read input) := by
  induction fuel generalizing read input with
  | zero => exact .fault astray_quoted
  | succ fuel ih =>
    cases input with
    | nil => exact .fault_nil
    | cons b rest =>
      by_cases hq : b = byte '"'
      · simp only [textBytes, hq, beq_self_eq_true, if_true]
        exact .ok
      by_cases hb : b = byte '\\'
      · simp only [textBytes, beq_iff_eq, hq, if_false, if_pos hb]
        subst hb
        refine .cons (t := ⟨.escaped, d⟩) rfl ?_
        exact .bind (leads_escape d rest) fun bytes rest _ => ih _ _
      have hstep : (quotedAt d).step b = some (quotedAt d) := by
        simp [State.step, Mode.step, Mode.stepQuoted, hq, hb, State.turned]
      simp only [textBytes, beq_iff_eq, hq, hb, if_false]
      split
      · exact .cons hstep (.fault astray_quoted)
      · exact .cons hstep (ih _ _)

theorem textBytes_rest {fuel : Nat} {read input bytes rest : List UInt8}
    (h : textBytes fuel read input = .ok bytes rest) : ∃ after, rest = byte '"' :: after := by
  induction fuel generalizing read input with
  | zero => cases h
  | succ fuel ih =>
    cases input with
    | nil => cases h
    | cons b tail =>
      simp only [textBytes] at h
      split at h
      · next hq =>
        cases h
        rw [beq_iff_eq] at hq
        exact ⟨tail, by rw [hq]⟩
      split at h
      · obtain ⟨_, _, _, hrest⟩ := bind_eq_ok.1 h
        exact ih hrest
      split at h
      · cases h
      · exact ih h

theorem leads_text (d : Nat) (input : List UInt8) :
    Leads (plainAt d) (plainAt d) (byte '"' :: input) (Reader.text (byte '"' :: input)) := by
  unfold Reader.text
  refine .bind (t := quotedAt d) ⟨[byte '"'], rfl, rfl⟩ ?_
  intro _ rest h
  refine .bind (leads_textBytes d _ [] _) ?_
  intro bytes rest hbytes
  obtain ⟨after, rfl⟩ := textBytes_rest hbytes
  unfold decoded
  split
  · exact .cons (t := plainAt d) rfl .ok
  · exact .fault astray_quoted

/-! ## Words -/

theorem leads_word (d : Nat) (wanted input : List UInt8) :
    Leads ⟨Mode.beforeWord wanted, d⟩ (plainAt d) input (word wanted input) := by
  induction wanted generalizing input with
  | nil => exact .ok
  | cons w ws ih =>
    cases input with
    | nil => exact .fault_nil
    | cons b rest =>
      unfold word
      split
      · next hb =>
        refine .cons (t := ⟨Mode.beforeWord ws, d⟩) ?_ (ih rest)
        simp [State.step, Mode.beforeWord, Mode.step, hb, State.turned]
      · next hb =>
        refine .fault_of_step ?_
        simp [Mode.beforeWord, Mode.step, hb]

theorem leads_nullWord (d : Nat) (rest : List UInt8) :
    Leads (plainAt d) (plainAt d) (byte 'n' :: rest) (nullWord (byte 'n' :: rest)) :=
  .cons (t := ⟨Mode.beforeWord [byte 'u', byte 'l', byte 'l'], d⟩) rfl (leads_word d _ rest)

theorem leads_trueWord (d : Nat) (rest : List UInt8) :
    Leads (plainAt d) (plainAt d) (byte 't' :: rest) (trueWord (byte 't' :: rest)) :=
  .cons (t := ⟨Mode.beforeWord [byte 'r', byte 'u', byte 'e'], d⟩) rfl (leads_word d _ rest)

theorem leads_falseWord (d : Nat) (rest : List UInt8) :
    Leads (plainAt d) (plainAt d) (byte 'f' :: rest) (falseWord (byte 'f' :: rest)) :=
  .cons (t := ⟨Mode.beforeWord [byte 'a', byte 'l', byte 's', byte 'e'], d⟩) rfl
    (leads_word d _ rest)

/-! ## Numbers -/

theorem step_digit {d : Nat} {b : UInt8} (h : (digit? b).isSome = true) (m : Mode)
    (hm : m = .plain ∨ m = .signed ∨ m = .exponent) :
    (⟨m, d⟩ : State).step b = some (plainAt d) := by
  rcases hm with rfl | rfl | rfl <;>
    simp [State.step, Mode.step, Mode.stepPlain, h, State.turned]

theorem run_digits (d : Nat) (h : ∀ b ∈ x, (digit? b).isSome = true) :
    (plainAt d).run x = some (plainAt d) := by
  induction x with
  | nil => rfl
  | cons b x ih =>
    rw [State.run_cons, step_digit (h b List.mem_cons_self) _ (.inl rfl), Option.bind_some,
      ih fun c hc => h c (List.mem_cons_of_mem _ hc)]

theorem fittingDigits_eq (input : List UInt8) (significand count : Nat) :
    ∃ x, input = x ++ (fittingDigits input significand count).2.2 ∧
      ∀ b ∈ x, (digit? b).isSome = true := by
  fun_induction fittingDigits input significand count with
  | case1 => exact ⟨[], rfl, by simp⟩
  | case2 => exact ⟨[], rfl, by simp⟩
  | case3 b rest significand count digit hdigit hfits ih =>
    obtain ⟨x, hx, hall⟩ := ih
    exact ⟨b :: x, by rw [List.cons_append, ← hx], by simpa [hdigit] using hall⟩
  | case4 => exact ⟨[], rfl, by simp⟩

theorem skippedDigits_eq (input : List UInt8) (count : Nat) :
    ∃ x, input = x ++ (skippedDigits input count).2 ∧ ∀ b ∈ x, (digit? b).isSome = true := by
  fun_induction skippedDigits input count with
  | case1 => exact ⟨[], rfl, by simp⟩
  | case2 b rest count hdigit ih =>
    obtain ⟨x, hx, hall⟩ := ih
    exact ⟨b :: x, by rw [List.cons_append, ← hx], by simpa [hdigit] using hall⟩
  | case3 => exact ⟨[], rfl, by simp⟩

theorem exponentPlaces_eq (bound : Nat) (input : List UInt8) (value : Nat) :
    ∃ x, input = x ++ (exponentPlaces bound input value).2.1 ∧
      ∀ b ∈ x, (digit? b).isSome = true := by
  fun_induction exponentPlaces bound input value with
  | case1 => exact ⟨[], rfl, by simp⟩
  | case2 => exact ⟨[], rfl, by simp⟩
  | case3 b rest value digit hdigit hfits ih =>
    obtain ⟨x, hx, hall⟩ := ih
    exact ⟨b :: x, by rw [List.cons_append, ← hx], by simpa [hdigit] using hall⟩
  | case4 b rest value digit hdigit => exact ⟨[b], rfl, by simp [hdigit]⟩

theorem Leads.digits {d : Nat} {o : Outcome α} (hx : ∃ x, input = x ++ rest ∧
    ∀ b ∈ x, (digit? b).isSome = true) (h : Leads (plainAt d) t rest o) :
    Leads (plainAt d) t input o := by
  obtain ⟨x, rfl, hall⟩ := hx
  exact .append (run_digits d hall) h

theorem leads_assembled (d : Nat) (negative : Bool) (significand : Nat) (exponent : Int)
    (input : List UInt8) :
    Leads (plainAt d) (plainAt d) input (assembled negative significand exponent input) := by
  simp only [assembled]
  cases scaled 4 (Binary64.ofNat significand) exponent with
  | some x => exact .ok
  | none => exact .fault (astray_plain (Nat.le_refl d))

theorem leads_exponentDigit {d : Nat} {m : Mode} {atEnd : SyntaxFault}
    (hm : m = .signed ∨ m = .exponent)
    (hsign : m = .exponent → ∀ b tail, input = b :: tail → b ≠ byte '+' ∧ b ≠ byte '-') :
    Leads ⟨m, d⟩ (plainAt d) input (exponentDigit atEnd input) := by
  cases input with
  | nil => exact .fault_nil
  | cons b rest =>
    simp only [exponentDigit]
    split
    · next digit hb => exact .cons (step_digit (by simp [hb]) m (.inr hm)) .ok
    · next hb =>
      refine .fault_of_step ?_
      rcases hm with rfl | rfl
      · simp [Mode.step, hb]
      · have hne := hsign rfl b rest rfl
        simp [Mode.step, hb, hne.1, hne.2]

theorem leads_exponentStart (d : Nat) (atEnd : SyntaxFault) (f : Bool → Nat → Reader α)
    (hf : ∀ below first rest, Leads (plainAt d) t rest (f below first rest)) (hd : t.depth ≤ d)
    (input : List UInt8) :
    Leads ⟨.exponent, d⟩ t input
      ((do let below ← exponentSign; let first ← exponentDigit atEnd; f below first) input) := by
  have hsigned : ∀ below rest,
      Leads ⟨.signed, d⟩ t rest ((exponentDigit atEnd >>= f below) rest) := fun below rest =>
    .bind (leads_exponentDigit (.inl rfl) (by simp)) (fun first rest _ => hf below first rest) hd
  have hbare : ∀ rest, (∀ b tail, rest = b :: tail → b ≠ byte '+' ∧ b ≠ byte '-') →
      Leads ⟨.exponent, d⟩ t rest ((exponentDigit atEnd >>= f false) rest) := fun rest hrest =>
    .bind (leads_exponentDigit (.inr rfl) fun _ => hrest)
      (fun first rest _ => hf false first rest) hd
  rw [bind_apply]
  cases input with
  | nil => exact hbare [] (by simp)
  | cons b rest =>
    by_cases hplus : b = byte '+'
    · simp only [exponentSign, hplus, beq_self_eq_true, if_true]
      exact .cons (t := ⟨.signed, d⟩) rfl (hsigned false rest)
    by_cases hminus : b = byte '-'
    · subst hminus
      exact .cons (t := ⟨.signed, d⟩) rfl (hsigned true rest)
    simp only [exponentSign, beq_iff_eq, hplus, hminus, if_false]
    refine hbare _ ?_
    intro c tail h
    cases h
    exact ⟨hplus, hminus⟩

theorem leads_exponentPart (d : Nat) (negative : Bool) (significand : Nat) (start : Int)
    {b : UInt8} (hb : b = byte 'e' ∨ b = byte 'E') (rest : List UInt8) :
    Leads (plainAt d) (plainAt d) (b :: rest)
      (exponentPart negative significand start (b :: rest)) := by
  refine .cons (t := ⟨.exponent, d⟩) (by rcases hb with rfl | rfl <;> rfl) ?_
  refine leads_exponentStart d _ _ (fun below first rest => ?_) (Nat.le_refl d) rest
  refine .bind (t := plainAt d) (.digits (exponentPlaces_eq 2147483647 rest first) .ok)
    fun places rest _ => ?_
  obtain ⟨digits, beyond⟩ := places
  dsimp only
  split
  · split
    · exact .fault (astray_plain (Nat.le_refl d))
    · exact .digits (skippedDigits_eq rest 0) .ok
  · exact leads_assembled d _ _ _ _

theorem leads_optionalExponent (d : Nat) (negative : Bool) (significand : Nat) (start : Int)
    (input : List UInt8) :
    Leads (plainAt d) (plainAt d) input
      (optionalExponent negative significand start input) := by
  cases input with
  | nil => exact leads_assembled d _ _ _ _
  | cons b rest =>
    simp only [optionalExponent, Bool.or_eq_true, beq_iff_eq]
    split
    · next hb => exact leads_exponentPart d _ _ _ hb rest
    · exact leads_assembled d _ _ _ _

theorem step_point (d : Nat) : (plainAt d).step (byte '.') = some (plainAt d) := rfl

theorem leads_fraction (d : Nat) (negative : Bool) (significand : Nat) (start : Int)
    (rest : List UInt8) :
    Leads (plainAt d) (plainAt d) (byte '.' :: rest)
      (fraction negative significand start (byte '.' :: rest)) := by
  refine .cons (step_point d) ?_
  have hdigits := fittingDigits_eq rest significand 0
  obtain ⟨significand, count, rest, hread⟩ :
      ∃ s c r, fittingDigits rest significand 0 = (s, c, r) := ⟨_, _, _, rfl⟩
  rw [hread] at hdigits
  simp only [fraction, List.tail_cons, hread]
  refine .digits hdigits ?_
  split
  · exact .digits (skippedDigits_eq rest 0) (leads_optionalExponent d _ _ _ _)
  split
  · split <;> exact .fault (astray_plain (Nat.le_refl d))
  · exact leads_optionalExponent d _ _ _ _

theorem leads_afterWhole (d : Nat) (negative : Bool) (significand : Nat) (input : List UInt8) :
    Leads (plainAt d) (plainAt d) input (afterWhole negative significand input) := by
  cases input with
  | nil => exact .ok
  | cons b rest =>
    simp only [afterWhole, Bool.or_eq_true, beq_iff_eq]
    split
    · next hb => subst hb; exact leads_fraction d _ _ _ rest
    split
    · next hb => exact leads_exponentPart d _ _ _ hb rest
    · exact .ok

theorem leads_longWhole (d : Nat) (negative : Bool) (significand : Nat) (input : List UInt8) :
    Leads (plainAt d) (plainAt d) input (longWhole negative significand input) := by
  have hdigits := skippedDigits_eq input 0
  obtain ⟨count, rest, hread⟩ : ∃ c r, skippedDigits input 0 = (c, r) := ⟨_, _, rfl⟩
  rw [hread] at hdigits
  simp only [longWhole, hread]
  refine .digits hdigits ?_
  cases rest with
  | nil => exact leads_assembled d _ _ _ _
  | cons b rest =>
    simp only [beq_iff_eq]
    split
    · next hb => subst hb; exact leads_fraction d _ _ _ rest
    · exact leads_optionalExponent d _ _ _ _

theorem leads_magnitude (d : Nat) (negative : Bool) (input : List UInt8) :
    Leads ⟨.signed, d⟩ (plainAt d) input (magnitude negative input) := by
  cases input with
  | nil => exact .fault_nil
  | cons b rest =>
    simp only [magnitude]
    split
    · next hb => exact .fault_of_step (show Mode.signed.step b = none by simp [Mode.step, hb])
    · next hb =>
      refine .cons (step_digit (by simp [hb]) _ (.inr (.inl rfl))) ?_
      split
      · exact .fault (astray_plain (Nat.le_refl d))
      · exact leads_afterWhole d _ _ _
    · next digit _ hb =>
      refine .cons (step_digit (by simp [hb]) _ (.inr (.inl rfl))) ?_
      have hdigits := fittingDigits_eq rest digit 1
      obtain ⟨significand, count, rest, hread⟩ :
          ∃ s c r, fittingDigits rest digit 1 = (s, c, r) := ⟨_, _, _, rfl⟩
      rw [hread] at hdigits
      simp only [hread]
      refine .digits hdigits ?_
      split
      · exact leads_longWhole d _ _ _
      · exact leads_afterWhole d _ _ _

/-- To begin with a digit is the same outside of numbers and after a sign. -/
theorem Leads.of_signed {d : Nat} {o : Outcome α} {b : UInt8} (hb : (digit? b).isSome = true)
    (h : Leads ⟨.signed, d⟩ (plainAt d) (b :: rest) o) :
    Leads (plainAt d) (plainAt d) (b :: rest) o := by
  have hplain := step_digit (d := d) hb .plain (.inl rfl)
  have hsigned := step_digit (d := d) hb .signed (.inr (.inl rfl))
  have hrun : ∀ y, (plainAt d).run (b :: y) = (⟨.signed, d⟩ : State).run (b :: y) := fun y => by
    rw [State.run_cons, State.run_cons, hplain, hsigned]
  have hmode : ∀ y, Mode.plain.run (b :: y) = Mode.signed.run (b :: y) := fun y => by
    obtain ⟨_, hp, -⟩ := State.mode_step hplain
    obtain ⟨_, hs, -⟩ := State.mode_step hsigned
    simp only [Mode.run, hp, hs, Option.bind_some]
  cases o with
  | ok a rest =>
    obtain ⟨x, hx, hxrun⟩ := h
    cases x with
    | nil => cases hxrun
    | cons c y =>
      cases hx
      exact ⟨b :: y, rfl, by rw [hrun, hxrun]⟩
  | fault e rest =>
    refine h.imp_right ?_
    intro hleft
    obtain ⟨x, hx, hxrun⟩ := hleft
    cases x with
    | nil =>
      rcases hxrun with hdead | ⟨u, hu, hastray⟩
      · cases hdead
      · cases hu
        rcases hastray with hm | ⟨hm, -⟩ <;> cases hm
    | cons c y =>
      cases hx
      exact ⟨b :: y, rfl, by rw [hrun, hmode]; exact hxrun⟩

theorem leads_number (d : Nat) {b : UInt8} (hb : b = byte '-' ∨ (digit? b).isSome = true)
    (rest : List UInt8) :
    Leads (plainAt d) (plainAt d) (b :: rest) (Reader.number (b :: rest)) := by
  simp only [Reader.number, beq_iff_eq]
  split
  · next hminus => exact .cons (t := ⟨.signed, d⟩) (hminus ▸ rfl) (leads_magnitude d true rest)
  · next hminus => exact (leads_magnitude d false _).of_signed (hb.resolve_left hminus)

/-! ## Members and elements -/

theorem astray_here {d : Nat} : Astray d (plainAt d) := astray_plain (Nat.le_refl d)

theorem leads_valueStart {d : Nat} {f : UInt8 → Reader α}
    (h : ∀ b rest, Leads (plainAt d) t (b :: rest) (f b (b :: rest))) (input : List UInt8) :
    Leads (plainAt d) t input ((valueStart >>= f) input) :=
  .peek (f := fun found => demand found >>= f) .fault_nil h

theorem step_separator {d : Nat} {b : UInt8} (hb : b = byte ',' ∨ b = byte ':') :
    (plainAt (d + 1)).step b = some (plainAt (d + 1)) := by
  rcases hb with rfl | rfl <;> rfl

theorem leads_colon (d : Nat) (input : List UInt8) :
    Leads (plainAt (d + 1)) (plainAt (d + 1)) input (colon input) := by
  refine .peek .fault_nil ?_
  intro b rest
  simp only [beq_iff_eq]
  split
  · next hb => exact .cons (step_separator (.inr hb)) .ok
  · exact .fault astray_here

theorem leads_nextKey (d : Nat) (first : Bool) (input : List UInt8) :
    Leads (plainAt (d + 1)) (plainAt (d + 1)) input (nextKey first input) := by
  have hkey : ∀ b rest, b = byte '"' → Leads (plainAt (d + 1)) (plainAt (d + 1)) (b :: rest)
      ((do pure (some (← Reader.text)) : Reader (Option String)) (b :: rest)) := by
    rintro _ rest rfl
    exact .bind (leads_text (d + 1) rest) fun _ _ _ => .ok
  refine .peek .fault_nil ?_
  intro b rest
  simp only [beq_iff_eq]
  split
  · exact .ok
  split
  · split
    · next hb => exact hkey b rest hb
    · exact .fault astray_here
  split
  · next hb =>
    rw [advance_bind]
    refine .cons (step_separator (.inl hb)) ?_
    refine .peek .fault_nil ?_
    intro c rest
    dsimp only
    split
    · next hc => exact hkey c rest hc
    split <;> exact .fault astray_here
  · exact .fault astray_here

theorem leads_nextElement (d : Nat) (first : Bool) (input : List UInt8) :
    Leads (plainAt (d + 1)) (plainAt (d + 1)) input (nextElement first input) := by
  refine .peek .fault_nil ?_
  intro b rest
  simp only [beq_iff_eq]
  split
  · exact .ok
  split
  · exact .ok
  split
  · next hb =>
    rw [advance_bind]
    refine .cons (step_separator (.inl hb)) ?_
    refine .peek .fault_nil ?_
    intro c rest
    dsimp only
    split
    · exact .fault astray_here
    · exact .ok
  · exact .fault astray_here

theorem leads_members {σ : Type} {d : Nat} {member : String → σ → Reader σ}
    (hmember : ∀ key state input,
      Leads (plainAt (d + 1)) (plainAt (d + 1)) input (member key state input))
    (fuel : Nat) (first : Bool) (state : σ) (input : List UInt8) :
    Leads (plainAt (d + 1)) (plainAt (d + 1)) input (members member fuel first state input) := by
  induction fuel generalizing first state input with
  | zero => exact .fault astray_here
  | succ fuel ih =>
    refine .bind (leads_nextKey d first input) ?_
    intro key rest _
    cases key with
    | none => exact .ok
    | some key => exact .bind (hmember key state rest) fun state rest _ => ih false state rest

theorem leads_elements {σ : Type} {d : Nat} {element : Nat → σ → Reader σ}
    (helement : ∀ index state input,
      Leads (plainAt (d + 1)) (plainAt (d + 1)) input (element index state input))
    (fuel index : Nat) (state : σ) (input : List UInt8) :
    Leads (plainAt (d + 1)) (plainAt (d + 1)) input (elements element fuel index state input) := by
  induction fuel generalizing index state input with
  | zero => exact .fault astray_here
  | succ fuel ih =>
    refine .bind (leads_nextElement d (index == 0) input) ?_
    intro more rest _
    split
    · exact .bind (helement index state rest) fun state rest _ => ih (index + 1) state rest
    · exact .ok

/-! ## Closing brackets -/

theorem Astray.run_space {n : Nat} (h : Astray n s) (hx : ∀ b ∈ x, isSpace b = true) :
    s.run x = some s := by
  obtain ⟨mode, depth⟩ := s
  rcases h with hm | ⟨hm, -⟩
  · cases hm
    induction x with
    | nil => rfl
    | cons b x ih =>
      have hb : (quotedAt depth).step b = some (quotedAt depth) := by
        have hspace := hx b List.mem_cons_self
        simp only [isSpace, Bool.or_eq_true, beq_iff_eq] at hspace
        rcases hspace with ((rfl | rfl) | rfl) | rfl <;> rfl
      rw [State.run_cons, hb, Option.bind_some, ih fun c hc => hx c (List.mem_cons_of_mem _ hc)]
  · cases hm
    exact Outline.run_space hx

theorem Astray.step_comma {n : Nat} (h : Astray (n + 1) s) : s.step (byte ',') = some s := by
  obtain ⟨mode, depth⟩ := s
  rcases h with hm | ⟨hm, hd⟩
  · cases hm
    rfl
  · cases hm
    obtain ⟨k, rfl⟩ : ∃ k, depth = k + 1 :=
      ⟨depth - 1, (Nat.sub_add_cancel (Nat.le_trans (Nat.le_add_left 1 n) hd)).symm⟩
    exact step_separator (.inl rfl)

theorem Astray.step_close {n : Nat} {b : UInt8} (h : Astray (n + 1) s)
    (hb : b = byte ']' ∨ b = byte '\x7d') : ∃ u, s.step b = some u ∧ Astray n u := by
  obtain ⟨mode, depth⟩ := s
  rcases h with hm | ⟨hm, hd⟩
  · cases hm
    exact ⟨quotedAt depth, by rcases hb with rfl | rfl <;> rfl, astray_quoted⟩
  · cases hm
    obtain ⟨k, rfl⟩ : ∃ k, depth = k + 1 :=
      ⟨depth - 1, (Nat.sub_add_cancel (Nat.le_trans (Nat.le_add_left 1 n) hd)).symm⟩
    exact ⟨plainAt k, by rcases hb with rfl | rfl <;> rfl, astray_plain (by simpa using hd)⟩

/-- A reader of a closing bracket. It is also run after a fault, and then, wherever the fault has
left the outline, at most one bracket is closed. -/
structure Closes (close : Reader Unit) : Prop where
  leads : ∀ d input, Leads (plainAt (d + 1)) (plainAt d) input (close input)
  settles : ∀ input, ∃ x, input = x ++ remainder (close input) ∧
    ∀ n s, Astray (n + 1) s → ∃ u, s.run x = some u ∧ Astray n u

/-- What a closing reader does after white space is what it does. -/
theorem settles_of_peek {f : Option UInt8 → Reader Unit}
    (hnil : remainder (f none []) = [])
    (hcons : ∀ b rest, ∃ x, b :: rest = x ++ remainder (f (some b) (b :: rest)) ∧
      ∀ n s, Astray (n + 1) s → ∃ u, s.run x = some u ∧ Astray n u)
    (input : List UInt8) :
    ∃ x, input = x ++ remainder ((Reader.peek >>= f) input) ∧
      ∀ n s, Astray (n + 1) s → ∃ u, s.run x = some u ∧ Astray n u := by
  have hspace := List.all_eq_true.1 (List.all_takeWhile (l := input) (p := isSpace))
  have hsplit := List.takeWhile_append_dropWhile (p := isSpace) (l := input)
  show ∃ x, input = x ++ remainder (f (input.dropWhile isSpace).head? (input.dropWhile isSpace)) ∧ _
  cases hrest : input.dropWhile isSpace with
  | nil =>
    rw [hrest, List.append_nil] at hsplit
    refine ⟨input, by rw [List.head?_nil, hnil, List.append_nil], fun n s hs => ⟨s, ?_, ?_⟩⟩
    · exact hs.run_space (hsplit ▸ hspace)
    · exact hs.mono (Nat.le_succ n)
  | cons b rest =>
    obtain ⟨x, hx, hsettle⟩ := hcons b rest
    refine ⟨input.takeWhile isSpace ++ x, ?_, fun n s hs => ?_⟩
    · rw [List.append_assoc, List.head?_cons, ← hx, ← hrest, hsplit]
    · obtain ⟨u, hu, hastray⟩ := hsettle n s hs
      exact ⟨u, by rw [State.run_append_of_eq (hs.run_space hspace), hu], hastray⟩

theorem closes_objectEnd : Closes objectEnd where
  leads d input := by
    refine .peek .fault_nil ?_
    intro b rest
    simp only [beq_iff_eq]
    split
    · next hb => exact .cons (t := plainAt d) (hb ▸ rfl) .ok
    split <;> exact .fault (astray_plain (Nat.le_succ d))
  settles input := by
    refine settles_of_peek rfl (fun b rest => ?_) input
    simp only [beq_iff_eq]
    split
    · next hb =>
      refine ⟨[b], rfl, fun n s hs => ?_⟩
      obtain ⟨u, hu, hastray⟩ := hs.step_close (.inr hb)
      exact ⟨u, by rw [State.run_cons, hu]; rfl, hastray⟩
    split <;> exact ⟨[], rfl, fun n s hs => ⟨s, rfl, hs.mono (Nat.le_succ n)⟩⟩

theorem closes_listEnd : Closes listEnd where
  leads d input := by
    refine .peek .fault_nil ?_
    intro b rest
    simp only [beq_iff_eq]
    split
    · next hb => exact .cons (t := plainAt d) (hb ▸ rfl) .ok
    split
    · next hb =>
      rw [advance_bind]
      refine .cons (step_separator (.inl hb)) ?_
      refine .peek .fault_nil ?_
      intro c rest
      split <;> exact .fault (astray_plain (Nat.le_succ d))
    · exact .fault (astray_plain (Nat.le_succ d))
  settles input := by
    refine settles_of_peek rfl (fun b rest => ?_) input
    simp only [beq_iff_eq]
    split
    · next hb =>
      refine ⟨[b], rfl, fun n s hs => ?_⟩
      obtain ⟨u, hu, hastray⟩ := hs.step_close (.inl hb)
      exact ⟨u, by rw [State.run_cons, hu]; rfl, hastray⟩
    split
    · next hb =>
      subst hb
      rw [advance_bind]
      obtain ⟨x, hx, hsettle⟩ := settles_of_peek
        (f := fun found => if found = some (byte ']') then failNext .trailingComma
          else failNext .trailingCharacters) rfl
        (fun c rest => ⟨[], by split <;> rfl, fun n s hs => ⟨s, rfl, hs.mono (Nat.le_succ n)⟩⟩) rest
      refine ⟨byte ',' :: x, by rw [List.cons_append, ← hx], fun n s hs => ?_⟩
      rw [State.run_cons, hs.step_comma]
      exact hsettle n s hs
    · exact ⟨[], rfl, fun n s hs => ⟨s, rfl, hs.mono (Nat.le_succ n)⟩⟩

theorem closedBy_of_fault {r : Reader α} {close : Reader Unit} {e : Fault}
    (h : r input = .fault e rest) :
    Reader.closedBy r close input = .fault e (remainder (close rest)) := by
  unfold Reader.closedBy
  rw [h]
  cases hclose : close rest <;> simp only [hclose, remainder]

theorem Leads.closedBy {d : Nat} {r : Reader α} {close : Reader Unit}
    (hr : Leads (plainAt d) (plainAt (d + 1)) input (r input)) (hclose : Closes close) :
    Leads (plainAt d) (plainAt d) input (Reader.closedBy r close input) := by
  cases h : r input with
  | ok a rest =>
    rw [h] at hr
    obtain ⟨x, rfl, hx⟩ := hr
    unfold Reader.closedBy
    rw [h]
    refine .append hx ?_
    have hleads := hclose.leads d rest
    cases hc : close rest with
    | ok _ rest =>
      rw [hc] at hleads
      simp only [hc]
      exact hleads
    | fault e rest =>
      rw [hc] at hleads
      simp only [hc]
      exact hleads
  | fault e rest =>
    rw [h] at hr
    obtain ⟨y, hy, hsettle⟩ := hclose.settles rest
    rw [closedBy_of_fault h]
    rcases hr with rfl | ⟨x, rfl, hrun⟩
    · exact .inl (List.append_eq_nil_iff.1 hy.symm).2
    · refine .inr ⟨x ++ y, by rw [List.append_assoc, ← hy], hrun.imp ?_ ?_⟩
      · intro hdead
        rw [Mode.run_append, hdead, Option.bind_none]
      · rintro ⟨u, hu, hastray⟩
        obtain ⟨v, hv, hastray⟩ := hsettle d u hastray
        exact ⟨v, by rw [State.run_append_of_eq hu, hv], hastray⟩

/-! ## Values of any form -/

theorem step_open {d : Nat} {b : UInt8} (hb : b = byte '[' ∨ b = byte '\x7b') :
    (plainAt d).step b = some (plainAt (d + 1)) := by
  rcases hb with rfl | rfl <;> rfl

theorem leads_value (depth d : Nat) (input : List UInt8) :
    Leads (plainAt d) (plainAt d) input (value depth input) := by
  induction depth generalizing d input with
  | zero => exact .fault astray_here
  | succ depth ih =>
    refine leads_valueStart (fun b rest => ?_) input
    simp only [beq_iff_eq, Bool.or_eq_true]
    split
    · next hb => subst hb; exact .bind (leads_nullWord d rest) fun _ _ _ => .ok
    split
    · next hb => subst hb; exact .bind (leads_trueWord d rest) fun _ _ _ => .ok
    split
    · next hb => subst hb; exact .bind (leads_falseWord d rest) fun _ _ _ => .ok
    split
    · next hb => exact .bind (leads_number d hb rest) fun _ _ _ => .ok
    split
    · next hb => subst hb; exact .bind (leads_text d rest) fun _ _ _ => .ok
    split
    · next hb =>
      split
      · exact .fault astray_here
      refine .located (.closedBy ?_ closes_listEnd)
      rw [advance_bind]
      refine .cons (step_open (.inl hb)) (.bind (t := plainAt (d + 1)) ?_ fun _ _ _ => .ok)
      exact leads_elements (fun _ _ input => .bind (ih (d + 1) input) fun _ _ _ => .ok) _ _ _ _
    split
    · next hb =>
      split
      · exact .fault astray_here
      refine .located (.closedBy ?_ closes_objectEnd)
      rw [advance_bind]
      refine .cons (step_open (.inr hb)) (.bind (t := plainAt (d + 1)) ?_ fun _ _ _ => .ok)
      refine leads_members (fun _ _ input => ?_) _ _ _ _
      exact .bind (leads_colon d input) fun _ rest _ => .bind (ih (d + 1) rest) fun _ _ _ => .ok
    · exact .fault astray_here

theorem leads_optional {d : Nat} {r : Reader α}
    (hr : ∀ input, Leads (plainAt d) (plainAt d) input (r input)) (input : List UInt8) :
    Leads (plainAt d) (plainAt d) input (optional r input) := by
  refine .peek (.bind (hr []) fun _ _ _ => .ok) fun b rest => ?_
  simp only [beq_iff_eq]
  split
  · next hb => subst hb; exact .bind (leads_nullWord d rest) fun _ _ _ => .ok
  · exact .bind (hr _) fun _ _ _ => .ok

theorem leads_wrongKind (d : Nat) (wanted : String) (input : List UInt8) :
    Leads (plainAt d) (plainAt d) input (wrongKind wanted input : Outcome α) := by
  refine .located (.peek .fault_nil fun b rest => ?_)
  simp only [beq_iff_eq, Bool.or_eq_true]
  split
  · next hb => subst hb; exact .bind (leads_nullWord d rest) fun _ _ _ => .fault astray_here
  split
  · next hb => subst hb; exact .bind (leads_trueWord d rest) fun _ _ _ => .fault astray_here
  split
  · next hb => subst hb; exact .bind (leads_falseWord d rest) fun _ _ _ => .fault astray_here
  split
  · next hb => exact .bind (leads_number d hb rest) fun _ _ _ => .fault astray_here
  split
  · next hb => subst hb; exact .bind (leads_text d rest) fun _ _ _ => .fault astray_here
  split
  · exact .fault astray_here
  split <;> exact .fault astray_here

theorem leads_string (d : Nat) (wanted : String) (input : List UInt8) :
    Leads (plainAt d) (plainAt d) input (string wanted input) := by
  refine leads_valueStart (fun b rest => ?_) input
  simp only [beq_iff_eq]
  split
  · next hb => subst hb; exact leads_text d rest
  · exact leads_wrongKind d _ _

theorem leads_integer (d : Nat) (wanted : String) (fits : Int → Bool) (input : List UInt8) :
    Leads (plainAt d) (plainAt d) input (integer wanted fits input) := by
  refine leads_valueStart (fun b rest => ?_) input
  simp only [beq_iff_eq, Bool.or_eq_true]
  split
  · next hb =>
    refine .located (.bind (leads_number d hb rest) fun found _ _ => ?_)
    cases found with
    | natural n =>
      dsimp only
      split
      · exact .ok
      · exact .fault astray_here
    | negative n =>
      dsimp only
      split
      · exact .ok
      · exact .fault astray_here
    | float x => exact .fault astray_here
  · exact leads_wrongKind d _ _

/-! ## Skipped values -/

theorem leads_skipText (d fuel : Nat) (input : List UInt8) :
    Leads (quotedAt d) (plainAt d) input (skipText fuel input) := by
  induction fuel generalizing input with
  | zero => exact .fault astray_quoted
  | succ fuel ih =>
    cases input with
    | nil => exact .fault_nil
    | cons b rest =>
      by_cases hq : b = byte '"'
      · simp only [skipText, hq, beq_self_eq_true, if_true]
        exact .cons (t := plainAt d) rfl .ok
      by_cases hb : b = byte '\\'
      · simp only [skipText, beq_iff_eq, hq, if_false, if_pos hb]
        subst hb
        cases rest with
        | nil => exact .fault_nil
        | cons c rest =>
          refine .cons (t := ⟨.escaped, d⟩) rfl ?_
          by_cases hu : c = byte 'u'
          · simp only [hu, if_true]
            refine .cons (t := ⟨.digits 3, d⟩) rfl ?_
            exact .bind (leads_hexUnit d rest) fun _ rest _ => ih rest
          · simp only [hu, if_false]
            split
            · next hc =>
              have hstep := (step_escaped (d := d) hu).resolve_left (by simp [Mode.step, hu, hc])
              exact .cons hstep (ih rest)
            · next hc => exact .fault_of_step (by simp [Mode.step, hu, hc])
      have hstep : (quotedAt d).step b = some (quotedAt d) := by
        simp [State.step, Mode.step, Mode.stepQuoted, hq, hb, State.turned]
      simp only [skipText, beq_iff_eq, hq, hb, if_false]
      split
      · exact .cons hstep (.fault astray_quoted)
      · exact .cons hstep (ih rest)

theorem leads_skipExponent (d : Nat) {b : UInt8} (hb : b = byte 'e' ∨ b = byte 'E')
    (rest : List UInt8) :
    Leads (plainAt d) (plainAt d) (b :: rest) (skipExponent (b :: rest)) := by
  refine .cons (t := ⟨.exponent, d⟩) (by rcases hb with rfl | rfl <;> rfl) ?_
  exact leads_exponentStart d _ _ (fun _ _ rest => .digits (skippedDigits_eq rest 0) .ok)
    (Nat.le_refl d) rest

theorem leads_skipOptionalExponent (d : Nat) (input : List UInt8) :
    Leads (plainAt d) (plainAt d) input (skipOptionalExponent input) := by
  cases input with
  | nil => exact .ok
  | cons b rest =>
    simp only [skipOptionalExponent, Bool.or_eq_true, beq_iff_eq]
    split
    · next hb => exact leads_skipExponent d hb rest
    · exact .ok

theorem leads_skipFraction (d : Nat) (input : List UInt8) :
    Leads (plainAt d) (plainAt d) input (skipFraction input) := by
  cases input with
  | nil => exact .ok
  | cons b rest =>
    simp only [skipFraction, beq_iff_eq]
    split
    · next hb =>
      subst hb
      refine .cons (step_point d) (.digits (skippedDigits_eq rest 0) ?_)
      split
      · exact .fault astray_here
      · exact leads_skipOptionalExponent d _
    · exact leads_skipOptionalExponent d _

theorem leads_skipMagnitude (d : Nat) (input : List UInt8) :
    Leads ⟨.signed, d⟩ (plainAt d) input (skipMagnitude input) := by
  cases input with
  | nil => exact .fault_nil
  | cons b rest =>
    simp only [skipMagnitude]
    split
    · next hb => exact .fault_of_step (show Mode.signed.step b = none by simp [Mode.step, hb])
    · next digit hb =>
      refine .cons (step_digit (by simp [hb]) _ (.inr (.inl rfl))) ?_
      split
      · exact .fault astray_here
      refine .digits ?_ (leads_skipFraction d _)
      split
      · exact ⟨[], rfl, by simp⟩
      · exact skippedDigits_eq rest 0

theorem leads_skipKey (d : Nat) (input : List UInt8) :
    Leads (plainAt (d + 1)) (plainAt (d + 1)) input (skipKey input) := by
  refine .peek .fault_nil ?_
  intro b rest
  simp only [beq_iff_eq]
  split
  · next hb =>
    subst hb
    rw [advance_bind]
    exact .cons (t := quotedAt (d + 1)) rfl
      (.bind (leads_skipText _ _ rest) fun _ rest _ => leads_colon d rest)
  · exact .fault astray_here

theorem leads_scalar (d : Nat) (b : UInt8) (rest : List UInt8) :
    Leads (plainAt d) (plainAt d) (b :: rest) (skipUntilClosed.scalar b (b :: rest)) := by
  simp only [skipUntilClosed.scalar, beq_iff_eq]
  split
  · next hb => subst hb; exact leads_nullWord d rest
  split
  · next hb => subst hb; exact leads_trueWord d rest
  split
  · next hb => subst hb; exact leads_falseWord d rest
  split
  · next hb =>
    rw [advance_bind]
    exact .cons (t := ⟨.signed, d⟩) (hb ▸ rfl) (leads_skipMagnitude d rest)
  split
  · next hb => exact (leads_skipMagnitude d _).of_signed hb
  split
  · next hb => exact .cons (t := quotedAt d) (hb ▸ rfl) (leads_skipText d _ rest)
  · exact .fault astray_here

theorem leads_skipMember (d : Nat) (bracket : Bracket) (input : List UInt8) :
    Leads (plainAt (d + 1)) (plainAt (d + 1)) input (skipUntilClosed.member bracket input) := by
  cases bracket with
  | list => exact .ok
  | object => exact leads_skipKey d input

theorem step_bracket {d : Nat} (bracket : Bracket) :
    (plainAt (d + 1)).step bracket.closing = some (plainAt d) := by
  cases bracket <;> rfl

theorem leads_skippedMember {d fuel : Nat} {bracket : Bracket} {opened : List Bracket}
    (ih : ∀ input, Leads (plainAt (d + (bracket :: opened).length)) (plainAt d) input
      (skipUntilClosed fuel .value (bracket :: opened) input)) (input : List UInt8) :
    Leads (plainAt (d + (bracket :: opened).length)) (plainAt d) input
      ((skipUntilClosed.member bracket >>= fun _ =>
        skipUntilClosed fuel .value (bracket :: opened)) input) :=
  .bind (leads_skipMember (d + opened.length) bracket input) (fun _ rest _ => ih rest)
    (by simp; omega)

/-- Every open bracket counts one in the depth. -/
theorem leads_skipUntilClosed (d fuel : Nat) (want : Want) (opened : List Bracket)
    (input : List UInt8) :
    Leads (plainAt (d + opened.length)) (plainAt d) input
      (skipUntilClosed fuel want opened input) := by
  have hastray : ∀ k, Astray d (plainAt (d + k)) := fun k => astray_plain (Nat.le_add_right d k)
  induction fuel generalizing want opened input with
  | zero =>
    simp only [skipUntilClosed]
    exact .fault (hastray _)
  | succ fuel ih =>
    cases want with
    | value =>
      refine .space ?_
      simp only [skipUntilClosed, beq_iff_eq]
      cases input.dropWhile isSpace with
      | nil => exact .fault_nil
      | cons b rest =>
        dsimp only
        split
        · next hb => exact .cons (step_open (.inl hb)) (ih .opening (.list :: opened) rest)
        split
        · next hb => exact .cons (step_open (.inr hb)) (ih .opening (.object :: opened) rest)
        · exact .bind (leads_scalar _ b rest) (fun _ rest _ => ih .following opened rest) (by simp)
    | opening =>
      cases opened with
      | nil => exact .ok
      | cons bracket opened =>
        refine .space ?_
        simp only [skipUntilClosed, beq_iff_eq]
        cases input.dropWhile isSpace with
        | nil => exact .fault_nil
        | cons b rest =>
          dsimp only
          split
          · next hb => exact .cons (hb ▸ step_bracket bracket) (ih .following opened rest)
          · exact leads_skippedMember (ih .value (bracket :: opened)) (b :: rest)
    | following =>
      cases opened with
      | nil => exact .ok
      | cons bracket opened =>
        refine .space ?_
        simp only [skipUntilClosed, beq_iff_eq]
        cases input.dropWhile isSpace with
        | nil => exact .fault_nil
        | cons b rest =>
          dsimp only
          split
          · next hb =>
            exact .cons (step_separator (.inl hb)) (leads_skippedMember (ih .value _) rest)
          split
          · next hb => exact .cons (hb ▸ step_bracket bracket) (ih .following opened rest)
          · exact .fault (hastray _)

theorem leads_skip (d : Nat) (input : List UInt8) :
    Leads (plainAt d) (plainAt d) input (skip input) :=
  leads_skipUntilClosed d _ .value [] input

/-! ## Objects and fields -/

theorem leads_ofExcept {d : Nat} (result : Except FormFault α) (input : List UInt8) :
    Leads (plainAt d) (plainAt d) input (ofExcept result input) := by
  cases result with
  | ok a => exact .ok
  | error f => exact .fault astray_here

theorem leads_object {σ : Type} {d : Nat} {wanted : String} {member : String → σ → Reader σ}
    {start : σ} {finish : σ → Except FormFault α}
    (hmember : ∀ key state input,
      Leads (plainAt (d + 1)) (plainAt (d + 1)) input (member key state input))
    (input : List UInt8) :
    Leads (plainAt d) (plainAt d) input (Reader.object wanted member start finish input) := by
  refine leads_valueStart (fun b rest => ?_) input
  simp only [beq_iff_eq]
  split
  · next hb =>
    refine .located (.closedBy ?_ closes_objectEnd)
    rw [advance_bind]
    refine .cons (step_open (.inr hb)) (.bind (t := plainAt (d + 1)) ?_ fun state rest _ => ?_)
    · exact leads_members hmember _ _ _ _
    · exact leads_ofExcept (finish state) rest
  · exact leads_wrongKind d _ _

theorem leads_unit (d : Nat) (input : List UInt8) :
    Leads (plainAt d) (plainAt d) input (unit input) := by
  refine leads_valueStart (fun b rest => ?_) input
  simp only [beq_iff_eq]
  split
  · next hb => subst hb; exact leads_nullWord d rest
  · exact leads_wrongKind d _ _

theorem leads_named {d : Nat} {known : List (String × α)} (input : List UInt8) :
    Leads (plainAt d) (plainAt d) input (variant.named known input) := by
  refine .located (.bind (leads_string d _ input) fun name rest _ => ?_)
  cases known.lookup name with
  | some value => exact .ok
  | none => exact .fault astray_here

theorem leads_variant {d : Nat} {known : List (String × α)} (input : List UInt8) :
    Leads (plainAt d) (plainAt d) input (variant known input) := by
  refine leads_valueStart (fun b rest => ?_) input
  simp only [beq_iff_eq]
  split
  · exact leads_named _
  split
  · next hb =>
    rw [advance_bind]
    refine .cons (step_open (.inr hb)) (.bind (t := plainAt (d + 1)) (leads_named rest) ?_)
    refine fun _ rest _ => .bind (t := plainAt (d + 1)) (leads_colon d rest) fun _ rest _ => ?_
    refine .bind (t := plainAt (d + 1)) (leads_unit (d + 1) rest) ?_
    intro _ rest _
    refine .peek .fault_nil ?_
    intro c rest
    dsimp only
    split
    · next hc => exact .cons (t := plainAt d) (hc ▸ rfl) .ok
    · exact .fault (astray_plain (Nat.le_succ d))
  · exact .fault astray_here

end Outline

end Accounts.Json

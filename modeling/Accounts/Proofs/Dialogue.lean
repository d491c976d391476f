import Accounts.Dialogue

/-!
# Exchanges of a dialogue

What is asked and answered while a dialogue is carried out. `Plays` says it for all answerers at
once: a dialogue goes through some exchanges and ends with a value.

* `plays_exchanges` — what an answerer makes of a dialogue.
* `plays_bind`, `plays_except_bind` — a dialogue that goes on goes through the exchanges of both
  parts.
-/

namespace Accounts.Dialogue

variable {Q : Type} {A : Q → Type} {α β : Type}

/-- A question and its answer. -/
abbrev Exchange (A : Q → Type) : Type := (q : Q) × A q

/-- The questions that are asked when a dialogue is carried out, with their answers. -/
def exchanges {σ : Type} (answer : (q : Q) → σ → A q × σ) (dialogue : Dialogue Q A α) (s : σ) :
    List (Exchange A) :=
  match dialogue with
  | done _ => []
  | ask q next => ⟨q, (answer q s).1⟩ :: exchanges answer (next (answer q s).1) (answer q s).2

/-- A dialogue that goes through exchanges and ends with a value. -/
inductive Plays : Dialogue Q A α → List (Exchange A) → α → Prop where
  | done (a : α) : Plays (.done a) [] a
  | ask {q : Q} {next : A q → Dialogue Q A α} {answer : A q} {log : List (Exchange A)} {a : α}
      (h : Plays (next answer) log a) : Plays (.ask q next) (⟨q, answer⟩ :: log) a

variable {d : Dialogue Q A α} {f : α → Dialogue Q A β} {log : List (Exchange A)} {a : α} {b : β}

theorem plays_exchanges {σ : Type} (answer : (q : Q) → σ → A q × σ) (d : Dialogue Q A α) (s : σ) :
    d.Plays (d.exchanges answer s) (d.runWith answer s).1 := by
  induction d generalizing s with
  | done a => exact .done a
  | ask q next ih => exact .ask (ih _ _)

/-- An answerer that keeps no state gives the same answer whenever it is asked. -/
theorem answer_of_mem_exchanges {σ : Type} (answer : (q : Q) → A q) {d : Dialogue Q A α} {s : σ}
    {e : Exchange A} (h : e ∈ d.exchanges (fun q s => (answer q, s)) s) : e.2 = answer e.1 := by
  induction d with
  | done a => cases h
  | ask q next ih =>
    obtain rfl | h := List.mem_cons.1 h
    · rfl
    · exact ih _ h

/-! ## Dialogues in sequence -/

instance : LawfulMonad (Dialogue Q A) :=
  LawfulMonad.mk' (Dialogue Q A)
    (fun d => by
      induction d with
      | done a => rfl
      | ask q next ih => exact congrArg (ask q) (funext ih))
    (fun _ _ => rfl)
    (fun d f g => by
      induction d with
      | done a => rfl
      | ask q next ih => exact congrArg (ask q) (funext ih))

theorem plays_pure {c : α} : (pure c : Dialogue Q A α).Plays log a ↔ log = [] ∧ a = c := by
  constructor
  · intro h
    cases h
    exact ⟨rfl, rfl⟩
  · rintro ⟨rfl, rfl⟩
    exact .done _

theorem plays_bind :
    (d >>= f).Plays log b ↔
      ∃ before a after, log = before ++ after ∧ d.Plays before a ∧ (f a).Plays after b := by
  constructor
  · intro h
    induction d generalizing log with
    | done a => exact ⟨[], a, log, rfl, .done a, h⟩
    | ask q next ih =>
      cases h with
      | @ask _ _ answer log _ h =>
        obtain ⟨before, a, after, rfl, hbefore, hafter⟩ := ih answer h
        exact ⟨_, a, after, rfl, .ask hbefore, hafter⟩
  · rintro ⟨before, a, after, rfl, hbefore, hafter⟩
    induction hbefore with
    | done a => exact hafter
    | ask _ ih => exact .ask (ih hafter)

theorem plays_question_bind {q : Q} {g : A q → Dialogue Q A β} :
    (question q >>= g).Plays log b ↔
      ∃ answer after, log = ⟨q, answer⟩ :: after ∧ (g answer).Plays after b := by
  constructor
  · intro h
    cases h with
    | ask h => exact ⟨_, _, rfl, h⟩
  · rintro ⟨answer, after, rfl, h⟩
    exact .ask h

/-! ## Dialogues that may fail -/

section

variable {ε : Type} {x : ExceptT ε (Dialogue Q A) α} {g : α → ExceptT ε (Dialogue Q A) β}
  {r : Except ε β}

/-- A dialogue that may fail goes on only after a success. -/
theorem plays_except_bind :
    (x >>= g).run.Plays log r ↔
      (∃ e, x.run.Plays log (.error e) ∧ r = .error e) ∨
      ∃ before a after, log = before ++ after ∧ x.run.Plays before (.ok a) ∧
        (g a).run.Plays after r := by
  rw [ExceptT.run_bind, plays_bind]
  constructor
  · rintro ⟨before, result, after, rfl, hbefore, hafter⟩
    cases result with
    | ok a => exact .inr ⟨before, a, after, rfl, hbefore, hafter⟩
    | error e =>
      obtain ⟨rfl, rfl⟩ := plays_pure.1 hafter
      exact .inl ⟨e, by rwa [List.append_nil], rfl⟩
  · rintro (⟨e, h, rfl⟩ | ⟨before, a, after, rfl, hbefore, hafter⟩)
    · exact ⟨log, .error e, [], (List.append_nil _).symm, h, plays_pure.2 ⟨rfl, rfl⟩⟩
    · exact ⟨before, .ok a, after, rfl, hbefore, hafter⟩

theorem plays_except_pure {c : α} {r : Except ε α} :
    (pure c : ExceptT ε (Dialogue Q A) α).run.Plays log r ↔ log = [] ∧ r = .ok c := plays_pure

theorem plays_throw {e : ε} {r : Except ε α} :
    (throw e : ExceptT ε (Dialogue Q A) α).run.Plays log r ↔ log = [] ∧ r = .error e := plays_pure

theorem plays_liftExcept {result r : Except ε α} :
    (liftM result : ExceptT ε (Dialogue Q A) α).run.Plays log r ↔ log = [] ∧ r = result := by
  cases result <;> exact plays_pure

end

end Accounts.Dialogue

/-!
# Dialogues

A computation that puts questions to its surroundings and goes on with the answers. What the
surroundings do is left open: a dialogue is carried out by giving an answerer in any monad.
-/

namespace Accounts

/-- A computation of an `α` that asks questions of type `Q`; the answer to `q` is an `A q`. -/
inductive Dialogue (Q : Type) (A : Q → Type) (α : Type) where
  /-- The computation has ended. -/
  | done (value : α)
  /-- The computation waits for an answer. -/
  | ask (question : Q) (next : A question → Dialogue Q A α)

namespace Dialogue

variable {Q : Type} {A : Q → Type} {α β : Type}

/-- Goes on with `f` where a dialogue ends. -/
def bind : Dialogue Q A α → (α → Dialogue Q A β) → Dialogue Q A β
  | done a, f => f a
  | ask q next, f => ask q fun answer => (next answer).bind f

instance : Monad (Dialogue Q A) where
  pure := done
  bind := bind

/-- The dialogue that asks one question and ends with the answer. -/
def question (q : Q) : Dialogue Q A (A q) := ask q done

/-- Carries out a dialogue with an answerer. -/
def carryOut {m : Type → Type} [Monad m] (answer : (q : Q) → m (A q)) : Dialogue Q A α → m α
  | done a => pure a
  | ask q next => do carryOut answer (next (← answer q))

/-- Carries out a dialogue with an answerer that keeps a state. -/
def runWith {σ : Type} (answer : (q : Q) → σ → A q × σ) (dialogue : Dialogue Q A α) (s : σ) :
    α × σ :=
  match dialogue with
  | done a => (a, s)
  | ask q next => runWith answer (next (answer q s).1) (answer q s).2

@[simp] theorem bind_done (a : α) (f : α → Dialogue Q A β) : bind (done a) f = f a := rfl

@[simp] theorem runWith_done {σ : Type} (answer : (q : Q) → σ → A q × σ) (a : α) (s : σ) :
    runWith answer (done a) s = (a, s) := rfl

/-- To carry out a dialogue that goes on is to carry out both parts in turn. -/
theorem runWith_bind {σ : Type} (answer : (q : Q) → σ → A q × σ) (d : Dialogue Q A α)
    (f : α → Dialogue Q A β) (s : σ) :
    runWith answer (d.bind f) s =
      runWith answer (f (runWith answer d s).1) (runWith answer d s).2 := by
  induction d generalizing s with
  | done a => rfl
  | ask q next ih => simp only [bind, runWith, ih]

end Dialogue

end Accounts

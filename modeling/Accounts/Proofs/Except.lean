/-!
# Results in sequence

When a sequence of computations that may fail succeeds, and when it fails.
-/

namespace Except

variable {ε α β : Type} {x : Except ε α} {f : α → Except ε β} {a c : α} {b : β} {e : ε}

theorem ok_bind (a : α) (f : α → Except ε β) : (ok a >>= f) = f a := rfl

theorem bind_eq_ok : (x >>= f) = .ok b ↔ ∃ a, x = .ok a ∧ f a = .ok b := by
  cases x with
  | error e => exact ⟨nofun, nofun⟩
  | ok a =>
    refine ⟨fun h => ⟨a, rfl, h⟩, ?_⟩
    rintro ⟨_, he, h⟩
    cases he
    exact h

theorem bind_of_eq_ok (h : x = .ok a) (f : α → Except ε β) : (x >>= f) = f a := by
  rw [h]
  rfl

theorem map_eq_ok {f : α → β} {b : β} : x.map f = .ok b ↔ ∃ a, x = .ok a ∧ f a = b := by
  cases x with
  | error e => exact ⟨nofun, nofun⟩
  | ok a => exact ⟨fun h => ⟨a, rfl, ok.inj h⟩, fun ⟨_, h, hf⟩ => ok.inj h ▸ congrArg ok hf⟩

theorem map_eq_error {f : α → β} : x.map f = .error e ↔ x = .error e := by
  cases x with
  | error d => exact ⟨fun h => congrArg error (error.inj h), fun h => congrArg error (error.inj h)⟩
  | ok a => exact ⟨nofun, nofun⟩

theorem mapError_ok {δ : Type} (a : α) (g : ε → δ) : (ok a).mapError g = ok a := rfl

theorem mapError_error {δ : Type} (e : ε) (g : ε → δ) :
    (error e : Except ε α).mapError g = error (g e) := rfl

theorem mapError_eq_ok {δ : Type} {g : ε → δ} : x.mapError g = .ok a ↔ x = .ok a := by
  cases x with
  | error e => exact ⟨nofun, nofun⟩
  | ok b => exact ⟨fun h => congrArg ok (ok.inj h), fun h => congrArg ok (ok.inj h)⟩

theorem ite_eq_ok {p : Prop} [Decidable p] :
    (if p then .ok a else .error e : Except ε α) = .ok c ↔ p ∧ c = a := by
  split
  · next h => exact ⟨fun heq => ⟨h, (ok.inj heq).symm⟩, fun heq => heq.2 ▸ rfl⟩
  · next h => exact ⟨nofun, fun heq => absurd heq.1 h⟩

theorem toOption_eq_some : x.toOption = some a ↔ x = .ok a := by
  cases x with
  | error e => exact ⟨nofun, nofun⟩
  | ok b => exact ⟨fun h => congrArg ok (Option.some.inj h), fun h => congrArg some (ok.inj h)⟩

end Except

import Accounts.Text.Split

/-!
# Where texts are cut

A text is cut at a separator in exactly one way, if the piece before it, or behind it, has none.
-/

namespace Accounts.Text

variable {separator : Char} {cs before after : List Char}

theorem splitFirst_eq_some :
    splitFirst separator cs = some (before, after) ↔
      cs = before ++ separator :: after ∧ separator ∉ before := by
  induction cs generalizing before with
  | nil => simp [splitFirst]
  | cons c cs ih =>
    by_cases hc : c = separator
    · subst hc
      simp only [splitFirst, if_true, Option.some.injEq, Prod.mk.injEq]
      constructor
      · rintro ⟨rfl, rfl⟩
        exact ⟨rfl, List.not_mem_nil⟩
      · rintro ⟨h, hmem⟩
        cases before with
        | nil => cases h; exact ⟨rfl, rfl⟩
        | cons d before => cases h; exact absurd List.mem_cons_self hmem
    · simp only [splitFirst, hc, if_false, Option.map_eq_some_iff, Prod.exists, Prod.mk.injEq]
      constructor
      · rintro ⟨before, after, h, rfl, rfl⟩
        obtain ⟨rfl, hmem⟩ := ih.1 h
        exact ⟨rfl, by simp [hmem, Ne.symm hc]⟩
      · rintro ⟨h, hmem⟩
        cases before with
        | nil => cases h; exact absurd rfl hc
        | cons d before =>
          cases h
          exact ⟨before, after, ih.2 ⟨rfl, fun hd => hmem (List.mem_cons_of_mem _ hd)⟩, rfl, rfl⟩

theorem splitLast_eq_some :
    splitLast separator cs = some (before, after) ↔
      cs = before ++ separator :: after ∧ separator ∉ after := by
  simp only [splitLast, Option.map_eq_some_iff, Prod.exists, Prod.mk.injEq, splitFirst_eq_some]
  constructor
  · rintro ⟨x, y, ⟨h, hmem⟩, rfl, rfl⟩
    refine ⟨?_, by simpa using hmem⟩
    rw [← List.reverse_reverse cs, h]
    simp
  · rintro ⟨rfl, hmem⟩
    exact ⟨after.reverse, before.reverse, ⟨by simp, by simpa using hmem⟩, by simp, by simp⟩

theorem split_of_not_mem (h : separator ∉ cs) : split separator cs = [cs] := by
  induction cs with
  | nil => rfl
  | cons c cs ih =>
    have hc : c ≠ separator := fun he => h (he ▸ List.mem_cons_self)
    rw [split, if_neg hc, ih fun hmem => h (List.mem_cons_of_mem _ hmem)]

theorem split_append (h : separator ∉ before) (after : List Char) :
    split separator (before ++ separator :: after) = before :: split separator after := by
  induction before with
  | nil => simp [split]
  | cons c before ih =>
    have hc : c ≠ separator := fun he => h (he ▸ List.mem_cons_self)
    rw [List.cons_append, split, if_neg hc, ih fun hmem => h (List.mem_cons_of_mem _ hmem)]

theorem split_ne_nil (separator : Char) (cs : List Char) : split separator cs ≠ [] := by
  cases cs with
  | nil => simp [split]
  | cons c cs =>
    rw [split]
    split
    · simp
    · split <;> simp

theorem dropPrefix?_eq_some {wanted rest : List Char} :
    dropPrefix? wanted cs = some rest ↔ cs = wanted ++ rest := by
  induction wanted generalizing cs with
  | nil => simp [dropPrefix?]
  | cons w wanted ih =>
    cases cs with
    | nil => simp [dropPrefix?]
    | cons c cs =>
      by_cases hc : w = c
      · simp [dropPrefix?, hc, ih]
      · simp [dropPrefix?, hc, Ne.symm hc]

end Accounts.Text

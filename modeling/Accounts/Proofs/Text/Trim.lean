import Accounts.Text.Trim
import Mathlib.Data.List.TakeWhile

/-!
# Texts between blanks

A text that neither starts nor ends with a blank is what is left of it when blanks are put around it
and taken away again.
-/

namespace Accounts.Text

theorem trimLeft_append {left cs : List Char} (h : ∀ c ∈ left, isBlank c = true) :
    trimLeft (left ++ cs) = trimLeft cs := by
  rw [trimLeft, List.dropWhile_append_of_pos h]
  rfl

theorem trimRight_append {cs right : List Char} (h : ∀ c ∈ right, isBlank c = true) :
    trimRight (cs ++ right) = trimRight cs := by
  rw [trimRight, List.reverse_append, List.dropWhile_append_of_pos fun c hc =>
    h c (List.mem_reverse.1 hc)]
  rfl

theorem trimLeft_cons {c : Char} (h : isBlank c = false) (cs : List Char) :
    trimLeft (c :: cs) = c :: cs :=
  List.dropWhile_cons_of_neg (by simp [h])

theorem trimRight_eq_self {cs : List Char} (h : ∀ c ∈ cs, isBlank c = false) :
    trimRight cs = cs := by
  have hreverse : cs.reverse.dropWhile isBlank = cs.reverse := by
    cases hcs : cs.reverse with
    | nil => rfl
    | cons c rest =>
      have hc : c ∈ cs := List.mem_reverse.1 (hcs ▸ List.mem_cons_self)
      exact trimLeft_cons (h c hc) rest
  rw [trimRight, hreverse, List.reverse_reverse]

/-- **The blanks around a text are taken away.** -/
theorem trim_padded {left word right : List Char} (hleft : ∀ c ∈ left, isBlank c = true)
    (hright : ∀ c ∈ right, isBlank c = true) (hword : ∀ c ∈ word, isBlank c = false) :
    trim (left ++ (word ++ right)) = word := by
  rw [trim, trimLeft_append hleft]
  cases word with
  | nil =>
    rw [List.nil_append, trimLeft, List.dropWhile_eq_nil_iff.2 hright]
    rfl
  | cons c word =>
    rw [List.cons_append, trimLeft_cons (hword c List.mem_cons_self), ← List.cons_append,
      trimRight_append hright, trimRight_eq_self hword]

theorem trim_eq_self {cs : List Char} (h : ∀ c ∈ cs, isBlank c = false) : trim cs = cs := by
  simpa using trim_padded (List.forall_mem_nil _) (List.forall_mem_nil _) h

end Accounts.Text

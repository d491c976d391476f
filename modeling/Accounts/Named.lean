/-!
# Named values

Lists of values with names, in the order in which the names first came. Looking a name up finds the
value that was last given to it.
-/

namespace Accounts

/-- Values with names. -/
abbrev Named (α : Type) : Type := List (String × α)

namespace Named

variable {α : Type}

/-- Gives a value to a name. A new name goes to the end. -/
def replace (name : String) (a : α) : Named α → Named α
  | [] => [(name, a)]
  | (k, old) :: rest => if k = name then (k, a) :: rest else (k, old) :: replace name a rest

theorem lookup_cons (k name : String) (a : α) (es : Named α) :
    ((k, a) :: es : Named α).lookup name = if name = k then some a else es.lookup name := by
  by_cases h : name = k
  · simp [h]
  · simp [h, List.lookup_cons, beq_false_of_ne h]

/-- The name has its new value, and every other name the value it had. -/
theorem lookup_replace (name other : String) (a : α) (es : Named α) :
    (replace name a es).lookup other = if other = name then some a else es.lookup other := by
  induction es with
  | nil => exact lookup_cons name other a []
  | cons e rest ih =>
    obtain ⟨k, old⟩ := e
    rw [replace]
    split
    · next h =>
      subst h
      rw [lookup_cons, lookup_cons]
      split <;> rfl
    · next h =>
      rw [lookup_cons, lookup_cons, ih]
      by_cases ho : other = k <;> simp [ho, h]

/-- The names stay as they are, but for a new one at the end. -/
theorem map_fst_replace (name : String) (a : α) (es : Named α) :
    (replace name a es).map Prod.fst =
      if name ∈ es.map Prod.fst then es.map Prod.fst else es.map Prod.fst ++ [name] := by
  induction es with
  | nil => simp [replace]
  | cons e rest ih =>
    obtain ⟨k, old⟩ := e
    by_cases hk : k = name
    · subst hk
      simp [replace]
    · have hk' : name ≠ k := fun h => hk h.symm
      by_cases hm : name ∈ rest.map Prod.fst <;> simp_all [replace]

theorem replace_of_notMem {name : String} {es : Named α} (h : name ∉ es.map Prod.fst) (a : α) :
    replace name a es = es ++ [(name, a)] := by
  induction es with
  | nil => rfl
  | cons e rest ih =>
    obtain ⟨k, old⟩ := e
    obtain ⟨hk, hrest⟩ := not_or.1 fun hmem => h (List.mem_cons.2 hmem)
    rw [replace, if_neg (Ne.symm hk), ih hrest]
    rfl

/-- Of two values for one name the later one counts. -/
theorem replace_replace (name : String) (a b : α) (es : Named α) :
    replace name b (replace name a es) = replace name b es := by
  induction es with
  | nil => simp [replace]
  | cons e rest ih =>
    obtain ⟨k, old⟩ := e
    by_cases hk : k = name
    · simp [replace, hk]
    · simp [replace, hk, ih]

/-- Names that are there are given values in any order. -/
theorem replace_comm {name other : String} {es : Named α} (hne : name ≠ other)
    (hname : name ∈ es.map Prod.fst) (a b : α) :
    replace other b (replace name a es) = replace name a (replace other b es) := by
  induction es with
  | nil => simp at hname
  | cons e rest ih =>
    obtain ⟨k, old⟩ := e
    by_cases hk : k = name
    · subst hk
      simp [replace, hne]
    · have hrest : name ∈ rest.map Prod.fst := by simpa [Ne.symm hk] using hname
      by_cases ho : k = other
      · simp [replace, ho, Ne.symm hne]
      · simp [replace, hk, ho, ih hrest]

theorem eq_or_mem_of_mem_replace {name : String} {a : α} {es : Named α} {e : String × α}
    (h : e ∈ replace name a es) : e = (name, a) ∨ e ∈ es := by
  induction es with
  | nil => simpa [replace] using h
  | cons x rest ih =>
    obtain ⟨k, old⟩ := x
    by_cases hk : k = name
    · subst hk
      rw [replace, if_pos rfl, List.mem_cons] at h
      exact h.imp_right (List.mem_cons_of_mem _)
    · rw [replace, if_neg hk, List.mem_cons] at h
      obtain rfl | h := h
      · exact .inr List.mem_cons_self
      · exact (ih h).imp_right (List.mem_cons_of_mem _)

/-- Values that are made from the names and the values before. -/
theorem map_replace {β : Type} (f : String → α → β) (name : String) (a : α) (es : Named α) :
    (replace name a es).map (fun e => (e.1, f e.1 e.2)) =
      replace name (f name a) (es.map fun e => (e.1, f e.1 e.2)) := by
  induction es with
  | nil => rfl
  | cons e rest ih =>
    obtain ⟨k, old⟩ := e
    by_cases hk : k = name
    · simp [replace, hk]
    · simp [replace, hk, ih]

theorem mem_names_of_lookup {name : String} {a : α} {es : Named α}
    (h : es.lookup name = some a) : name ∈ es.map Prod.fst := by
  induction es with
  | nil => cases h
  | cons e rest ih =>
    obtain ⟨k, old⟩ := e
    rw [lookup_cons] at h
    split at h
    · next hk => simp [hk]
    · exact List.mem_cons_of_mem _ (ih h)

theorem mem_names_replace (name : String) (a : α) (es : Named α) :
    name ∈ (replace name a es).map Prod.fst :=
  mem_names_of_lookup ((lookup_replace name name a es).trans (if_pos rfl))

/-- A name that is there keeps its place. -/
theorem exists_replace_eq {name : String} {es : Named α} (h : name ∈ es.map Prod.fst) :
    ∃ before after : Named α, ∀ a, replace name a es = before ++ (name, a) :: after := by
  induction es with
  | nil => cases h
  | cons e rest ih =>
    obtain ⟨k, old⟩ := e
    by_cases hk : k = name
    · exact ⟨[], rest, fun a => by simp [replace, hk]⟩
    · obtain ⟨before, after, hrest⟩ := ih (by simpa [Ne.symm hk] using h)
      exact ⟨(k, old) :: before, after, fun a => by simp [replace, hk, hrest]⟩

theorem nodup_replace {name : String} {a : α} {es : Named α} (h : (es.map Prod.fst).Nodup) :
    ((replace name a es).map Prod.fst).Nodup := by
  rw [map_fst_replace]
  split
  · exact h
  · next hname =>
    refine List.nodup_append.2 ⟨h, by simp, fun k hk other hother => ?_⟩
    rintro rfl
    exact hname (List.mem_singleton.1 hother ▸ hk)

end Named

end Accounts

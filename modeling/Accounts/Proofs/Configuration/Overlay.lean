import Accounts.Proofs.Configuration.Path

/-!
# Settings at different places

Values that are assigned at different places of a tree do not interfere. To assign a scalar is to
modify one entry at the root, and modifications of different entries commute as long as the entries
are there; the same holds one level below. So a scalar in a section of the tree may be assigned
before the rest of a layer or after it, with two exceptions: a name may lead to the same place, or
it may put a value in the way.

* `Setting.modify_comm`, `Setting.modify_modify` — modifications of two entries, and of one.
* `Place.assign_comm` — one assignment elsewhere. If the place holds a scalar afterwards, it held
  one before, and the assignments commute.
* `Place.overlay_assign` — a whole layer.
-/

namespace Accounts

namespace Setting

variable {s v w : Setting} {name other : String} {f g : Setting → Setting}

/-! ## Modifying an entry -/

theorem set_set : (s.set name v).set name w = s.set name w := by
  simp only [set, entries, tableOrigin, Named.replace_replace]

theorem set_comm (hne : name ≠ other) (hname : (s.get? name).isSome) :
    (s.set name v).set other w = (s.set other w).set name v := by
  obtain ⟨old, hold⟩ := Option.isSome_iff_exists.1 hname
  exact congrArg (table · s.tableOrigin)
    (Named.replace_comm hne (Named.mem_names_of_lookup hold) v w)

/-- Changes the entry of a given name. What is not there counts as a gap. -/
def modify (s : Setting) (name : String) (f : Setting → Setting) : Setting :=
  s.set name (f ((s.get? name).getD blank))

theorem get?_modify : (s.modify name f).get? other =
    if other = name then some (f ((s.get? name).getD blank)) else s.get? other :=
  get?_set ..

theorem get?_modify_self : (s.modify name f).get? name = some (f ((s.get? name).getD blank)) := by
  rw [get?_modify, if_pos rfl]

theorem get?_modify_of_ne (h : other ≠ name) : (s.modify name f).get? other = s.get? other := by
  rw [get?_modify, if_neg h]

/-- **Two modifications of one entry** are one. -/
theorem modify_modify : (s.modify name f).modify name g = s.modify name (g ∘ f) := by
  rw [modify, get?_modify_self, modify, set_set]
  rfl

/-- **Modifications of two entries** commute, if the one that would come first is there. -/
theorem modify_comm (hne : name ≠ other) (hname : (s.get? name).isSome) :
    (s.modify name f).modify other g = (s.modify other g).modify name f := by
  rw [modify, get?_modify_of_ne hne.symm, modify, set_comm hne hname, modify,
    get?_modify_of_ne hne, modify]

/-- Modifications may be exchanged that agree on what is there. -/
theorem modify_congr (h : f ((s.get? name).getD blank) = g ((s.get? name).getD blank)) :
    s.modify name f = s.modify name g := by
  rw [modify, modify, h]

/-! ## Assignments as modifications -/

/-- Setting a scalar behind a name modifies the entry of that name, or of its lower-case form if no
step follows. -/
theorem setAfter_child (a : Scalar) (o : Option String) (child : String) (steps : List Step) :
    ∃ entry change,
      (∀ s, setAfter (.scalar a o) (.child child :: steps) s = s.modify entry change) ∧
      (steps = [] ∧ entry = Text.lowercase child ∧ change = (fun _ => .scalar a o) ∨
        steps ≠ [] ∧ entry = child ∧ change = setAfter (.scalar a o) steps) := by
  cases steps with
  | nil => exact ⟨_, _, fun s => rfl, .inl ⟨rfl, rfl, rfl⟩⟩
  | cons step steps => exact ⟨_, _, fun s => rfl, .inr ⟨List.cons_ne_nil _ _, rfl, rfl⟩⟩

/-- What an assignment under a name does to an entry at the root: it is replaced, or the value is
set behind further steps. -/
inductive Change (name entry : String) (v : Setting) : (Setting → Setting) → Prop
  | replaced : Change name entry v (fun _ => v)
  | behind {step : Step} {steps : List Step}
      (hpath : Path.ofText? name = some ⟨entry, step :: steps⟩) :
      Change name entry v (setAfter v (step :: steps))

/-- Assigning a scalar modifies one entry at the root. -/
theorem assign_scalar (a : Scalar) (o : Option String) (name : String) :
    ∃ entry change, (∀ s, assign s name (.scalar a o) = s.modify entry change) ∧
      Change name entry (.scalar a o) change := by
  cases hpath : Path.ofText? name with
  | none =>
    refine ⟨Text.lowercase name, _, fun s => ?_, .replaced⟩
    rw [assign, hpath]
    rfl
  | some path =>
    obtain ⟨root, steps⟩ := path
    obtain ⟨entry, change, hmodify, ⟨_, rfl, rfl⟩ | ⟨hsteps, rfl, rfl⟩⟩ :=
      setAfter_child a o root steps
    · refine ⟨Text.lowercase root, _, fun s => ?_, .replaced⟩
      rw [assign, hpath]
      exact hmodify s
    · obtain ⟨step, steps, rfl⟩ := List.exists_cons_of_ne_nil hsteps
      refine ⟨_, _, fun s => ?_, .behind hpath⟩
      rw [assign, hpath]
      exact hmodify s

/-- What stands behind further steps is a table or a list. -/
theorem setAfter_ne_scalar {step : Step} {steps : List Step} (a : Scalar) (o : Option String) :
    setAfter v (step :: steps) s ≠ .scalar a o := by
  cases step with
  | element index => exact nofun
  | child child =>
    cases steps with
    | cons step steps => exact nofun
    | nil => cases v <;> exact nofun

end Setting

open Setting

/-- A place in a section of a tree, two names below the root. -/
structure Place where
  group : String
  name : String
  isPath : Path.ofText? (group ++ "." ++ name) = some ⟨group, [.child name]⟩
  isLowercase : Text.lowercase name = name

namespace Place

variable (p : Place) {s : Setting} {a b : Scalar} {o r : Option String} {name : String}

/-- The name that leads to the place. -/
def key : String := p.group ++ "." ++ p.name

/-- Whether a name starts with that of the section and a bracket, so that it leads into a list. -/
def Indexed (name : String) : Prop := (p.group.toList ++ ['[']) <+: name.toList

instance : Decidable (p.Indexed name) := inferInstanceAs (Decidable (_ <+: _))

/-- What stands in the section. Where there is no section, there is a gap. -/
def sectionOf (s : Setting) : Setting := (s.get? p.group).getD blank

/-- Whether there is a scalar at the place. -/
def Holds (s : Setting) : Prop := ∃ a o, (p.sectionOf s).get? p.name = some (.scalar a o)

/-- Neither the tree nor the section is a list: their entries have names. -/
structure Unlisted (s : Setting) : Prop where
  root : ∀ elements o, s ≠ .list elements o
  group : ∀ elements o, p.sectionOf s ≠ .list elements o

variable {p}

theorem sectionOf_modify {f : Setting → Setting} :
    p.sectionOf (s.modify p.group f) = f (p.sectionOf s) := by
  rw [sectionOf, get?_modify_self]
  rfl

theorem sectionOf_modify_of_ne {entry : String} {f : Setting → Setting} (h : p.group ≠ entry) :
    p.sectionOf (s.modify entry f) = p.sectionOf s := by
  rw [sectionOf, get?_modify_of_ne h]
  rfl

theorem Holds.isSome (h : p.Holds s) : (s.get? p.group).isSome := by
  obtain ⟨a, o, h⟩ := h
  cases hgroup : s.get? p.group with
  | some t => rfl
  | none =>
    rw [sectionOf, hgroup] at h
    cases h

/-- A scalar that is assigned replaces what is at the place. -/
theorem assign_key : s.assign p.key (.scalar a o) =
    s.modify p.group (·.modify p.name fun _ => .scalar a o) := by
  rw [assign, key, p.isPath]
  simp only [setAt, setAfter, put, p.isLowercase]
  rfl

theorem assign_assign : (s.assign p.key (.scalar a o)).assign p.key (.scalar b r) =
    s.assign p.key (.scalar b r) := by
  rw [assign_key, assign_key, assign_key, modify_modify]
  refine modify_congr ?_
  rw [Function.comp_apply, modify_modify]
  rfl

theorem unlisted_assign_key : p.Unlisted (s.assign p.key (.scalar a o)) := by
  rw [assign_key]
  refine ⟨fun _ _ => nofun, ?_⟩
  rw [sectionOf_modify]
  exact fun _ _ => nofun

/-! ## Assignments elsewhere -/

variable (p) in
/-- A name that leads neither to the place nor into a list in place of the section. -/
structure Apart (name : String) : Prop where
  elsewhere : ∀ child, Path.ofText? name = some ⟨p.group, [.child child]⟩ →
    Text.lowercase child ≠ p.name
  noElement : ∀ index steps, Path.ofText? name ≠ some ⟨p.group, .element index :: steps⟩

theorem unlisted_assign (hapart : p.Apart name) (h : p.Unlisted s) :
    p.Unlisted (s.assign name (.scalar a o)) := by
  obtain ⟨entry, change, hassign, hchange⟩ := assign_scalar a o name
  rw [hassign]
  refine ⟨fun _ _ => nofun, fun elements r hlist => ?_⟩
  by_cases hentry : p.group = entry
  · subst hentry
    rw [sectionOf_modify] at hlist
    cases hchange with
    | replaced => cases hlist
    | @behind step steps hpath =>
      cases step with
      | element index => exact hapart.noElement index steps hpath
      | child child =>
        obtain ⟨entry, change, hmodify, -⟩ := setAfter_child a o child steps
        rw [hmodify] at hlist
        cases hlist
  · rw [sectionOf_modify_of_ne hentry] at hlist
    exact h.group elements r hlist

/-- What is done to the section is done before or after a scalar is set at the place. -/
theorem change_comm {change : Setting → Setting} {t : Setting} (hapart : p.Apart name)
    (hchange : Change name p.group (.scalar a o) change)
    (h : (change t).get? p.name = some (.scalar b r)) :
    t.get? p.name = some (.scalar b r) ∧ ∀ v, change (t.modify p.name fun _ => v) =
      (change t).modify p.name fun _ => v := by
  cases hchange with
  | replaced => cases h
  | @behind step steps hpath =>
    cases step with
    | element index => cases h
    | child child =>
      obtain ⟨entry, change, hmodify, hentry⟩ := setAfter_child a o child steps
      rw [hmodify] at h
      have hne : p.name ≠ entry := by
        rintro rfl
        obtain ⟨rfl, hname, rfl⟩ | ⟨hsteps, -, rfl⟩ := hentry
        · exact hapart.elsewhere child hpath hname.symm
        · obtain ⟨step, steps, rfl⟩ := List.exists_cons_of_ne_nil hsteps
          rw [get?_modify_self] at h
          exact setAfter_ne_scalar b r (Option.some.inj h)
      rw [get?_modify_of_ne hne] at h
      refine ⟨h, fun v => ?_⟩
      rw [hmodify, hmodify, modify_comm hne (by rw [h]; rfl)]

/-- **One assignment elsewhere.** If the place holds a scalar afterwards, it held one before, and it
does not matter which scalar is assigned first. -/
theorem assign_comm (hapart : p.Apart name) (h : p.Holds (s.assign name (.scalar a o))) :
    p.Holds s ∧ ∀ b r, (s.assign p.key (.scalar b r)).assign name (.scalar a o) =
      (s.assign name (.scalar a o)).assign p.key (.scalar b r) := by
  obtain ⟨c, q, h⟩ := h
  obtain ⟨entry, change, hassign, hchange⟩ := assign_scalar a o name
  rw [hassign] at h
  by_cases hentry : p.group = entry
  · subst hentry
    rw [sectionOf_modify] at h
    obtain ⟨hold, hcomm⟩ := change_comm hapart hchange h
    refine ⟨⟨c, q, hold⟩, fun b r => ?_⟩
    rw [assign_key, assign_key, hassign, hassign, modify_modify, modify_modify]
    exact modify_congr (hcomm _)
  · rw [sectionOf_modify_of_ne hentry] at h
    have hold : p.Holds s := ⟨c, q, h⟩
    refine ⟨hold, fun b r => ?_⟩
    rw [assign_key, assign_key, hassign, hassign, modify_comm hentry hold.isSome]

/-! ## Layers -/

variable (p) in
/-- A layer of scalars whose names all lead elsewhere. -/
def LayerApart (layer : Accounts.Named Setting) : Prop :=
  ∀ e ∈ layer, p.Apart e.1 ∧ ∃ a o, e.2 = .scalar a o

theorem unlisted_overlay {layer : Accounts.Named Setting} (hapart : p.LayerApart layer)
    (h : p.Unlisted s) : p.Unlisted (s.overlay layer) := by
  induction layer generalizing s with
  | nil => exact h
  | cons e layer ih =>
    obtain ⟨name, v⟩ := e
    obtain ⟨hname, a, o, rfl⟩ := hapart (name, v) List.mem_cons_self
    exact ih (fun e he => hapart e (List.mem_cons_of_mem _ he)) (unlisted_assign hname h)

/-- **A layer elsewhere.** If the place holds a scalar after a layer, a scalar is assigned there
before the layer or after it. -/
theorem overlay_assign {layer : Accounts.Named Setting} (hapart : p.LayerApart layer)
    (h : p.Holds (s.overlay layer)) :
    p.Holds s ∧ ∀ b r, (s.assign p.key (.scalar b r)).overlay layer =
      (s.overlay layer).assign p.key (.scalar b r) := by
  induction layer generalizing s with
  | nil => exact ⟨h, fun _ _ => rfl⟩
  | cons e layer ih =>
    obtain ⟨name, v⟩ := e
    obtain ⟨hname, a, o, rfl⟩ := hapart (name, v) List.mem_cons_self
    obtain ⟨hafter, hlayer⟩ := ih (fun e he => hapart e (List.mem_cons_of_mem _ he)) h
    obtain ⟨hbefore, hassign⟩ := assign_comm hname hafter
    refine ⟨hbefore, fun b r => ?_⟩
    calc ((s.assign p.key (.scalar b r)).assign name (.scalar a o)).overlay layer
        = ((s.assign name (.scalar a o)).assign p.key (.scalar b r)).overlay layer := by
          rw [hassign b r]
      _ = ((s.assign name (.scalar a o)).overlay layer).assign p.key (.scalar b r) := hlayer b r

end Place

end Accounts

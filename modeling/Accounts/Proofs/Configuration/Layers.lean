import Accounts.Proofs.Configuration.Leaf

/-!
# What layers say about a place

A layer has a value for a place in a section if it has a table for the section with an entry of that
name, or if a name of its own is the path of the place; case does not matter where a value is laid
over another one. If a layer has several values for one place, the last one counts. Layers whose
values suit their fields keep a tree free of repeated names, and a place has the value of the last
layer that has one.

* `Setting.Formed.assign` — one entry of a layer.
* `Setting.Formed.overlay` — a whole layer.
* `Configuration.ofSetting_overlay` — what is read in a tree that is made of layers.
-/

namespace Accounts

namespace Setting

variable {s t v : Setting} {name : String} {e : String × Setting} {es : Named Setting}

/-! ## Entries of a layer -/

/-- The path of a name. A name that is no path is the name of an entry at the root. -/
def Path.ofName (name : String) : Path := (Path.ofText? name).getD ⟨name, []⟩

/-- The entry of the tree that an entry of a layer changes. -/
def entryOf (e : String × Setting) : String :=
  match Path.ofName e.1 with
  | ⟨root, []⟩ => Text.lowercase root
  | ⟨root, _⟩ => root

/-- The values that an entry of a layer lays over those of a table in the tree. There are none if it
replaces the table or reaches further down. -/
def values? (e : String × Setting) : Option (Named Setting) :=
  match Path.ofName e.1, e.2 with
  | ⟨_, []⟩, .table entries _ => some entries
  | ⟨_, [.child name]⟩, v => some [(name, v)]
  | _, _ => none

theorem assign_eq_setAt : s.assign name v = s.setAt (Path.ofName name) v := by
  rw [assign, Path.ofName]
  cases Path.ofText? name <;> rfl

theorem put_eq_set : ∃ w, s.put name v = s.set (Text.lowercase name) w := by
  cases v with
  | scalar a o => exact ⟨_, rfl⟩
  | list elements o => exact ⟨_, rfl⟩
  | table entries o => exact ⟨_, rfl⟩

theorem assign_eq_set (e : String × Setting) : ∃ w, s.assign e.1 e.2 = s.set (entryOf e) w := by
  rw [assign_eq_setAt, entryOf]
  obtain ⟨root, steps⟩ := Path.ofName e.1
  cases steps with
  | nil => exact put_eq_set
  | cons step steps => exact ⟨_, rfl⟩

theorem assign_eq_putAll (h : values? e = some es) :
    s.assign e.1 e.2 = s.set (entryOf e) (putAll ((s.get? (entryOf e)).getD empty) es) := by
  rw [assign_eq_setAt, entryOf]
  rw [values?] at h
  split at h
  · next root entries o hpath hv =>
    cases h
    rw [hpath, hv]
    rfl
  · next _ root child hpath =>
    cases h
    rw [hpath]
    -- What is not there counts as a gap on the one side and as an empty table on the other.
    have hgap : (blank.put child e.2) = empty.put child e.2 := by cases e.2 <;> rfl
    cases hentry : s.get? root with
    | none =>
      simp only [setAt, setAfter, hentry, Option.getD_none, hgap, putAll]
    | some t =>
      simp only [setAt, setAfter, hentry, Option.getD_some, putAll]
  · cases h

/-! ## Values laid over a table -/

/-- The values that are laid over the entry of a name. -/
def named (name : String) (es : Named Setting) : List Setting :=
  es.filterMap fun x => if Text.lowercase x.1 = name then some x.2 else none

theorem mem_named {name : String} :
    v ∈ named name es ↔ ∃ k, (k, v) ∈ es ∧ Text.lowercase k = name := by
  simp [named]

theorem tidy_set (h : (s.entries.map Prod.fst).Nodup) : (s.set name v).Tidy := Named.nodup_replace h

theorem Tidy.nodup (h : t.Tidy) : (t.entries.map Prod.fst).Nodup := by
  cases t with
  | table entries o => exact h
  | scalar a o => exact h.elim
  | list elements o => exact h.elim

theorem Tidy.putAll (h : t.Tidy) : (putAll t es).Tidy := by
  induction es generalizing t with
  | nil => exact h
  | cons x es ih =>
    obtain ⟨w, hw⟩ : ∃ w, t.put x.1 x.2 = t.set (Text.lowercase x.1) w := put_eq_set
    exact ih (hw ▸ tidy_set h.nodup)

/-- **The last value counts** if scalars are laid over an entry. -/
theorem get?_putAll (h : ∀ v ∈ named name es, ∃ a o, v = .scalar a o) :
    (putAll t es).get? name = (named name es).getLast?.or (t.get? name) := by
  induction es generalizing t with
  | nil => rfl
  | cons x es ih =>
    obtain ⟨k, v⟩ := x
    rw [Setting.putAll]
    by_cases hk : Text.lowercase k = name
    · have hnamed : named name ((k, v) :: es) = v :: named name es := by simp [named, hk]
      rw [hnamed] at h ⊢
      obtain ⟨a, o, rfl⟩ := h v List.mem_cons_self
      rw [ih fun w hw => h w (List.mem_cons_of_mem _ hw), ← hk, get?_put_scalar, List.getLast?_cons]
      cases (named (Text.lowercase k) es).getLast? <;> rfl
    · have hnamed : named name ((k, v) :: es) = named name es := by simp [named, hk]
      rw [hnamed] at h ⊢
      rw [ih h, get?_put_of_ne _ _ (Ne.symm hk)]

end Setting

open Setting

/-- The scalar that a setting is, if it is one. -/
def Setting.scalar? : Setting → Option Scalar
  | .scalar a _ => some a
  | _ => none

/-! ## Layers that suit the fields -/

namespace Leaf

variable {f : Leaf} {s v : Setting} {e : String × Setting} {layer lower : Named Setting}

/-- Whether a value is a scalar that stands for a value of the field. -/
def Fits (f : Leaf) (v : Setting) : Prop := ∃ a ∈ v.scalar?, (f.kind.convert a).isSome

instance : Decidable (f.Fits v) :=
  match h : v.scalar? with
  | some a => decidable_of_iff ((f.kind.convert a).isSome = true) (by simp [Fits, h])
  | none => isFalse (by simp [Fits, h])

/-- Whether an entry of a layer keeps the sections tables and gives their fields values of a sort.
What it does elsewhere does not matter. -/
def Keeps (sort : Leaf → Setting → Prop) (e : String × Setting) : Prop :=
  entryOf e ∈ groups → (values? e).isSome ∧
    ∀ x ∈ (values? e).getD [], ∀ f ∈ all, f.place.group = entryOf e →
      Text.lowercase x.1 = f.place.name → sort f x.2

instance (sort : Leaf → Setting → Prop) [∀ f v, Decidable (sort f v)] : Decidable (Keeps sort e) :=
  inferInstanceAs (Decidable (_ → _))

/-- Whether an entry gives the fields scalars, suitable or not. -/
def Plain : String × Setting → Prop := Keeps fun _ v => v.scalar?.isSome

/-- Whether an entry gives the fields suitable values. -/
def Suits : String × Setting → Prop := Keeps Fits

instance : Decidable (Plain e) := inferInstanceAs (Decidable (Keeps _ _))

instance : Decidable (Suits e) := inferInstanceAs (Decidable (Keeps _ _))

theorem Suits.plain (h : Suits e) : Plain e := fun hgroup => by
  obtain ⟨hvalues, hfits⟩ := h hgroup
  refine ⟨hvalues, fun x hx f hf hentry hname => ?_⟩
  obtain ⟨a, ha, -⟩ := hfits x hx f hf hentry hname
  exact Option.isSome_iff_exists.2 ⟨a, ha⟩

/-- The values that an entry of a layer has for the place of a field. -/
def valuesIn (f : Leaf) (e : String × Setting) : List Setting :=
  if entryOf e = f.place.group then named f.place.name ((values? e).getD []) else []

/-- The value that a layer has for a field. -/
def value? (f : Leaf) (layer : Named Setting) : Option Setting :=
  (layer.flatMap f.valuesIn).getLast?

theorem of_mem_valuesIn {sort : Leaf → Setting → Prop} (he : Keeps sort e)
    (h : v ∈ f.valuesIn e) : sort f v := by
  rw [valuesIn] at h
  split at h
  · next hentry =>
    obtain ⟨k, hk, hname⟩ := mem_named.1 h
    exact (he (hentry ▸ f.group_mem)).2 (k, v) hk f f.mem_all hentry.symm hname
  · cases h

theorem of_value? {sort : Leaf → Setting → Prop} (h : ∀ e ∈ layer, Keeps sort e)
    (hv : f.value? layer = some v) : sort f v := by
  obtain ⟨e, he, hmem⟩ := List.mem_flatMap.1 (List.mem_of_getLast? hv)
  exact of_mem_valuesIn (h e he) hmem

theorem exists_scalar (h : v.scalar?.isSome) : ∃ a o, v = .scalar a o := by
  cases v with
  | scalar a o => exact ⟨a, o, rfl⟩
  | list elements o => cases h
  | table entries o => cases h

/-- The scalar that a layer has for a field. -/
def given? (f : Leaf) (layer : Named Setting) : Option Scalar := (f.value? layer).bind scalar?

theorem given?_eq_some {a : Scalar} :
    f.given? layer = some a ↔ ∃ o, f.value? layer = some (.scalar a o) := by
  rw [given?, Option.bind_eq_some_iff]
  constructor
  · rintro ⟨v, hv, ha⟩
    cases v with
    | scalar b o =>
      cases ha
      exact ⟨o, hv⟩
    | list elements o => cases ha
    | table entries o => cases ha
  · rintro ⟨o, hv⟩
    exact ⟨_, hv, rfl⟩

theorem value?_append : f.value? (lower ++ layer) = (f.value? layer).or (f.value? lower) := by
  rw [value?, List.flatMap_append, List.getLast?_append]
  rfl

/-- Of two layers the upper one counts if it has a value. -/
theorem given?_append (h : ∀ e ∈ layer, Plain e) :
    f.given? (lower ++ layer) = (f.given? layer).or (f.given? lower) := by
  rw [given?, given?, given?, value?_append]
  cases hv : f.value? layer with
  | none => rfl
  | some v =>
    obtain ⟨a, o, rfl⟩ := exists_scalar (of_value? h hv)
    rfl

end Leaf

namespace Setting

variable {s : Setting} {e : String × Setting} {layer : Named Setting}

theorem get?_assign_of_ne {name : String} (h : name ≠ entryOf e) :
    (s.assign e.1 e.2).get? name = s.get? name := by
  obtain ⟨w, hw⟩ := assign_eq_set (s := s) e
  rw [hw, get?_set, if_neg h]

theorem formed_empty : empty.Formed := ⟨List.nodup_nil, fun _ _ _ h => by cases h⟩

/-- **One entry of a layer.** No name comes twice afterwards, and a place has the last value of the
entry, if there is one. -/
theorem Formed.assign (hs : s.Formed) (he : Leaf.Plain e) :
    (s.assign e.1 e.2).Formed ∧
      ∀ f : Leaf, f.place.get? (s.assign e.1 e.2) =
        (f.valuesIn e).getLast?.or (f.place.get? s) := by
  obtain ⟨w, hw⟩ := assign_eq_set (s := s) e
  have hroot : (s.assign e.1 e.2).Tidy := hw ▸ tidy_set hs.root.nodup
  by_cases hgroup : entryOf e ∈ Leaf.groups
  · obtain ⟨es, hes⟩ := Option.isSome_iff_exists.1 (he hgroup).1
    have hassign := assign_eq_putAll (s := s) hes
    have htidy : ((s.get? (entryOf e)).getD empty).Tidy := by
      cases ht : s.get? (entryOf e) with
      | none => exact formed_empty.root
      | some t => exact hs.sections _ hgroup t ht
    refine ⟨⟨hroot, fun g hg t ht => ?_⟩, fun f => ?_⟩
    · by_cases hentry : g = entryOf e
      · rw [hassign, get?_set, if_pos hentry] at ht
        exact Option.some.inj ht ▸ htidy.putAll
      · exact hs.sections g hg t (get?_assign_of_ne hentry ▸ ht)
    · by_cases hentry : entryOf e = f.place.group
      · have hvalues : f.valuesIn e = named f.place.name es := by
          rw [Leaf.valuesIn, if_pos hentry, hes]
          rfl
        have hscalar : ∀ v ∈ named f.place.name es, ∃ a o, v = .scalar a o := fun v hv =>
          Leaf.exists_scalar (Leaf.of_mem_valuesIn he (hvalues ▸ hv))
        rw [hvalues, Place.get?, Place.sectionOf, hassign, get?_set, if_pos hentry.symm,
          Option.getD_some, get?_putAll hscalar, hentry, Place.get?, Place.sectionOf]
        cases s.get? f.place.group <;> rfl
      · rw [Leaf.valuesIn, if_neg hentry, Place.get?, Place.sectionOf,
          get?_assign_of_ne (Ne.symm hentry)]
        rfl
  · have hne : ∀ {g}, g ∈ Leaf.groups → g ≠ entryOf e := fun hg heq => hgroup (heq ▸ hg)
    refine ⟨⟨hroot, fun g hg t ht => hs.sections g hg t (get?_assign_of_ne (hne hg) ▸ ht)⟩,
      fun f => ?_⟩
    rw [Leaf.valuesIn, if_neg (hne f.group_mem).symm, Place.get?, Place.sectionOf,
      get?_assign_of_ne (hne f.group_mem)]
    rfl

theorem Formed.overlay (hs : s.Formed) (hlayer : ∀ e ∈ layer, Leaf.Plain e) :
    (s.overlay layer).Formed ∧
      ∀ f : Leaf, f.place.get? (s.overlay layer) = (f.value? layer).or (f.place.get? s) := by
  induction layer generalizing s with
  | nil => exact ⟨hs, fun f => rfl⟩
  | cons e layer ih =>
    obtain ⟨hformed, hplace⟩ := hs.assign (hlayer e List.mem_cons_self)
    obtain ⟨hformed', hplace'⟩ := ih hformed fun e he => hlayer e (List.mem_cons_of_mem _ he)
    refine ⟨hformed', fun f => ?_⟩
    have hcons : f.value? (e :: layer) = (f.value? layer).or (f.valuesIn e).getLast? := by
      rw [Leaf.value?, List.flatMap_cons, List.getLast?_append]
      rfl
    rw [hcons, Option.or_assoc, ← hplace f]
    exact hplace' f

end Setting

namespace Configuration

variable {layer : Named Setting}

/-- The place of a field has the value that the layer has for the field. -/
theorem get?_overlay (h : ∀ e ∈ layer, Leaf.Plain e) (f : Leaf) :
    f.place.get? (Setting.empty.overlay layer) = f.value? layer := by
  rw [(formed_empty.overlay h).2 f]
  exact Option.or_none

end Configuration

end Accounts

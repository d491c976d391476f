import Accounts.Proofs.Configuration.Overlay

/-!
# The layer of an environment

A variable has one setting in the layer of its environment, whatever its text, and its text decides
about nothing but the value of that setting.

* `Environment.layer_eq_replace` — another text of a variable is another value under its name.
* `Environment.layer_split` — the settings before and behind that of a variable. Those behind it
  lead elsewhere in the tree.
-/

namespace Accounts

namespace Environment

/-- The setting that a text stands for. -/
def setting (text : String) : Setting := .scalar (scalar text) (some origin)

/-- Adds the settings of an environment to others. -/
def addTo (entries : Named Setting) (environment : Environment) : Named Setting :=
  environment.foldl (fun entries (name, text) =>
    Named.replace (settingName name) (setting text) entries) entries

variable {entries : Named Setting} {environment before after : Environment} {name : String}

theorem layer_eq_addTo : layer environment = addTo [] environment := rfl

theorem addTo_cons (entry : String × String) : addTo entries (entry :: environment) =
    addTo (Named.replace (settingName entry.1) (setting entry.2) entries) environment := rfl

theorem addTo_append : addTo entries (before ++ after) = addTo (addTo entries before) after :=
  List.foldl_append

theorem nodup_addTo (h : (entries.map Prod.fst).Nodup) :
    ((addTo entries environment).map Prod.fst).Nodup := by
  induction environment generalizing entries with
  | nil => exact h
  | cons entry environment ih => exact ih (Named.nodup_replace h)

theorem nodup_layer (environment : Environment) : ((layer environment).map Prod.fst).Nodup :=
  nodup_addTo List.nodup_nil

theorem mem_addTo {e : String × Setting} (h : e ∈ addTo entries environment) :
    e ∈ entries ∨ ∃ x ∈ environment, e = (settingName x.1, setting x.2) := by
  induction environment generalizing entries with
  | nil => exact .inl h
  | cons entry environment ih =>
    obtain h | ⟨x, hx, rfl⟩ := ih h
    · obtain rfl | h := Named.eq_or_mem_of_mem_replace h
      · exact .inr ⟨entry, List.mem_cons_self, rfl⟩
      · exact .inl h
    · exact .inr ⟨x, List.mem_cons_of_mem _ hx, rfl⟩

/-- Variables of other names are added before or after a name that is there gets its value. -/
theorem addTo_replace (hname : name ∈ entries.map Prod.fst)
    (hother : ∀ e ∈ environment, settingName e.1 ≠ name) (v : Setting) :
    addTo (Named.replace name v entries) environment =
      Named.replace name v (addTo entries environment) := by
  induction environment generalizing entries with
  | nil => rfl
  | cons entry environment ih =>
    have hne := hother entry List.mem_cons_self
    rw [addTo_cons, addTo_cons, Named.replace_comm hne.symm hname]
    refine ih ?_ fun e he => hother e (List.mem_cons_of_mem _ he)
    rw [Named.map_fst_replace]
    split
    · exact hname
    · exact List.mem_append_left _ hname

/-- Variables of different names are settings in their order. -/
theorem addTo_eq_append
    (h : (entries.map Prod.fst ++ environment.map fun e => settingName e.1).Nodup) :
    addTo entries environment =
      entries ++ environment.map fun e => (settingName e.1, setting e.2) := by
  induction environment generalizing entries with
  | nil => exact (List.append_nil entries).symm
  | cons entry environment ih =>
    have hnew : settingName entry.1 ∉ entries.map Prod.fst := fun hmem =>
      (List.nodup_append.1 h).2.2 _ hmem _ List.mem_cons_self rfl
    rw [addTo_cons, Named.replace_of_notMem hnew, ih (by simpa using h), List.map_cons,
      List.append_assoc]
    rfl

theorem layer_eq_map (h : (environment.map fun e => settingName e.1).Nodup) :
    layer environment = environment.map fun e => (settingName e.1, setting e.2) :=
  addTo_eq_append h

/-- **Another text** of a variable is another value under its name, unless a later variable has that
name. -/
theorem layer_eq_replace (hother : ∀ e ∈ after, settingName e.1 ≠ settingName name)
    (old text : String) : layer (before ++ (name, text) :: after) =
      Named.replace (settingName name) (setting text) (layer (before ++ (name, old) :: after)) := by
  have hmem : settingName name ∈
      (Named.replace (settingName name) (setting old) (addTo [] before)).map Prod.fst :=
    Named.mem_names_replace ..
  rw [layer_eq_addTo, layer_eq_addTo, addTo_append, addTo_append, addTo_cons, addTo_cons,
    ← addTo_replace hmem hother, Named.replace_replace]

/-- A variable of another name leads elsewhere, unless it leads into a list. -/
theorem apart_settingName {p : Place} (hkey : settingName name ≠ p.key)
    (hindex : ¬ p.Indexed (settingName name)) : p.Apart (settingName name) where
  elsewhere child hpath hname := by
    rw [lowercase_child hpath] at hname
    have htext : (settingName name).toList = p.key.toList := by
      rw [(Setting.Path.toList_of_child hpath).1, hname]
      simp [Place.key]
    exact hkey (String.toList_inj.1 htext)
  noElement index steps hpath := by
    obtain ⟨rest, hrest⟩ := Setting.Path.toList_of_element hpath
    exact hindex ⟨rest, by rw [hrest, List.append_assoc]; rfl⟩

/-- What stands behind the setting of a variable is the setting of another one. -/
theorem layerApart_of_eq {p : Place} {text : String} {v : Setting} {lower upper : Named Setting}
    (hname : settingName name = p.key)
    (hindex : ∀ e ∈ before ++ after, ¬ p.Indexed (settingName e.1))
    (hlayer : layer (before ++ (name, text) :: after) = lower ++ (p.key, v) :: upper) :
    p.LayerApart upper := by
  -- A layer has no name twice, so that of the variable does not come behind it again.
  have hnodup := nodup_layer (before ++ (name, text) :: after)
  rw [hlayer, List.map_append, List.map_cons] at hnodup
  have hkey : p.key ∉ upper.map Prod.fst :=
    (List.nodup_cons.1 (List.nodup_append.1 hnodup).2.1).1
  intro e he
  have hmem : e ∈ layer (before ++ (name, text) :: after) := by
    rw [hlayer]
    simp [he]
  obtain h | ⟨x, hx, rfl⟩ := mem_addTo hmem
  · cases h
  · have hupper : settingName x.1 ∈ upper.map Prod.fst := List.mem_map.2 ⟨_, he, rfl⟩
    have hne : settingName x.1 ≠ p.key := fun h => hkey (h ▸ hupper)
    obtain hx | rfl | hx : x ∈ before ∨ x = (name, text) ∨ x ∈ after := by simpa using hx
    · exact ⟨apart_settingName hne (hindex x (List.mem_append_left _ hx)), _, _, rfl⟩
    · exact absurd hname hne
    · exact ⟨apart_settingName hne (hindex x (List.mem_append_right _ hx)), _, _, rfl⟩

/-- **The settings before and behind that of a variable.** -/
theorem layer_split {p : Place} (hname : settingName name = p.key)
    (hother : ∀ e ∈ after, settingName e.1 ≠ settingName name)
    (hindex : ∀ e ∈ before ++ after, ¬ p.Indexed (settingName e.1)) :
    ∃ lower upper : Named Setting, p.LayerApart upper ∧ ∀ text,
      layer (before ++ (name, text) :: after) = lower ++ (p.key, setting text) :: upper := by
  have hmem : settingName name ∈ (layer (before ++ (name, "") :: after)).map Prod.fst := by
    rw [layer_eq_replace hother "" ""]
    exact Named.mem_names_replace ..
  obtain ⟨lower, upper, hsplit⟩ := Named.exists_replace_eq hmem
  have hlayer : ∀ text, layer (before ++ (name, text) :: after) =
      lower ++ (p.key, setting text) :: upper := fun text => by
    rw [layer_eq_replace hother "" text, hsplit, hname]
  exact ⟨lower, upper, layerApart_of_eq hname hindex (hlayer ""), hlayer⟩

end Environment

end Accounts

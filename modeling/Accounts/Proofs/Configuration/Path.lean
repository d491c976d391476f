import Accounts.Configuration.Environment
import Accounts.Proofs.Number.Decimal
import Accounts.Proofs.Text.Lowercase

/-!
# The text of a path

A path is read from its text alone: its names stand there as they are, a dot before each but the
first and a bracket before each index. Variables have names in lower case, so their paths have too.

* `Setting.Path.toList_of_child` — the text of a path of two names.
* `Setting.Path.toList_of_element` — the text of a path that goes into a list at the root.
* `Environment.lowercase_child` — names in the path of a variable are in lower case.
-/

namespace Accounts

namespace Setting.Path

theorem name?_eq_some {cs rest : List Char} {name : String} (h : name? cs = some (name, rest)) :
    cs = name.toList ++ rest ∧ ∀ c ∈ name.toList, isNameChar c = true := by
  rw [name?] at h
  split at h
  · cases h
  · cases h
    rw [String.toList_ofList]
    exact ⟨List.takeWhile_append_dropWhile.symm, List.all_eq_true.1 List.all_takeWhile⟩

/-- The characters of names are ASCII. -/
theorem lt_of_isNameChar {c : Char} (h : isNameChar c = true) : c.toNat < 0x80 := by
  simp only [isNameChar, Bool.or_eq_true, beq_iff_eq] at h
  obtain ((halphanum | rfl) | rfl) | rfl := h
  · have hkinds : ((c.isUpper || c.isLower) || c.isDigit) = true := halphanum
    rw [Bool.or_eq_true, Bool.or_eq_true] at hkinds
    obtain (hupper | hlower) | hdigit := hkinds
    · have := Text.isUpper_iff.1 hupper
      omega
    · have := Text.isLower_iff.1 hlower
      omega
    · have := Integer.toNat_of_isDigit hdigit
      omega
  · decide
  · decide
  · decide

theorem steps?_eq_some {fuel : Nat} {cs : List Char} {step : Step} {steps : List Step}
    (h : steps? fuel cs = some (step :: steps)) :
    (∃ name rest fuel', step = .child name ∧ cs = '.' :: (name.toList ++ rest) ∧
      (∀ c ∈ name.toList, isNameChar c = true) ∧ steps? fuel' rest = some steps) ∨
    ∃ index rest, step = .element index ∧ cs = '[' :: rest := by
  fun_cases steps? fuel cs with
  | case1 => simp [steps?] at h
  | case2 => simp [steps?] at h
  | case3 fuel rest =>
    simp only [steps?, Option.bind_eq_bind, Option.bind_eq_some_iff, Option.pure_def,
      Option.some.injEq, List.cons.injEq] at h
    obtain ⟨⟨name, rest'⟩, hname, steps', hsteps, rfl, rfl⟩ := h
    obtain ⟨rfl, hchars⟩ := name?_eq_some hname
    exact .inl ⟨name, rest', fuel, rfl, rfl, hchars, hsteps⟩
  | case4 fuel rest =>
    simp only [steps?, Option.bind_eq_bind, Option.bind_eq_some_iff, Option.pure_def,
      Option.some.injEq, List.cons.injEq] at h
    obtain ⟨⟨inner, rest'⟩, hinner, index, hindex, steps', hsteps, rfl, rfl⟩ := h
    exact .inr ⟨index, rest, rfl, rfl⟩
  | case5 => simp_all [steps?]

theorem steps?_eq_nil {fuel : Nat} {cs : List Char} (h : steps? fuel cs = some []) : cs = [] := by
  fun_cases steps? fuel cs with
  | case1 => rfl
  | case2 => simp [steps?] at h
  | case3 => simp [steps?, Option.bind_eq_some_iff] at h
  | case4 => simp [steps?, Option.bind_eq_some_iff] at h
  | case5 => simp_all [steps?]

theorem ofText?_eq_some {text root : String} {steps : List Step}
    (h : ofText? text = some ⟨root, steps⟩) :
    ∃ fuel rest, text.toList = root.toList ++ rest ∧ steps? fuel rest = some steps := by
  simp only [ofText?, Option.bind_eq_bind, Option.bind_eq_some_iff, Option.pure_def,
    Option.some.injEq, Path.mk.injEq, Prod.exists] at h
  obtain ⟨root', rest, hname, steps', hsteps, rfl, rfl⟩ := h
  exact ⟨rest.length, rest, (name?_eq_some hname).1, hsteps⟩

/-- **The text of a path of two names.** -/
theorem toList_of_child {text root name : String}
    (h : ofText? text = some ⟨root, [.child name]⟩) :
    text.toList = root.toList ++ '.' :: name.toList ∧
      ∀ c ∈ name.toList, isNameChar c = true := by
  obtain ⟨fuel, rest, htext, hsteps⟩ := ofText?_eq_some h
  obtain ⟨name', rest', fuel', hname, rfl, hchars, hrest⟩ | ⟨index, _, hindex, _⟩ :=
    steps?_eq_some hsteps
  · cases hname
    rw [htext, steps?_eq_nil hrest, List.append_nil]
    exact ⟨rfl, hchars⟩
  · cases hindex

/-- **The text of a path that goes into a list at the root.** -/
theorem toList_of_element {text root : String} {index : Int} {steps : List Step}
    (h : ofText? text = some ⟨root, .element index :: steps⟩) :
    ∃ rest, text.toList = root.toList ++ '[' :: rest := by
  obtain ⟨fuel, rest, htext, hsteps⟩ := ofText?_eq_some h
  obtain ⟨_, _, _, hname, _⟩ | ⟨_, rest', _, rfl⟩ := steps?_eq_some hsteps
  · cases hname
  · exact ⟨rest', htext⟩

end Setting.Path

namespace Environment

theorem eq_or_mem_of_mem_dots {c : Char} {cs : List Char} (h : c ∈ settingName.dots cs) :
    c = '.' ∨ c ∈ cs := by
  fun_induction settingName.dots cs with
  | case1 rest ih =>
    obtain rfl | h := List.mem_cons.1 h
    · exact .inl rfl
    · exact (ih h).imp_right fun h => List.mem_cons_of_mem _ (List.mem_cons_of_mem _ h)
  | case2 d rest hne ih =>
    obtain rfl | h := List.mem_cons.1 h
    · exact .inr List.mem_cons_self
    · exact (ih h).imp_right (List.mem_cons_of_mem _)
  | case3 => exact .inr h

/-- Names of settings from the environment have no capital letter of ASCII. -/
theorem isUpper_of_mem_settingName {name : String} {c : Char}
    (h : c ∈ (settingName name).toList) : c.isUpper = false := by
  rw [settingName, String.toList_ofList] at h
  obtain rfl | h := eq_or_mem_of_mem_dots h
  · decide
  · exact Text.isUpper_of_mem_lowercase h

/-- **Names in the path of a variable are in lower case.** -/
theorem lowercase_child {name root child : String}
    (h : Setting.Path.ofText? (settingName name) = some ⟨root, [.child child]⟩) :
    Text.lowercase child = child := by
  obtain ⟨htext, hchars⟩ := Setting.Path.toList_of_child h
  refine Text.lowercase_eq_self (fun c hc => Setting.Path.lt_of_isNameChar (hchars c hc))
    fun c hc => ?_
  have hmem : c ∈ (settingName name).toList := by simp [htext, hc]
  exact isUpper_of_mem_settingName hmem

end Environment

end Accounts

import Accounts.Configuration.Load
import Accounts.Proofs.Configuration.Environment
import Accounts.Proofs.Configuration.TextSetting
import Accounts.Proofs.Number.Numeral

/-!
# Texts from the environment

A setting that is a text, a secret for one, gets its text from a variable of the environment. The
text of the variable is taken for a truth value, a number or a text, and the value is printed again
for the field. So the field has the text of the variable only if that is the printed form of what it
stands for, and different texts become one secret if they stand for one value.

* `Environment.reprint_eq_self_iff` — which texts come back as they are.
* `Configuration.load_eq_ok` — what is read when a configuration is loaded.
* `Configuration.load_reprint` — the configuration for any text of the variable.
* `Configuration.not_verbatim` — a secret that is not kept.
-/

namespace Accounts

namespace Environment

/-! ## Printing again -/

/-- The text of a scalar. A gap has none. -/
def printed? : Scalar → Option String
  | .blank => none
  | .bool b => some (KeyedSetting.boolText b)
  | .integer n => some (toString n)
  | .float x => some x.display
  | .text s => some s

/-- The text of a variable as it comes back from the value that it stands for, which is no gap. -/
def reprint (text : String) : String := (printed? (scalar text)).getD text

/-- The texts that are the printed form of what they stand for. -/
inductive Verbatim : String → Prop
  | bool (b : Bool) : Verbatim (KeyedSetting.boolText b)
  | integer (n : Int) (h : Integer.IsSigned64 n) : Verbatim (toString n)
  | float (x : Binary64) (h : scalar x.display = .float x) : Verbatim x.display
  | text (s : String) (h : scalar s = .text s) : Verbatim s

theorem scalar_cases (text : String) :
    (∃ b, scalar text = .bool b) ∨ (∃ n, scalar text = .integer n ∧ Integer.IsSigned64 n) ∨
      (∃ x, scalar text = .float x) ∨ scalar text = .text text := by
  rw [scalar]
  split
  · exact .inl ⟨true, rfl⟩
  · exact .inl ⟨false, rfl⟩
  · split
    · next n hn => exact .inr (.inl ⟨n, rfl, Integer.isSigned64_of_parseInt hn⟩)
    · split
      · next x hx => exact .inr (.inr (.inl ⟨x, rfl⟩))
      · exact .inr (.inr (.inr rfl))

theorem text_setting (key text : String) :
    KeyedSetting.text ⟨key, setting text⟩ = .ok (reprint text) := by
  obtain ⟨b, h⟩ | ⟨n, h, -⟩ | ⟨x, h⟩ | h := scalar_cases text
  all_goals
    rw [reprint, setting, h]
    rfl

/-- The printed form of a number stands for the number. -/
theorem scalar_toString {n : Int} (h : Integer.IsSigned64 n) :
    scalar (toString n) = .integer n := by
  have hnumeral := Integer.numeral_toString n
  have hread := Integer.parseInt_iff.2 ⟨hnumeral, h⟩
  rw [scalar, hnumeral.lowercase]
  split
  · next hword => rw [hword] at hread; cases hread
  · next hword => rw [hword] at hread; cases hread
  · rw [hread]

/-- **Which texts come back as they are.** -/
theorem reprint_eq_self_iff {s : String} : reprint s = s ↔ Verbatim s := by
  constructor
  · intro hs
    obtain ⟨b, h⟩ | ⟨n, h, hn⟩ | ⟨x, h⟩ | h := scalar_cases s
    · have hprint : KeyedSetting.boolText b = s := by rwa [reprint, h] at hs
      exact hprint ▸ .bool b
    · have hprint : toString n = s := by rwa [reprint, h] at hs
      exact hprint ▸ .integer n hn
    · have hprint : x.display = s := by rwa [reprint, h] at hs
      exact hprint ▸ .float x (hprint ▸ h)
    · exact .text s h
  · intro h
    cases h with
    | bool b => cases b <;> rfl
    | integer n h => rw [reprint, scalar_toString h]; rfl
    | float x h => rw [reprint, h]; rfl
    | text _ h => rw [reprint, h]; rfl

example : ["TRUE", "+5", "1.50", "1e400"].map reprint = ["true", "5", "1.5", "inf"] := by
  decide +kernel

end Environment

open Environment

namespace Configuration

/-! ## Loading -/

/-- **What is read when a configuration is loaded:** a tree made of what is built in, two files and
the environment. -/
theorem load_eq_ok {directory : Directory} {environment : Environment} {c : Configuration} :
    load directory environment = .ok c ↔
      ∃ common special, directory.layer "config/default" = .ok common ∧
        directory.layer ("config/" ++ runMode environment) = .ok special ∧
        ofSetting ((((Setting.empty.overlay builtIn).overlay common).overlay special).overlay
          environment.layer) = .ok c := by
  simp only [load, layers, Except.bind_eq_ok, Except.mapError_eq_ok]
  constructor
  · rintro ⟨_, ⟨common, hcommon, special, hspecial, hlayers⟩, hread⟩
    cases hlayers
    exact ⟨common, special, hcommon, hspecial, hread⟩
  · rintro ⟨common, special, hcommon, hspecial, hread⟩
    exact ⟨_, ⟨common, hcommon, special, hspecial, rfl⟩, hread⟩

section Texts

variable {f : TextSetting} {before after : Environment}

theorem runMode_eq (s t : String) :
    runMode (before ++ (f.environmentName, s) :: after) =
      runMode (before ++ (f.environmentName, t) :: after) := by
  have hne : "RUN_MODE" ≠ f.environmentName := by cases f <;> decide
  simp only [runMode, List.lookup_append, Named.lookup_cons, if_neg hne]

/-- Another text of the variable is another text in the field. -/
theorem load_replaced {directory : Directory} {old : String} {c : Configuration}
    (hload : load directory (before ++ (f.environmentName, old) :: after) = .ok c)
    (hother : ∀ e ∈ after, settingName e.1 ≠ f.place.key)
    (hindex : ∀ e ∈ before ++ after, ¬ f.place.Indexed (settingName e.1))
    (s : String) :
    load directory (before ++ (f.environmentName, s) :: after) = .ok (f.set (reprint s) c) := by
  obtain ⟨common, special, hcommon, hspecial, hread⟩ := load_eq_ok.1 hload
  have hname := f.settingName_environmentName
  have hother' : ∀ e ∈ after, settingName e.1 ≠ settingName f.environmentName := by rwa [hname]
  obtain ⟨lower, upper, hupper, hlayer⟩ := layer_split hname hother' hindex
  refine load_eq_ok.2 ⟨common, special, hcommon, runMode_eq old s ▸ hspecial, ?_⟩
  generalize ((Setting.empty.overlay builtIn).overlay common).overlay special = files at hread ⊢
  have htree : ∀ t, files.overlay (layer (before ++ (f.environmentName, t) :: after)) =
      ((files.overlay lower).assign f.place.key (setting t)).overlay upper := fun t => by
    rw [hlayer, Setting.overlay, List.foldl_append]
    rfl
  rw [htree] at hread ⊢
  -- The place holds a scalar to the end, as the tree can be read; so what is laid over it commutes.
  obtain ⟨hholds, hassign⟩ :=
    f.ofSetting_assign hread (Place.unlisted_overlay hupper Place.unlisted_assign_key)
  have hcomm := (Place.overlay_assign hupper hholds).2 (scalar s) (some origin)
  rw [setting, Place.assign_assign] at hcomm
  rw [setting, hcomm]
  exact hassign fun key => text_setting key s

/-- **The configuration for any text of the variable.** Other variables may not lead to the same
place after it, nor make the section a list. If the configuration is loaded with one text, it is
loaded with every text; its field, and the authenticator's, is the text as it is printed again. That
is the text itself if it is verbatim, and two texts make the same configuration if they are printed
alike. -/
theorem load_reprint (f : TextSetting) {directory : Directory} {before after : Environment}
    {old : String} {c : Configuration}
    (hload : load directory (before ++ (f.environmentName, old) :: after) = .ok c)
    (hother : ∀ e ∈ after, settingName e.1 ≠ f.place.key)
    (hindex : ∀ e ∈ before ++ after, ¬ f.place.Indexed (settingName e.1))
    (s : String) :
    load directory (before ++ (f.environmentName, s) :: after) = .ok (f.set (reprint s) c) ∧
      (f.set (reprint s) c).authSettings = c.authSettings.map (f.setAuth (reprint s)) ∧
      (f.get (f.set (reprint s) c) = s ↔ Verbatim s) ∧
      ∀ t, load directory (before ++ (f.environmentName, t) :: after) =
          load directory (before ++ (f.environmentName, s) :: after) ↔
        reprint t = reprint s := by
  refine ⟨load_replaced hload hother hindex s, f.authSettings_set _ _, ?_, fun t => ?_⟩
  · rw [f.get_set, reprint_eq_self_iff]
  · rw [load_replaced hload hother hindex t, load_replaced hload hother hindex s]
    refine ⟨fun h => ?_, fun h => by rw [h]⟩
    have hget := congrArg f.get (Except.ok.inj h)
    rwa [f.get_set, f.get_set] at hget

/-- The least environment with which a configuration is loaded. -/
theorem load_least :
    load ⟨[]⟩ ([("DATABASE__URL", "x")] ++ (TextSetting.accessSecret.environmentName, "old") ::
      [("JWT__REFRESH_SECRET", "r"), ("JWT__CURSOR_SECRET", "c")]) =
    .ok ⟨⟨"x", 5, 5⟩, ⟨8080, 30, true⟩, ⟨"account-service", "old", "r", "c", 15, 72⟩,
      ⟨65536, 3, 2⟩⟩ :=
  Except.toOption_eq_some.1 (by decide +kernel)

/-- Digits with zeros before them make the secret that is the number without the zeros. -/
theorem load_reprint_zeros : ∃ (before after : Environment) (c : Configuration),
    let f := TextSetting.accessSecret
    load ⟨[]⟩ (before ++ (f.environmentName, "old") :: after) = .ok c ∧
      (∀ e ∈ after, settingName e.1 ≠ f.place.key) ∧
      (∀ e ∈ before ++ after, ¬ f.place.Indexed (settingName e.1)) ∧
      load ⟨[]⟩ (before ++ (f.environmentName, "007") :: after) = .ok (f.set "7" c) ∧
      f.get (f.set "7" c) ≠ "007" ∧ ¬ Verbatim "007" ∧
      load ⟨[]⟩ (before ++ (f.environmentName, "7") :: after) =
        load ⟨[]⟩ (before ++ (f.environmentName, "007") :: after) := by
  have hother : ∀ e ∈ ([("JWT__REFRESH_SECRET", "r"), ("JWT__CURSOR_SECRET", "c")] : Environment),
      settingName e.1 ≠ TextSetting.accessSecret.place.key := by
    decide +kernel
  have hindex : ∀ e ∈ ([("DATABASE__URL", "x")] ++
        [("JWT__REFRESH_SECRET", "r"), ("JWT__CURSOR_SECRET", "c")] : Environment),
      ¬ TextSetting.accessSecret.place.Indexed (settingName e.1) := by
    decide +kernel
  have hprint : reprint "007" = "7" := by decide +kernel
  have hsecond : reprint "7" = "7" := by decide +kernel
  have hload := load_reprint .accessSecret load_least hother hindex "007"
  rw [hprint] at hload
  refine ⟨_, _, _, load_least, hother, hindex, hload.1, by decide, ?_, (hload.2.2.2 "7").2 hsecond⟩
  exact fun h => absurd (hload.2.2.1.2 h) (by decide)

/-- **A secret that is not kept:** digits with zeros before them. -/
theorem not_verbatim :
    ¬ ∀ (f : TextSetting) (directory : Directory) (before after : Environment) (old s : String)
      (c : Configuration),
      load directory (before ++ (f.environmentName, old) :: after) = .ok c →
      (∀ e ∈ before ++ after, settingName e.1 ≠ f.place.key ∧ ¬ f.place.Indexed (settingName e.1)) →
      '\x00' ∉ s.toList →
      ∃ loaded, load directory (before ++ (f.environmentName, s) :: after) = .ok loaded ∧
        f.get loaded = s := by
  intro h
  obtain ⟨loaded, hloaded, hkept⟩ :=
    h .accessSecret _ _ _ _ "007" _ load_least (by decide +kernel) (by decide)
  rw [load_replaced load_least (by decide +kernel) (by decide +kernel)] at hloaded
  have hprint : reprint "007" = "7" := by decide +kernel
  rw [← Except.ok.inj hloaded, TextSetting.get_set, hprint] at hkept
  exact absurd hkept (by decide)

end Texts

end Configuration

end Accounts

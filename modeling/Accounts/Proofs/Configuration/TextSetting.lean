import Accounts.Proofs.Configuration.Overlay
import Accounts.Proofs.Configuration.Reading

/-!
# Settings that are texts

Five settings are texts: the address of the database, the issuer of tokens and the three secrets.
Each has a place in the tree of settings and a field of the configuration. A scalar that is assigned
at the place of one changes that field and nothing else.

* `Configuration.ofSetting_assign` — a scalar that is assigned at a place, for any field of a
  section.
* `TextSetting.ofSetting_assign` — for the settings that are texts.
-/

namespace Accounts

open Record KeyedSetting

theorem KeyedSetting.given_members {α : Type} {key name : String} {entries : Named Setting}
    {read : KeyedSetting → Except SettingFault α} {a : α} :
    Given (members key entries) name read a ↔
      ∃ s, entries.lookup name = some s ∧ read ⟨childKey key name, s⟩ = .ok a := by
  simp only [Given, lookup_members, Option.map_eq_some_iff]
  constructor
  · rintro ⟨_, ⟨s, hs, rfl⟩, h⟩
    exact ⟨s, hs, h⟩
  · rintro ⟨s, hs, h⟩
    exact ⟨_, ⟨s, hs, rfl⟩, h⟩

namespace Configuration

variable {σ : Type} {read : KeyedSetting → Except SettingFault σ}
  {Stands : Named KeyedSetting → σ → Prop} {p : Place} {root : Setting} {c : Configuration} {s : σ}

/-- **A scalar at a place.** If a configuration can be read, the place of a text holds a scalar. If
another one is assigned, the section has another field and the configuration another section. -/
theorem ofSetting_assign (hreads : ReadsAs source read Stands) (hroot : ofSetting root = .ok c)
    (hlist : p.Unlisted root)
    (hsection : ∀ {ms}, Configuration.Stands source ms c → Given ms p.group read s)
    (hfield : ∀ {ms}, Stands ms s → ∃ t, Given ms p.name text t) :
    p.Holds root ∧ ∀ {a o s' c'},
      (∀ {ms key}, Stands ms s → Stands (ms.replace p.name ⟨key, .scalar a o⟩) s') →
      (∀ {ms entry}, Configuration.Stands source ms c → read entry = .ok s' →
        Configuration.Stands source (ms.replace p.group entry) c') →
      ofSetting (root.assign p.key (.scalar a o)) = .ok c' := by
  obtain ⟨entries, o, rfl⟩ := exists_table readsAs hroot hlist.root
  have hstands := readsAs.stands (shape_table "" entries o) hroot
  obtain ⟨group, hgroup, hread⟩ := given_members.1 (hsection hstands)
  have hsectionOf : p.sectionOf (.table entries o) = group := by
    rw [Place.sectionOf, Setting.get?, Setting.entries, hgroup]
    rfl
  obtain ⟨fields, r, rfl⟩ :=
    exists_table hreads hread fun elements r => hsectionOf ▸ hlist.group elements r
  have hfields := hreads.stands (shape_table _ fields r) hread
  constructor
  · obtain ⟨t, hgiven⟩ := hfield hfields
    obtain ⟨leaf, hleaf, htext⟩ := given_members.1 hgiven
    obtain ⟨a, q, rfl⟩ := exists_scalar_of_text htext
    refine ⟨a, q, ?_⟩
    rw [hsectionOf]
    exact hleaf
  · intro a q s' c' hnewSection hnewRoot
    have hassign : Setting.assign (.table entries o) p.key (.scalar a q) =
        (Setting.table entries o).set p.group
          ((Setting.table fields r).set p.name (.scalar a q)) := by
      rw [Place.assign_key, Setting.modify, ← Place.sectionOf, hsectionOf]
      rfl
    rw [hassign]
    have hnew := hreads.replace (shape_table _ fields r)
      (shape_set _ p.name fields r (.scalar a q)) hread (hnewSection hfields)
    exact readsAs.replace (shape_table "" entries o) (shape_set "" p.group entries o _) hroot
      (hnewRoot hstands hnew)

end Configuration

/-- The settings that are texts. -/
inductive TextSetting where
  | url
  | issuer
  | accessSecret
  | refreshSecret
  | cursorSecret
deriving DecidableEq, Repr

namespace TextSetting

/-- The variable of the environment for the setting. -/
def environmentName : TextSetting → String
  | url => "DATABASE__URL"
  | issuer => "JWT__ISSUER"
  | accessSecret => "JWT__ACCESS_SECRET"
  | refreshSecret => "JWT__REFRESH_SECRET"
  | cursorSecret => "JWT__CURSOR_SECRET"

def place : TextSetting → Place
  | url => ⟨"database", "url", rfl, rfl⟩
  | issuer => ⟨"jwt", "issuer", rfl, rfl⟩
  | accessSecret => ⟨"jwt", "access_secret", rfl, rfl⟩
  | refreshSecret => ⟨"jwt", "refresh_secret", rfl, rfl⟩
  | cursorSecret => ⟨"jwt", "cursor_secret", rfl, rfl⟩

def get : TextSetting → Configuration → String
  | url, c => c.database.url
  | issuer, c => c.token.issuer
  | accessSecret, c => c.token.accessSecret
  | refreshSecret, c => c.token.refreshSecret
  | cursorSecret, c => c.token.cursorSecret

/-- The configuration with another text in the field. -/
def set (t : String) : TextSetting → Configuration → Configuration
  | url, c => { c with database := { c.database with url := t } }
  | issuer, c => { c with token := { c.token with issuer := t } }
  | accessSecret, c => { c with token := { c.token with accessSecret := t } }
  | refreshSecret, c => { c with token := { c.token with refreshSecret := t } }
  | cursorSecret, c => { c with token := { c.token with cursorSecret := t } }

/-- The settings of the authenticator with another text. They do not have the database's address. -/
def setAuth (t : String) : TextSetting → AuthSettings → AuthSettings
  | url, a => a
  | issuer, a => { a with issuer := t }
  | accessSecret, a => { a with accessSecret := t }
  | refreshSecret, a => { a with refreshSecret := t }
  | cursorSecret, a => { a with cursorSecret := t }

theorem get_set (f : TextSetting) (t : String) (c : Configuration) : f.get (f.set t c) = t := by
  cases f <;> rfl

theorem settingName_environmentName (f : TextSetting) :
    Environment.settingName f.environmentName = f.place.key := by
  cases f <;> rfl

theorem authSettings_set (f : TextSetting) (t : String) (c : Configuration) :
    (f.set t c).authSettings = c.authSettings.map (f.setAuth t) := by
  have hminutes : (f.set t c).token.accessMinutes = c.token.accessMinutes := by cases f <;> rfl
  have hhours : (f.set t c).token.refreshHours = c.token.refreshHours := by cases f <;> rfl
  rw [Configuration.authSettings, Configuration.authSettings, hminutes, hhours]
  cases Time.Span.ofMinutes? c.token.accessMinutes with
  | error e => rfl
  | ok access =>
    cases Time.Span.ofHours? c.token.refreshHours with
    | error e => rfl
    | ok refresh => cases f <;> rfl

section Sections

variable {f : TextSetting} {members : Named KeyedSetting} {entry : KeyedSetting}
  {c : Configuration} {t : String}

theorem given_database (h : DatabaseSettings.Stands source members c.database) :
    Given members url.place.name text (url.get c) :=
  h.url

theorem given_token (hf : f ≠ url) (h : TokenSettings.Stands source members c.token) :
    Given members f.place.name text (f.get c) := by
  cases f with
  | url => exact absurd rfl hf
  | issuer => exact h.issuer
  | accessSecret => exact h.accessSecret
  | refreshSecret => exact h.refreshSecret
  | cursorSecret => exact h.cursorSecret

theorem stands_database (h : DatabaseSettings.Stands source members c.database)
    (ht : source.text entry = .ok t) :
    DatabaseSettings.Stands source (members.replace url.place.name entry)
      (url.set t c).database where
  url := given_replace_self.2 ht
  maxConnections := (given_replace_of_ne (by decide)).2 h.maxConnections
  acquireTimeout := (given_replace_of_ne (by decide)).2 h.acquireTimeout

theorem stands_token (hf : f ≠ url) (h : TokenSettings.Stands source members c.token)
    (ht : source.text entry = .ok t) :
    TokenSettings.Stands source (members.replace f.place.name entry) (f.set t c).token := by
  cases f with
  | url => exact absurd rfl hf
  | _ =>
    constructor <;>
      simp [place, set, given_replace_of_ne, given_replace_self, ht, h.issuer, h.accessSecret,
        h.refreshSecret, h.cursorSecret, h.accessMinutes, h.refreshHours]

theorem stands_of_database (h : Configuration.Stands source members c)
    (hread : DatabaseSettings.read source entry = .ok (url.set t c).database) :
    Configuration.Stands source (members.replace "database" entry) (url.set t c) where
  database := given_replace_self.2 hread
  server := (given_replace_of_ne (by decide)).2 h.server
  token := (given_replace_of_ne (by decide)).2 h.token
  password := (given_replace_of_ne (by decide)).2 h.password

theorem stands_of_token (hf : f ≠ url) (h : Configuration.Stands source members c)
    (hread : TokenSettings.read source entry = .ok (f.set t c).token) :
    Configuration.Stands source (members.replace "jwt" entry) (f.set t c) := by
  have hdatabase : (f.set t c).database = c.database := by
    cases f with
    | url => exact absurd rfl hf
    | _ => rfl
  have hserver : (f.set t c).server = c.server := by cases f <;> rfl
  have hpassword : (f.set t c).password = c.password := by cases f <;> rfl
  constructor
  · rw [hdatabase]
    exact (given_replace_of_ne (by decide)).2 h.database
  · rw [hserver]
    exact (given_replace_of_ne (by decide)).2 h.server
  · exact given_replace_self.2 hread
  · rw [hpassword]
    exact (given_replace_of_ne (by decide)).2 h.password

end Sections

/-- **A scalar in place of a text** changes the field of that text and nothing else. -/
theorem ofSetting_assign (f : TextSetting) {root : Setting} {c : Configuration}
    (hroot : Configuration.ofSetting root = .ok c) (hlist : f.place.Unlisted root) :
    f.place.Holds root ∧ ∀ {a : Scalar} {o : Option String} {t : String},
      (∀ key, text ⟨key, .scalar a o⟩ = .ok t) →
      Configuration.ofSetting (root.assign f.place.key (.scalar a o)) = .ok (f.set t c) := by
  by_cases hf : f = url
  · subst hf
    obtain ⟨hholds, hassign⟩ := Configuration.ofSetting_assign DatabaseSettings.readsAs hroot hlist
      (·.database) fun h => ⟨_, given_database h⟩
    exact ⟨hholds, fun ht => hassign (fun h => stands_database h (ht _)) stands_of_database⟩
  · have hgroup : f.place.group = "jwt" := by
      cases f with
      | url => exact absurd rfl hf
      | _ => rfl
    obtain ⟨hholds, hassign⟩ := Configuration.ofSetting_assign TokenSettings.readsAs hroot hlist
      (hgroup ▸ ·.token) fun h => ⟨_, given_token hf h⟩
    refine ⟨hholds, fun ht => hassign (fun h => stands_token hf h (ht _)) ?_⟩
    rw [hgroup]
    exact stands_of_token hf

end TextSetting

end Accounts

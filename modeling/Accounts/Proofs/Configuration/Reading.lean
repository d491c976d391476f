import Accounts.Configuration.Reading
import Accounts.Proofs.Except

/-!
# Reading a record with one entry replaced

A record is read field by field, so a record in which one entry is replaced differs in the field of
that name only. A record that can be read stays readable if the new entry can be read as the field.

* `Record.ReadsAs` — what is read is what the members say, also after one entry is replaced.
* `Record.Spells` — a reader that goes by a form; what it reads when no name comes twice.
* `DatabaseSettings.readsAs`, `TokenSettings.readsAs`, `Configuration.readsAs` — the records of a
  configuration.
-/

namespace Accounts

namespace Record

variable {V ε α β : Type}

/-- Whether the members of a record give a field a value. -/
def Given (members : Named V) (name : String) (read : V → Except ε β) (b : β) : Prop :=
  ∃ v, members.lookup name = some v ∧ read v = .ok b

section Given

variable {members : Named V} {name other : String} {read : V → Except ε β} {b : β} {v : V}

theorem given_replace_self : Given (members.replace name v) name read b ↔ read v = .ok b := by
  simp [Given, Named.lookup_replace]

theorem given_replace_of_ne (h : other ≠ name) :
    Given (members.replace name v) other read b ↔ Given members other read b := by
  simp [Given, Named.lookup_replace, h]

end Given

namespace Form

theorem build_start {a b : α} {get : String → Option V} {missing : String → ε} :
    (start a : Form V ε α).build get missing = .ok b ↔ b = a :=
  ⟨fun h => (Except.ok.inj h).symm, fun h => h ▸ rfl⟩

theorem build_field {form : Form V ε (β → α)} {name : String} {read : V → Except ε β}
    {members : Named V} {missing : String → ε} {a : α} :
    (form.field name read).build (fun name => members.lookup name) missing = .ok a ↔
      ∃ make b, form.build (fun name => members.lookup name) missing = .ok make ∧
        Given members name read b ∧ a = make b := by
  rw [Form.field, Except.bind_eq_ok]
  constructor
  · rintro ⟨make, hform, h⟩
    split at h
    · next v hv =>
      obtain ⟨b, hread, rfl⟩ := Except.map_eq_ok.1 h
      exact ⟨make, b, hform, ⟨v, hv, hread⟩, rfl⟩
    · cases h
  · rintro ⟨make, b, hform, ⟨v, hv, hread⟩, rfl⟩
    refine ⟨make, hform, ?_⟩
    simp only [hv]
    exact Except.map_eq_ok.2 ⟨b, hread, rfl⟩

/-- Whether an entry from which a field has been read passes the check that goes before. -/
def Checked (form : Form V ε α) : Prop :=
  ∀ (members : Named V) missing a name v,
    form.build (fun name => members.lookup name) missing = .ok a →
      members.lookup name = some v → form.check name v = .ok ()

theorem checked_start (a : α) : (start a : Form V ε α).Checked := fun _ _ _ _ _ _ _ => rfl

theorem Checked.field {form : Form V ε (β → α)} (h : form.Checked) (name : String)
    (read : V → Except ε β) : (form.field name read).Checked := by
  intro members missing a other v hbuild hv
  obtain ⟨make, b, hform, ⟨w, hw, hread⟩, -⟩ := build_field.1 hbuild
  by_cases hother : other = name
  · subst hother
    cases hw.symm.trans hv
    simp [Form.field, hread, Except.map]
  · simpa [Form.field, hother] using h members missing make other v hform hv

variable {source : Source V ε} {form : Form V ε α} {wanted : String} {v w : V}
  {members : Named V}

theorem forM_eq_ok {f : String × V → Except ε Unit} :
    members.forM f = .ok () ↔ ∀ e ∈ members, f e = .ok () := by
  induction members with
  | nil => simp [pure, Except.pure]
  | cons e members ih =>
    rw [List.forM, Except.bind_eq_ok, List.forall_mem_cons, ← ih]
    exact ⟨fun ⟨_, he, h⟩ => ⟨he, h⟩, fun ⟨he, h⟩ => ⟨(), he, h⟩⟩

theorem read_fields (hv : source.shape v = .fields members) (a : α) :
    form.read source wanted v = .ok a ↔
      (∀ e ∈ members, form.check e.1 e.2 = .ok ()) ∧
        form.build (fun name => members.lookup name)
          (fun name => source.malformed (.missingField name)) = .ok a := by
  rw [read, hv, ← forM_eq_ok]
  exact Except.bind_eq_ok.trans
    ⟨fun ⟨_, hcheck, h⟩ => ⟨hcheck, h⟩, fun ⟨hcheck, h⟩ => ⟨(), hcheck, h⟩⟩

end Form

/-- Whether a reader of records goes by what their members say, `Stands`. -/
structure ReadsAs (source : Source V ε) (read : V → Except ε α) (Stands : Named V → α → Prop) :
    Prop where
  /-- Only a record can be read, or a list in its place. -/
  shape_ne : ∀ {v a}, read v = .ok a → ∀ found, source.shape v ≠ .other found
  /-- What is read is what the members say. -/
  stands : ∀ {v a} {members : Named V}, source.shape v = .fields members → read v = .ok a →
    Stands members a
  /-- A record that can be read can be read with one entry replaced. -/
  replace : ∀ {v w name entry a b} {members : Named V}, source.shape v = .fields members →
    source.shape w = .fields (members.replace name entry) → read v = .ok a →
    Stands (members.replace name entry) b → read w = .ok b

/-- **One entry replaced.** If the new entry can be read as the field of its name, it passes the
check too. -/
theorem Form.readsAs {source : Source V ε} {form : Form V ε α} {wanted : String}
    {Stands : Named V → α → Prop} (hchecked : form.Checked)
    (hbuild : ∀ members missing a,
      form.build (fun name => members.lookup name) missing = .ok a ↔ Stands members a) :
    ReadsAs source (form.read source wanted) Stands where
  shape_ne hread found hother := by
    rw [Form.read, hother] at hread
    cases hread
  stands hv hread := (hbuild _ _ _).1 ((read_fields hv _).1 hread).2
  replace {v w name entry a b members} hv hw hread hstands := by
    have hnew := (hbuild _ (fun name => source.malformed (.missingField name)) b).2 hstands
    refine (read_fields hw b).2 ⟨fun e he => ?_, hnew⟩
    obtain rfl | he := Named.eq_or_mem_of_mem_replace he
    · exact hchecked _ _ _ _ _ hnew (by simp [Named.lookup_replace])
    · exact ((read_fields hv a).1 hread).1 e he

/-- Whether a reader of records goes by a form, whose members say `Stands`. -/
def Spells (source : Source V ε) (read : V → Except ε α) (Stands : Named V → α → Prop) : Prop :=
  ∃ (form : Form V ε α) (wanted : String), form.Checked ∧ read = form.read source wanted ∧
    ∀ members missing a,
      form.build (fun name => members.lookup name) missing = .ok a ↔ Stands members a

namespace Spells

variable {source : Source V ε} {read : V → Except ε α} {Stands : Named V → α → Prop}

theorem readsAs (h : Spells source read Stands) : ReadsAs source read Stands := by
  obtain ⟨form, wanted, hchecked, rfl, hbuild⟩ := h
  exact Form.readsAs hchecked hbuild

end Spells

end Record

/-! ## The sections -/

section Sections

variable {V ε : Type} {source : Record.Source V ε} {v w entry : V} {members : Named V}
  {name : String}

open Record Record.Form

/-- What the members of a record say about the database. -/
structure DatabaseSettings.Stands (source : Source V ε) (members : Named V)
    (s : DatabaseSettings) : Prop where
  url : Given members "url" source.text s.url
  maxConnections : Given members "max_connections" (source.natural 32) s.maxConnections
  acquireTimeout : Given members "acquire_timeout_secs" (source.natural 64) s.acquireTimeout

structure TokenSettings.Stands (source : Source V ε) (members : Named V) (s : TokenSettings) :
    Prop where
  issuer : Given members "issuer" source.text s.issuer
  accessSecret : Given members "access_secret" source.text s.accessSecret
  refreshSecret : Given members "refresh_secret" source.text s.refreshSecret
  cursorSecret : Given members "cursor_secret" source.text s.cursorSecret
  accessMinutes : Given members "access_ttl_minutes" source.integer s.accessMinutes
  refreshHours : Given members "refresh_ttl_hours" source.integer s.refreshHours

structure Configuration.Stands (source : Source V ε) (members : Named V) (c : Configuration) :
    Prop where
  database : Given members "database" (DatabaseSettings.read source) c.database
  server : Given members "server" (ServerSettings.read source) c.server
  token : Given members "jwt" (TokenSettings.read source) c.token
  password : Given members "password" (PasswordSettings.read source) c.password

structure ServerSettings.Stands (source : Source V ε) (members : Named V) (s : ServerSettings) :
    Prop where
  httpPort : Given members "http_port" (source.natural 16) s.httpPort
  requestTimeout : Given members "request_timeout_secs" (source.natural 64) s.requestTimeout
  secureCookies : Given members "secure_cookies" source.bool s.secureCookies

structure PasswordSettings.Stands (source : Source V ε) (members : Named V)
    (s : PasswordSettings) : Prop where
  memory : Given members "memory_kib" (source.natural 32) s.memory
  iterations : Given members "iterations" (source.natural 32) s.iterations
  parallelism : Given members "parallelism" (source.natural 32) s.parallelism

theorem DatabaseSettings.spells : Spells source (read source) (Stands source) := by
  refine ⟨_, _, (((checked_start _).field _ _).field _ _).field _ _, rfl,
    fun members missing s => ?_⟩
  simp only [build_field, build_start]
  constructor
  · rintro ⟨_, acquire, ⟨_, most, ⟨_, url, rfl, hurl, rfl⟩, hmost, rfl⟩, hacquire, rfl⟩
    exact ⟨hurl, hmost, hacquire⟩
  · intro h
    exact ⟨_, _, ⟨_, _, ⟨_, _, rfl, h.url, rfl⟩, h.maxConnections, rfl⟩, h.acquireTimeout, rfl⟩

theorem ServerSettings.spells : Spells source (read source) (Stands source) := by
  refine ⟨_, _, (((checked_start _).field _ _).field _ _).field _ _, rfl,
    fun members missing s => ?_⟩
  simp only [build_field, build_start]
  constructor
  · rintro ⟨_, cookies, ⟨_, request, ⟨_, port, rfl, hport, rfl⟩, hrequest, rfl⟩, hcookies, rfl⟩
    exact ⟨hport, hrequest, hcookies⟩
  · intro h
    exact ⟨_, _, ⟨_, _, ⟨_, _, rfl, h.httpPort, rfl⟩, h.requestTimeout, rfl⟩, h.secureCookies, rfl⟩

theorem PasswordSettings.spells : Spells source (read source) (Stands source) := by
  refine ⟨_, _, (((checked_start _).field _ _).field _ _).field _ _, rfl,
    fun members missing s => ?_⟩
  simp only [build_field, build_start]
  constructor
  · rintro ⟨_, lanes, ⟨_, passes, ⟨_, memory, rfl, hmemory, rfl⟩, hpasses, rfl⟩, hlanes, rfl⟩
    exact ⟨hmemory, hpasses, hlanes⟩
  · intro h
    exact ⟨_, _, ⟨_, _, ⟨_, _, rfl, h.memory, rfl⟩, h.iterations, rfl⟩, h.parallelism, rfl⟩

theorem TokenSettings.spells : Spells source (read source) (Stands source) := by
  refine ⟨_, _, ((((((checked_start _).field _ _).field _ _).field _ _).field _ _).field _ _)
    |>.field _ _, rfl, fun members missing s => ?_⟩
  simp only [build_field, build_start]
  constructor
  · rintro ⟨_, hours, ⟨_, minutes, ⟨_, cursor, ⟨_, refresh, ⟨_, access,
      ⟨_, issuer, rfl, hissuer, rfl⟩, haccess, rfl⟩, hrefresh, rfl⟩, hcursor, rfl⟩, hminutes, rfl⟩,
      hhours, rfl⟩
    exact ⟨hissuer, haccess, hrefresh, hcursor, hminutes, hhours⟩
  · intro h
    exact ⟨_, _, ⟨_, _, ⟨_, _, ⟨_, _, ⟨_, _, ⟨_, _, rfl, h.issuer, rfl⟩, h.accessSecret, rfl⟩,
      h.refreshSecret, rfl⟩, h.cursorSecret, rfl⟩, h.accessMinutes, rfl⟩, h.refreshHours, rfl⟩

theorem Configuration.spells : Spells source (read source) (Stands source) := by
  refine ⟨_, _, ((((checked_start _).field _ _).field _ _).field _ _).field _ _, rfl,
    fun members missing c => ?_⟩
  simp only [build_field, build_start]
  constructor
  · rintro ⟨_, password, ⟨_, token, ⟨_, server, ⟨_, database, rfl, hdatabase, rfl⟩, hserver, rfl⟩,
      htoken, rfl⟩, hpassword, rfl⟩
    exact ⟨hdatabase, hserver, htoken, hpassword⟩
  · intro h
    exact ⟨_, _, ⟨_, _, ⟨_, _, ⟨_, _, rfl, h.database, rfl⟩, h.server, rfl⟩, h.token, rfl⟩,
      h.password, rfl⟩

theorem DatabaseSettings.readsAs : ReadsAs source (read source) (Stands source) := spells.readsAs

theorem TokenSettings.readsAs : ReadsAs source (read source) (Stands source) := spells.readsAs

theorem Configuration.readsAs : ReadsAs source (read source) (Stands source) := spells.readsAs

end Sections

/-! ## Trees of settings -/

namespace KeyedSetting

/-- The members of a table. -/
def members (key : String) (entries : Named Setting) : Named KeyedSetting :=
  entries.map fun e => (e.1, ⟨childKey key e.1, e.2⟩)

theorem shape_table (key : String) (entries : Named Setting) (o : Option String) :
    source.shape ⟨key, .table entries o⟩ = .fields (members key entries) := rfl

theorem shape_set (key name : String) (entries : Named Setting) (o : Option String) (v : Setting) :
    source.shape ⟨key, (Setting.table entries o).set name v⟩ =
      .fields ((members key entries).replace name ⟨childKey key name, v⟩) :=
  congrArg Record.Shape.fields
    (Named.map_replace (fun name v => KeyedSetting.mk (childKey key name) v) name v entries)

theorem lookup_members (key name : String) (entries : Named Setting) :
    (members key entries).lookup name = (entries.lookup name).map (⟨childKey key name, ·⟩) := by
  induction entries with
  | nil => rfl
  | cons e entries ih =>
    obtain ⟨k, v⟩ := e
    rw [members, List.map_cons, Named.lookup_cons, Named.lookup_cons]
    split
    · next h => rw [h]; rfl
    · exact ih

theorem exists_scalar_of_text {v : KeyedSetting} {t : String} (h : text v = .ok t) :
    ∃ a o, v.setting = .scalar a o := by
  rw [text, convert] at h
  split at h
  · next a o hv => exact ⟨a, o, hv⟩
  · cases h
  · cases h

theorem exists_table {α : Type} {read : KeyedSetting → Except SettingFault α}
    {Stands : Named KeyedSetting → α → Prop} (hreads : Record.ReadsAs source read Stands)
    {v : KeyedSetting} {a : α} (h : read v = .ok a)
    (hlist : ∀ elements o, v.setting ≠ .list elements o) :
    ∃ entries o, v.setting = .table entries o := by
  obtain ⟨key, setting⟩ := v
  cases setting with
  | scalar a o => exact absurd rfl (hreads.shape_ne h _)
  | list elements o => exact absurd rfl (hlist elements o)
  | table entries o => exact ⟨entries, o, rfl⟩

end KeyedSetting

end Accounts

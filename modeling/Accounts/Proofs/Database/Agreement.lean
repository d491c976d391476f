import Accounts.Proofs.Database.Tables
import Accounts.Proofs.Store.Operations
import Mathlib.Data.List.Forall2

/-!
# A database and the store in memory

The same operations on tables that were empty and on a store that was empty, one operation after the
other. A statement is carried out as its text says. None fails because a connection is lost, or
because a text does not fit into its column.

**Theorem (`same_over_operations`).** Both give back the same, times aside. Every name that is read
back is accepted, and the profile in memory is the one that was inserted last.

The relation between the two states is `Matches`: row by row the accounts are the same, times aside,
and the numbers that were given last are the same.
-/

namespace Accounts

/-- An account without its times. -/
def Account.undated (a : Account) : Account := { a with createdAt := ⟨0⟩, updatedAt := ⟨0⟩ }

namespace Database

/-! ## A database with one connection -/

/-- The row of an account that has been made inactive. -/
def AccountRow.deactivated (row : AccountRow) (now : Time.Instant) : AccountRow :=
  { row with isActive := false, updatedAt := now }

/-- A database and its one connection. -/
structure Session where
  /-- The number that was given last. A transaction that is rolled back does not give its number
  back. -/
  lastId : Nat
  tables : Tables
  /-- The tables as the open transaction has left them. -/
  working : Option Tables

namespace Session

def empty : Session := ⟨0, .empty, none⟩

/-- The tables that a statement sees. -/
def seen (d : Session) : Tables := d.working.getD d.tables

/-- Leaves tables to the next statement: in the transaction, if one is open. -/
def leave (d : Session) (t : Tables) : Session :=
  match d.working with
  | some _ => { d with working := some t }
  | none => { d with tables := t }

/-- What a statement gives back at a time, and what it leaves. -/
def answer (now : Time.Instant) (statement : Statement) (d : Session) : Reply × Session :=
  match statement with
  | .begin => (.ok [], { d with working := some d.tables })
  | .commit => (.ok [], { d with tables := d.seen, working := none })
  | .rollback => (.ok [], { d with working := none })
  | .selectByName name => (.ok ((d.seen.named name).filter (·.isUsable)), d)
  | .selectById id => (.ok ((d.seen.numbered id).filter (·.isUsable)), d)
  | .lockByName name => (.ok (d.seen.named name), d)
  | .restore id passwordHash =>
    let t := d.seen.update id (·.restored passwordHash now)
    (.ok (t.numbered id), d.leave t)
  | .insertAccount name passwordHash =>
    let row := AccountRow.inserted ⟨d.lastId + 1⟩ name passwordHash now
    let d := { d with lastId := d.lastId + 1 }
    if (d.seen.named name).isEmpty then
      (.ok [row], d.leave { d.seen with accounts := d.seen.accounts ++ [row] })
    else (.error (.refused "23505" "duplicate key value violates unique constraint"), d)
  | .insertProfile id profile =>
    if (d.seen.numbered id).isEmpty then
      (.error (.refused "23503" "insert violates foreign key constraint"), d)
    else (.ok [], d.leave { d.seen with infos := d.seen.infos ++ [.ofProfile id profile] })

/-- Makes an account inactive; says whether there is such an account. -/
def deactivate (now : Time.Instant) (id : AccountId) (d : Session) : Bool × Session :=
  (!(d.tables.numbered id).isEmpty,
    { d with tables := d.tables.update id (·.deactivated now) })

end Session

/-- What is told of an operation, times aside. -/
inductive Told where
  | registered (result : Except StoreFault Account)
  | deactivated (isFound : Bool)
  | found (result : Except StoreFault (Option Account))

/-- What the store in memory tells of an operation. -/
def Told.ofOutcome : Store.Outcome → Told
  | .registered result => registered (result.map Account.undated)
  | .deactivated isFound => deactivated isFound
  | .found account => found (.ok (account.map Account.undated))

/-- Carries out an operation at a time. -/
def Session.perform (now : Time.Instant) (d : Session) : Store.Operation → Told × Session
  | .register _ new =>
    let (result, d) := (register new).runWith (answer now) d
    (.registered (result.map Account.undated), d)
  | .deactivate _ id =>
    let (isFound, d) := d.deactivate now id
    (.deactivated isFound, d)
  | .findByName name =>
    let (result, d) := (findByName name).runWith (answer now) d
    (.found (result.map (·.map Account.undated)), d)
  | .findById id =>
    let (result, d) := (findById id).runWith (answer now) d
    (.found (result.map (·.map Account.undated)), d)

/-- Carries out operations in turn, each at its own time. -/
def Session.performAll (d : Session) : List (Store.Operation × Time.Instant) → List Told × Session
  | [] => ([], d)
  | (op, now) :: ops =>
    ((d.perform now op).1 :: ((d.perform now op).2.performAll ops).1,
      ((d.perform now op).2.performAll ops).2)

/-! ## Rows and entries -/

/-- A row that holds an entry of the store, times aside. -/
structure AccountRow.Holds (row : AccountRow) (e : AccountId × Account) : Prop where
  key : row.id = e.1
  id : row.id = e.2.id
  userName : row.userName = e.2.userName.text
  password : row.password = e.2.passwordHash
  isActive : row.isActive = e.2.isActive
  isDeleted : row.isDeleted = e.2.isDeleted

namespace AccountRow.Holds

variable {row : AccountRow} {e : AccountId × Account}

theorem isUsable (h : row.Holds e) : row.isUsable = e.2.isUsable := by
  rw [AccountRow.isUsable, Account.isUsable, h.isActive, h.isDeleted]

/-- **Read back**, a row gives the account that it holds. -/
theorem toAccount (h : row.Holds e) : row.toAccount.map Account.undated = .ok e.2.undated := by
  simp only [AccountRow.toAccount, h.userName, UserName.ofText_text, Except.map, Account.undated,
    h.id, h.password, h.isActive, h.isDeleted]

theorem restored (h : row.Holds e) (passwordHash : String) (now now' : Time.Instant) :
    (row.restored passwordHash now).Holds (e.1, Store.reactivated e.2 passwordHash now') :=
  ⟨h.key, h.id, h.userName, rfl, rfl, rfl⟩

theorem deactivated (h : row.Holds e) (now now' : Time.Instant) :
    (row.deactivated now).Holds (e.1, Store.deactivated e.2 now') :=
  ⟨h.key, h.id, h.userName, h.password, rfl, h.isDeleted⟩

end AccountRow.Holds

/-- A database that matches a store in memory. -/
structure Matches (s : Store) (d : Session) : Prop where
  idle : d.working = none
  lastId : d.lastId = s.lastId
  accounts : List.Forall₂ AccountRow.Holds d.tables.accounts s.accounts
  infos : ∀ id, d.tables.latest? id = (s.profile? id).map (InfoRow.ofProfile id)
  profiles_nodup : (s.profiles.map (·.1)).Nodup

variable {s : Store} {d : Session} {name : UserName} {id : AccountId}

/-! ## Looking up -/

/-- At most one entry has a key that no two entries share. -/
theorem filter_eq_toList_find? {α β : Type} [DecidableEq β] (key : α → β) {l : List α}
    (h : (l.map key).Nodup) (k : β) :
    l.filter (key · == k) = (l.find? (key · == k)).toList := by
  induction l with
  | nil => rfl
  | cons a l ih =>
    rw [List.map_cons, List.nodup_cons] at h
    by_cases hk : key a = k
    · have hnone : l.filter (key · == k) = [] := by
        rw [List.filter_eq_nil_iff]
        intro b hb hbk
        exact h.1 ((hk.trans (beq_iff_eq.1 hbk).symm) ▸ List.mem_map_of_mem hb)
      simp [hk, hnone]
    · simp [hk, ih h.2]

theorem filter_named (hk : s.WellKept) (name : UserName) :
    s.accounts.filter (·.2.userName == name) = (s.named? name).toList :=
  filter_eq_toList_find? (fun e : AccountId × Account => e.2.userName) hk.names_nodup name

theorem filter_numbered (hk : s.WellKept) (id : AccountId) :
    s.accounts.filter (·.1 == id) = ((s.account? id).map (id, ·)).toList := by
  rw [filter_eq_toList_find? Prod.fst hk.keys_nodup id, Store.account?]
  congr 1
  induction s.accounts with
  | nil => rfl
  | cons e es ih =>
    obtain ⟨key, a⟩ := e
    by_cases hkey : key = id
    · subst hkey
      simp
    · have hne : (id == key) = false := beq_false_of_ne (Ne.symm hkey)
      simpa [hkey, List.lookup_cons, hne] using ih

namespace Matches

theorem named (h : Matches s d) (hk : s.WellKept) (name : UserName) :
    List.Forall₂ AccountRow.Holds (d.tables.named name) (s.named? name).toList := by
  rw [← filter_named hk]
  refine List.rel_filter ?_ h.accounts
  intro row e hrow
  simp [hrow.userName, UserName.text_inj]

theorem numbered (h : Matches s d) (hk : s.WellKept) (id : AccountId) :
    List.Forall₂ AccountRow.Holds (d.tables.numbered id) ((s.account? id).map (id, ·)).toList := by
  rw [← filter_numbered hk]
  refine List.rel_filter ?_ h.accounts
  intro row e hrow
  simp [hrow.key]

theorem holds_of_mem_numbered {row : AccountRow} {a : Account} (h : Matches s d) (hk : s.WellKept)
    (hrow : row ∈ d.tables.numbered id) (ha : s.account? id = some a) : row.Holds (id, a) := by
  have hrows := h.numbered hk id
  rw [ha] at hrows
  obtain ⟨other, -, hother, ⟨⟩, hnumbered⟩ := List.forall₂_cons_right_iff.1 hrows
  rw [hnumbered, List.mem_singleton] at hrow
  exact hrow ▸ hother

end Matches

/-- Rows that hold at most one entry give its account, if that is usable. -/
theorem firstAccount_filter {rows : List AccountRow} {e : Option (AccountId × Account)}
    (h : List.Forall₂ AccountRow.Holds rows e.toList) :
    (firstAccount (rows.filter (·.isUsable))).map (·.map Account.undated) =
      .ok (((e.map (·.2)).filter (·.isUsable)).map Account.undated) := by
  cases e with
  | none =>
    cases h
    rfl
  | some e =>
    obtain ⟨row, -, hrow, ⟨⟩, rfl⟩ := List.forall₂_cons_right_iff.1 h
    cases husable : e.2.isUsable with
    | false => simp [hrow.isUsable, husable, firstAccount, Except.map, Option.filter]
    | true =>
      have haccount := hrow.toAccount
      obtain ⟨account, haccount, heq⟩ := Except.map_eq_ok.1 haccount
      simp [hrow.isUsable, husable, firstAccount, haccount, Except.map, heq, Option.filter]

theorem Session.seen_of_idle (h : d.working = none) : d.seen = d.tables := by
  rw [Session.seen, h]
  rfl

theorem Matches.findByName (h : Matches s d) (hk : s.WellKept) (now : Time.Instant)
    (name : UserName) :
    d.perform now (.findByName name) = (.ofOutcome (.found (s.findByName name)), d) := by
  show (Told.found ((firstAccount ((d.seen.named name).filter _)).map _), d) = _
  rw [Session.seen_of_idle h.idle, firstAccount_filter (h.named hk name), Store.findByName_eq hk]
  rfl

theorem Matches.findById (h : Matches s d) (hk : s.WellKept) (now : Time.Instant)
    (id : AccountId) :
    d.perform now (.findById id) = (.ofOutcome (.found (s.findById id)), d) := by
  show (Told.found ((firstAccount ((d.seen.numbered id).filter _)).map _), d) = _
  rw [Session.seen_of_idle h.idle, firstAccount_filter (h.numbered hk id), Option.map_map,
    Function.comp_def, Option.map_id_fun']
  rfl

/-! ## Changing rows -/

/-- A change of the rows with a number, against the same change of the entry under it. -/
theorem forall₂_update {rows : List AccountRow} {es : List (AccountId × Account)}
    {f : AccountRow → AccountRow} {g : Account → Account}
    (h : List.Forall₂ AccountRow.Holds rows es) (id : AccountId)
    (hfg : ∀ row e, row.Holds e → e ∈ es → e.1 = id → (f row).Holds (e.1, g e.2)) :
    List.Forall₂ AccountRow.Holds (rows.map fun row => if row.id = id then f row else row)
      (es.map (Store.changed id g)) := by
  induction h with
  | nil => exact .nil
  | @cons row e rows es hrow _ ih =>
    refine .cons ?_ (ih fun row e hrow he => hfg row e hrow (List.mem_cons_of_mem _ he))
    by_cases hid : e.1 = id
    · simp only [Store.changed, hrow.key, hid, if_true]
      exact hid ▸ hfg row e hrow List.mem_cons_self hid
    · simp only [Store.changed, hrow.key, hid, if_false]
      exact hrow

theorem Matches.deactivate (h : Matches s d) (hk : s.WellKept) (now now' : Time.Instant)
    (id : AccountId) :
    (d.deactivate now id).1 = (s.deactivate now' id).1 ∧
      Matches (s.deactivate now' id).2 (d.deactivate now id).2 := by
  rw [Store.deactivate_eq]
  constructor
  · show (!(d.tables.numbered id).isEmpty) = _
    have hrows := (h.numbered hk id).length_eq
    cases hfound : s.account? id with
    | none => simp_all
    | some a => simp_all [← List.length_eq_zero_iff]
  · refine ⟨h.idle, h.lastId, ?_, h.infos, h.profiles_nodup⟩
    refine forall₂_update h.accounts id fun row e hrow _ _ => hrow.deactivated now now'

/-! ## Registering -/

/-- The tables with the profile of an account, if it has any detail. -/
def Tables.withProfile (t : Tables) (id : AccountId) (profile : Profile) : Tables :=
  if profile.isEmpty then t else { t with infos := t.infos ++ [.ofProfile id profile] }

theorem run_keepProfile {new : NewAccount} {row : AccountRow} {t : Tables} (now : Time.Instant)
    (ht : d.working = some t) (hrow : t.numbered row.id ≠ []) :
    (conclude (keepProfile new row)).runWith (Session.answer now) d =
      (row.toAccount, ⟨d.lastId, t.withProfile row.id new.profile, none⟩) := by
  obtain ⟨lastId, tables, working⟩ := d
  cases ht
  rw [conclude_keepProfile, Tables.withProfile]
  split
  · rfl
  · simp only [Dialogue.runWith, Session.answer, Session.seen, Option.getD_some,
      List.isEmpty_eq_false_iff.2 hrow, Bool.false_eq_true, if_false]
    rfl

variable {new : NewAccount}

theorem run_register (now : Time.Instant) :
    (register new).runWith (Session.answer now) d =
      (conclude (writeAccount new (d.tables.named new.userName) >>= keepProfile new)).runWith
        (Session.answer now) { d with working := some d.tables } := by
  rw [register_eq]
  simp only [Dialogue.runWith, Session.answer, conclude_registration]
  rfl

theorem run_register_taken (now : Time.Instant) (hidle : d.working = none)
    (htaken : isTaken (d.tables.named new.userName) = true) :
    (register new).runWith (Session.answer now) d =
      (.error (.alreadyExists new.userName.text), d) := by
  obtain ⟨lastId, tables, working⟩ := d
  cases hidle
  rw [run_register now, conclude_writeAccount, if_pos htaken]
  rfl

theorem run_register_inserted (now : Time.Instant) (hnone : d.tables.named new.userName = []) :
    let row := AccountRow.inserted ⟨d.lastId + 1⟩ new.userName new.passwordHash now
    let t : Tables := { d.tables with accounts := d.tables.accounts ++ [row] }
    (register new).runWith (Session.answer now) d =
      (row.toAccount, ⟨d.lastId + 1, t.withProfile row.id new.profile, none⟩) := by
  intro row t
  have hrow : t.numbered row.id ≠ [] :=
    List.ne_nil_of_mem
      (List.mem_filter.2 ⟨List.mem_append_right _ List.mem_cons_self, beq_self_eq_true _⟩)
  rw [run_register now, hnone, conclude_writeAccount, if_neg nofun]
  simp only [Dialogue.runWith, accountWrite, Session.answer, Session.seen, Option.getD_some, hnone,
    List.isEmpty_nil, if_true]
  exact run_keepProfile now rfl hrow

theorem run_register_restored {row : AccountRow} {rows : List AccountRow} (now : Time.Instant)
    (hrows : d.tables.named new.userName = row :: rows)
    (husable : row.isUsable = false) :
    let t := d.tables.update row.id (·.restored new.passwordHash now)
    ∃ restored, restored ∈ t.numbered row.id ∧ (register new).runWith (Session.answer now) d =
      (restored.toAccount, ⟨d.lastId, t.withProfile row.id new.profile, none⟩) := by
  intro t
  have hmem : row ∈ d.tables.accounts :=
    (List.mem_filter.1 (hrows ▸ List.mem_cons_self : row ∈ d.tables.named new.userName)).1
  have hrestored : row.restored new.passwordHash now ∈ t.numbered row.id :=
    List.mem_filter.2 ⟨List.mem_map.2 ⟨row, hmem, if_pos rfl⟩, beq_self_eq_true _⟩
  cases hnumbered : t.numbered row.id with
  | nil => exact absurd (hnumbered ▸ hrestored) List.not_mem_nil
  | cons restored rest =>
    refine ⟨restored, List.mem_cons_self, ?_⟩
    have hmem : restored ∈ t.numbered row.id := hnumbered ▸ List.mem_cons_self
    have hid : restored.id = row.id := beq_iff_eq.1 (List.mem_filter.1 hmem).2
    rw [run_register now, hrows, conclude_writeAccount, if_neg (by simp [isTaken, husable])]
    simp only [Dialogue.runWith, accountWrite, Session.answer, Session.seen, Option.getD_some]
    have hkeep : (conclude (keepProfile new restored)).runWith (Session.answer now)
        ⟨d.lastId, d.tables, some t⟩ = _ :=
      run_keepProfile now rfl (hid ▸ hnumbered ▸ List.cons_ne_nil _ _)
    rw [hid] at hkeep
    rw [show (d.tables.update row.id (·.restored new.passwordHash now)).numbered row.id =
      restored :: rest from hnumbered]
    exact hkeep

@[simp] theorem Tables.accounts_withProfile (t : Tables) (id : AccountId) (profile : Profile) :
    (t.withProfile id profile).accounts = t.accounts := by
  unfold Tables.withProfile
  split <;> rfl

theorem Tables.latest?_withProfile (t : Tables) (id : AccountId) (profile : Profile)
    (other : AccountId) :
    (t.withProfile id profile).latest? other =
      if other = id ∧ profile.isEmpty = false then some (.ofProfile id profile)
      else t.latest? other := by
  unfold Tables.withProfile
  cases hempty : profile.isEmpty with
  | true => simp
  | false =>
    by_cases hother : other = id
    · subst hother
      simp [Tables.latest?, InfoRow.ofProfile]
    · have hne : ((InfoRow.ofProfile id profile).accountId == other) = false :=
        beq_false_of_ne (Ne.symm hother)
      simp [Tables.latest?, hother, hne]

/-- The profile in memory is still the one that was inserted last. -/
theorem infos_withProfile {t : Tables}
    (h : ∀ id, t.latest? id = (s.profile? id).map (InfoRow.ofProfile id)) (id : AccountId)
    (profile : Profile) (other : AccountId) :
    (t.withProfile id profile).latest? other =
      ((s.setProfile id profile).profile? other).map (InfoRow.ofProfile other) := by
  rw [Tables.latest?_withProfile, Store.profile?_setProfile]
  split
  · next hother =>
    rw [hother.1]
    rfl
  · exact h other

theorem nodup_setProfile (h : (s.profiles.map (·.1)).Nodup) (id : AccountId) (profile : Profile) :
    ((s.setProfile id profile).profiles.map (·.1)).Nodup := by
  unfold Store.setProfile
  split
  · exact h
  · refine List.nodup_cons.2 ⟨?_, h.sublist (List.filter_sublist.map _)⟩
    intro hmem
    obtain ⟨e, he, hid⟩ := List.mem_map.1 hmem
    simp [hid] at he

theorem profile?_eq_some (h : (s.profiles.map (·.1)).Nodup) {profile : Profile} :
    s.profile? id = some profile ↔ (id, profile) ∈ s.profiles := by
  constructor
  · intro hfound
    obtain ⟨before, after, hprofiles, -⟩ := List.lookup_eq_some_iff.1 hfound
    rw [hprofiles]
    exact List.mem_append_right _ List.mem_cons_self
  · intro hmem
    cases hfound : s.profile? id with
    | none =>
      have hnone := List.lookup_eq_none_iff.1 hfound _ hmem
      simp at hnone
    | some other =>
      obtain ⟨before, after, hprofiles, -⟩ := List.lookup_eq_some_iff.1 hfound
      have hother : (id, other) ∈ s.profiles :=
        hprofiles ▸ List.mem_append_right _ List.mem_cons_self
      cases List.inj_on_of_nodup_map h hother hmem rfl
      rfl

theorem profile?_alike {t : Store} (h : s.Alike t) (hn : (s.profiles.map (·.1)).Nodup)
    (id : AccountId) : t.profile? id = s.profile? id := by
  ext profile
  rw [profile?_eq_some ((h.profiles.map _).nodup_iff.2 hn), profile?_eq_some hn,
    h.profiles.mem_iff]

theorem Matches.inserted (h : Matches s d) (hk : s.WellKept) (now now' : Time.Instant)
    (new : NewAccount) :
    let row := AccountRow.inserted ⟨d.lastId + 1⟩ new.userName new.passwordHash now
    let t : Tables := { d.tables with accounts := d.tables.accounts ++ [row] }
    let stored := Store.created ⟨s.lastId + 1⟩ new now'
    row.Holds (stored.id, stored) ∧ Matches ((s.added stored).setProfile stored.id new.profile)
      ⟨d.lastId + 1, t.withProfile row.id new.profile, none⟩ := by
  intro row t stored
  have hid : row.id = stored.id := congrArg (fun n : Nat => (⟨n + 1⟩ : AccountId)) h.lastId
  have hrow : row.Holds (stored.id, stored) := ⟨hid, hid, rfl, rfl, rfl, rfl⟩
  refine ⟨hrow, rfl, ?_, ?_, ?_, nodup_setProfile (s := s.added stored) h.profiles_nodup _ _⟩
  · rw [Store.lastId_setProfile, h.lastId]
    rfl
  · rw [Tables.accounts_withProfile, Store.accounts_setProfile, Store.accounts_added hk]
    exact List.rel_append h.accounts (.cons hrow .nil)
  · rw [hid]
    exact infos_withProfile (s := s.added stored) (t := t) h.infos stored.id new.profile

theorem Matches.restored {a : Account} (h : Matches s d) (hk : s.WellKept)
    (ha : s.account? id = some a) (now now' : Time.Instant) (new : NewAccount) :
    let t := d.tables.update id (·.restored new.passwordHash now)
    let stored := Store.reactivated a new.passwordHash now'
    (∀ row ∈ t.numbered id, row.Holds (id, stored)) ∧
      Matches ((s.update id fun _ => stored).setProfile id new.profile)
        ⟨d.lastId, t.withProfile id new.profile, none⟩ := by
  intro t stored
  have hrestored : ∀ row : AccountRow, row.Holds (id, a) →
      (row.restored new.passwordHash now).Holds (id, stored) :=
    fun row hrow => hrow.restored new.passwordHash now now'
  constructor
  · intro row hrow
    obtain ⟨hmem, hid⟩ := List.mem_filter.1 hrow
    obtain ⟨old, hold, rfl⟩ := List.mem_map.1 hmem
    by_cases holdid : old.id = id
    · simp only [holdid, if_true]
      exact hrestored old
        (h.holds_of_mem_numbered hk (List.mem_filter.2 ⟨hold, beq_iff_eq.2 holdid⟩) ha)
    · simp [holdid] at hid
  · refine ⟨rfl, ?_, ?_, infos_withProfile (s := s.update id fun _ => stored) (t := t) h.infos id _,
      nodup_setProfile (s := s.update id fun _ => stored) h.profiles_nodup _ _⟩
    · rw [Store.lastId_setProfile, h.lastId]
      rfl
    · rw [Tables.accounts_withProfile, Store.accounts_setProfile]
      refine forall₂_update h.accounts id fun row e hrow he hid => ?_
      cases hk.eq_of_id he (Store.mem_of_account? ha) hid
      exact hrestored row hrow

theorem Matches.register (h : Matches s d) (hk : s.WellKept) (now now' : Time.Instant)
    (new : NewAccount) :
    (d.perform now (.register now' new)).1 = .ofOutcome (.registered (s.register now' new).1) ∧
      Matches (s.register now' new).2 (d.perform now (.register now' new)).2 := by
  have hrows := h.named hk new.userName
  simp only [Session.perform]
  cases hnamed : s.named? new.userName with
  | none =>
    rw [hnamed] at hrows
    obtain ⟨hrow, hmatches⟩ := h.inserted hk now now' new
    rw [run_register_inserted now (List.forall₂_nil_right_iff.1 hrows)]
    simp only [Store.register, hnamed]
    exact ⟨congrArg Told.registered hrow.toAccount, hmatches⟩
  | some e =>
    obtain ⟨id, a⟩ := e
    rw [hnamed] at hrows
    obtain ⟨row, -, hrow, ⟨⟩, hrows⟩ := List.forall₂_cons_right_iff.1 hrows
    simp only [Store.register, hnamed]
    cases husable : a.isUsable with
    | true =>
      have htaken : isTaken (d.tables.named new.userName) = true := by
        rw [hrows]
        exact hrow.isUsable.trans husable
      rw [run_register_taken now h.idle htaken, if_pos rfl]
      exact ⟨rfl, h⟩
    | false =>
      obtain ⟨hmem, -⟩ := Store.mem_of_named? hnamed
      have hid : a.id = id := hk.id_eq _ hmem
      obtain ⟨row', hrow', hrun⟩ :=
        run_register_restored now hrows (hrow.isUsable.trans husable)
      obtain ⟨hholds, hmatches⟩ := h.restored hk ((Store.account?_eq_some hk).2 hmem) now now' new
      rw [hrun, hrow.key]
      rw [hrow.key] at hrow'
      simp only [Bool.false_eq_true, if_false]
      refine ⟨congrArg Told.registered (hholds row' hrow').toAccount, ?_⟩
      rw [show (Store.reactivated a new.passwordHash now').id = id from hid]
      exact hmatches

/-! ## One operation and many -/

theorem matches_empty : Matches .empty .empty := ⟨rfl, rfl, .nil, fun _ => rfl, .nil⟩

/-- **One operation** on a store and on a database that matches it. -/
theorem Matches.perform (h : Matches s d) (hk : s.WellKept) (now : Time.Instant)
    (op : Store.Operation) :
    (d.perform now op).1 = .ofOutcome (op.perform s).1 ∧
      Matches (op.perform s).2 (d.perform now op).2 := by
  cases op with
  | register now' new => exact h.register hk now now' new
  | deactivate now' id =>
    obtain ⟨hfound, hmatches⟩ := h.deactivate hk now now' id
    exact ⟨congrArg Told.deactivated hfound, hmatches⟩
  | findByName name =>
    rw [h.findByName hk now name]
    exact ⟨rfl, h⟩
  | findById id =>
    rw [h.findById hk now id]
    exact ⟨rfl, h⟩

theorem Matches.performAll (h : Matches s d) (hk : s.WellKept)
    (ops : List (Store.Operation × Time.Instant)) :
    (d.performAll ops).1 = (s.performAll (ops.map (·.1))).1.map .ofOutcome ∧
      Matches (s.performAll (ops.map (·.1))).2 (d.performAll ops).2 := by
  induction ops generalizing s d with
  | nil => exact ⟨rfl, h⟩
  | cons op ops ih =>
    obtain ⟨op, now⟩ := op
    obtain ⟨htold, hmatches⟩ := h.perform hk now op
    obtain ⟨htolds, hlast⟩ := ih hmatches (Store.wellKept_perform hk op)
    refine ⟨?_, hlast⟩
    simp only [Session.performAll, Store.performAll, List.map_cons, htold, htolds]

/-- **The same operations on a database and on a store in memory**, both empty at first, whatever
the times at which each of them carries an operation out and whatever the order of the entries in
memory.  Both tell the same of every operation. Every row of the database has a name that is
accepted. The profile of an account in memory is the row that was inserted last for the account; if
there is none in memory, none was inserted. -/
theorem same_over_operations {ops : List (Store.Operation × Time.Instant)}
    {outcomes : List Store.Outcome} (h : Store.Reaches .empty (ops.map (·.1)) outcomes s) :
    let d := Session.empty.performAll ops
    d.1 = outcomes.map .ofOutcome ∧
    (∀ row ∈ d.2.tables.accounts, ∃ name, UserName.ofText row.userName = .ok name) ∧
    ∀ id, d.2.tables.latest? id = (s.profile? id).map (InfoRow.ofProfile id) := by
  intro d
  have hk := Store.wellKept_empty
  obtain ⟨houtcomes, hlast⟩ := h.eq_performAll hk (.refl _) hk
  obtain ⟨htold, hmatches⟩ := matches_empty.performAll hk ops
  refine ⟨htold.trans (congrArg (List.map _) houtcomes.symm), ?_, ?_⟩
  · have haccepted := hmatches.accounts.imp fun row e hrow =>
      (⟨⟨e.2.userName, hrow.userName ▸ e.2.userName.ofText_text⟩, hrow⟩ :
        (∃ name, UserName.ofText row.userName = .ok name) ∧ row.Holds e)
    exact ((List.forall₂_and_left _ _).1 haccepted).1
  · intro id
    rw [hmatches.infos, profile?_alike hlast hmatches.profiles_nodup]

/-- Someone registers, is deactivated, registers again with another profile, and is looked for. -/
theorem same_over_operations_again :
    ∃ (ops : List (Store.Operation × Time.Instant)) (outcomes : List Store.Outcome) (s : Store)
      (a : Account),
      Store.Reaches .empty (ops.map (·.1)) outcomes s ∧ ops.length = 4 ∧
      (Session.empty.performAll ops).1 = outcomes.map .ofOutcome ∧
      outcomes.getLast? = some (.found (some a)) ∧ a.id = ⟨1⟩ ∧ a.passwordHash = "new" ∧
      (Session.empty.performAll ops).2.tables.latest? ⟨1⟩ =
        some ⟨⟨1⟩, some "Berta", none, none, none⟩ := by
  let anna : NewAccount := ⟨⟨⟨"a@b", rfl⟩⟩, "old", { name := some "Anna" }⟩
  let berta : NewAccount := { anna with passwordHash := "new", profile := { name := some "Berta" } }
  let ops : List (Store.Operation × Time.Instant) := [(.register ⟨1⟩ anna, ⟨10⟩),
    (.deactivate ⟨2⟩ ⟨1⟩, ⟨20⟩), (.register ⟨3⟩ berta, ⟨30⟩), (.findByName anna.userName, ⟨40⟩)]
  have hreaches : Store.Reaches .empty (ops.map (·.1)) _ _ :=
    .step (.refl _) (.step (.refl _) (.step (.refl _) (.step (.refl _) (.done (.refl _)))))
  obtain ⟨htold, -, hprofile⟩ := same_over_operations hreaches
  exact ⟨ops, _, _, _, hreaches, rfl, htold, rfl, rfl, rfl, hprofile ⟨1⟩⟩

end Database

end Accounts

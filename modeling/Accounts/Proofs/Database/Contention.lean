import Accounts.Proofs.Database.Tables
import Mathlib.Logic.Function.Basic

/-!
# Registrations at the same time

Any number of callers register over one database, each in a transaction of its own. Their statements
are served one at a time, in any order. A statement that has to wait for another transaction is not
served until it need not wait any longer.

* `Serves` — what is assumed of the database: which statement is served when, and what it gives
  back.
* `Race` — callers and the rows that are committed.
* `step_at_iff` — what a caller does next, told by the stage of its registration.
-/

namespace Accounts.Database

/-! ## The database -/

/-- What an open transaction has done. -/
structure Transaction where
  /-- The numbers of the rows that nobody else may write or lock. -/
  held : List AccountId
  /-- The accounts that it has inserted or changed. -/
  written : List AccountRow
  infos : List InfoRow

namespace Transaction

def fresh : Transaction := ⟨[], [], []⟩

/-- The accounts as the transaction sees them, given those that are committed. -/
def sees (x : Transaction) (rows : List AccountRow) : List AccountRow :=
  rows.filter (fun row => x.written.all (·.id != row.id)) ++ x.written

/-- The transaction after it has locked rows. -/
def lock (x : Transaction) (rows : List AccountRow) : Transaction :=
  { x with held := rows.map (·.id) ++ x.held }

/-- The transaction after it has written a row. -/
def write (x : Transaction) (row : AccountRow) : Transaction :=
  { x with held := row.id :: x.held, written := x.written.filter (·.id != row.id) ++ [row] }

/-- The transaction after it has inserted a profile. -/
def keep (x : Transaction) (info : InfoRow) : Transaction := { x with infos := x.infos ++ [info] }

/-- The tables after the transaction is committed. -/
def applied (x : Transaction) (t : Tables) : Tables := ⟨x.sees t.accounts, t.infos ++ x.infos⟩

end Transaction

/-- What a database does for a caller: given the committed tables, the open transactions of others
and that of the caller, if there is one, it serves a statement with a reply and leaves the tables
and the caller's transaction in another state. The numbers and times in new rows are not
determined. -/
inductive Serves (t : Tables) (others : Transaction → Prop) :
    Option Transaction → Statement → Reply → Tables → Option Transaction → Prop where
  | begin : Serves t others none .begin (.ok []) t (some .fresh)
  /-- Rows are locked as soon as nobody else holds them, and come as they are committed then. -/
  | lock {x : Transaction} {name : UserName} {rows : List AccountRow}
      (hrows : rows = (x.sees t.accounts).filter (·.userName == name.text))
      (hfree : ∀ y, others y → ∀ row ∈ rows, row.id ∉ y.held) :
      Serves t others (some x) (.lockByName name) (.ok rows) t (some (x.lock rows))
  | restore {x : Transaction} {id : AccountId} {passwordHash : String} {now : Time.Instant}
      {row : AccountRow} (hrow : row ∈ x.sees t.accounts) (hid : row.id = id)
      (hfree : ∀ y, others y → id ∉ y.held) :
      Serves t others (some x) (.restore id passwordHash) (.ok [row.restored passwordHash now]) t
        (some (x.write (row.restored passwordHash now)))
  /-- A name is inserted as soon as nobody else writes it, if it is not there then. -/
  | insert {x : Transaction} {name : UserName} {passwordHash : String} {id : AccountId}
      {now : Time.Instant} (hname : ∀ row ∈ x.sees t.accounts, row.userName ≠ name.text)
      (hid : ∀ row ∈ x.sees t.accounts, row.id ≠ id)
      (hfree : ∀ y, others y → ∀ row ∈ y.written, row.userName ≠ name.text ∧ row.id ≠ id) :
      Serves t others (some x) (.insertAccount name passwordHash)
        (.ok [.inserted id name passwordHash now]) t
        (some (x.write (.inserted id name passwordHash now)))
  /-- If it is there then, it is not inserted again. -/
  | duplicate {x : Transaction} {name : UserName} {passwordHash message : String} {row : AccountRow}
      (hrow : row ∈ x.sees t.accounts) (hname : row.userName = name.text)
      (hfree : ∀ y, others y → ∀ row ∈ y.written, row.userName ≠ name.text) :
      Serves t others (some x) (.insertAccount name passwordHash)
        (.error (.refused "23505" message)) t (some x)
  /-- A profile is inserted if there is an account for it. -/
  | insertProfile {x : Transaction} {id : AccountId} {profile : Profile} {row : AccountRow}
      (hrow : row ∈ x.sees t.accounts) (hid : row.id = id) :
      Serves t others (some x) (.insertProfile id profile) (.ok []) t
        (some (x.keep (.ofProfile id profile)))
  | commit {x : Transaction} : Serves t others (some x) .commit (.ok []) (x.applied t) none
  | rollback {x : Transaction} : Serves t others (some x) .rollback (.ok []) t none

/-! ## Callers -/

/-- A caller who registers. -/
structure Caller where
  /-- What is left of the registration. -/
  script : Script (Except StoreFault Account)
  transaction : Option Transaction

/-- A statement of a caller is served. -/
inductive Caller.Step (t : Tables) (others : Transaction → Prop) (c : Caller) :
    Tables → Caller → Prop where
  | served {statement : Statement} {next : Reply → Script (Except StoreFault Account)}
      {reply : Reply}
      {t' : Tables} {x : Option Transaction} (hscript : c.script = .ask statement next)
      (hserves : Serves t others c.transaction statement reply t' x) :
      c.Step t others t' ⟨next reply, x⟩

/-- Callers and the committed tables. -/
structure Race (ι : Type) where
  tables : Tables
  callers : ι → Caller

namespace Race

variable {ι : Type} [DecidableEq ι]

/-- Callers who have sent nothing. -/
def start (t : Tables) (news : ι → NewAccount) : Race ι := ⟨t, fun i => ⟨register (news i), none⟩⟩

/-- A statement of one of the callers is served. Transactions of others are those of other
callers. -/
inductive Step (r : Race ι) : Race ι → Prop where
  | caller {i : ι} {t : Tables} {c : Caller}
      (h : (r.callers i).Step r.tables
        (fun y => ∃ j, j ≠ i ∧ (r.callers j).transaction = some y) t c) :
      r.Step ⟨t, Function.update r.callers i c⟩

/-- So many statements are served. -/
inductive Runs (r : Race ι) : Nat → Race ι → Prop where
  | done : r.Runs 0 r
  | step {n : Nat} {r' r'' : Race ι} (h : r.Runs n r') (hstep : r'.Step r'') : r.Runs (n + 1) r''

end Race

/-! ## Stages of a registration -/

/-- How far a registration has come. -/
inductive Stage where
  | fresh
  | begun
  /-- It has locked the rows with its name, and is about to write the account. -/
  | ready (existing : List AccountRow)
  /-- It is about to insert the profile. -/
  | written (x : Transaction) (row : AccountRow)
  /-- It is about to commit. -/
  | kept (x : Transaction) (row : AccountRow)
  /-- It is about to be rolled back, because the name is taken. -/
  | refused (x : Transaction)
  | returned (result : Except StoreFault Account)

namespace Stage

/-- What is left of a registration. -/
def script (new : NewAccount) : Stage → Script (Except StoreFault Account)
  | fresh => register new
  | begun => conclude (registration new)
  | ready existing => .ask (accountWrite new existing) fun reply =>
    match (reply.mapError (writeFault new existing)).bind firstRow with
    | .ok row => conclude (keepProfile new row)
    | .error fault => giveUp fault
  | written _ row => .ask (.insertProfile row.id new.profile) fun
    | .ok _ => complete row
    | .error failure => giveUp failure.toStoreFault
  | kept _ row => complete row
  | refused _ => giveUp (.alreadyExists new.userName.text)
  | returned result => .done result

def transaction : Stage → Option Transaction
  | fresh => none
  | begun => some .fresh
  | ready existing => some (Transaction.fresh.lock existing)
  | written x _ => some x
  | kept x _ => some x
  | refused x => some x
  | returned _ => none

def caller (new : NewAccount) (stage : Stage) : Caller := ⟨stage.script new, stage.transaction⟩

/-- The stage after the account is written: a profile without any detail is not inserted. -/
def wrote (new : NewAccount) (x : Transaction) (row : AccountRow) : Stage :=
  if new.profile.isEmpty then kept x row else written x row

theorem caller_wrote (new : NewAccount) (x : Transaction) (row : AccountRow) :
    (wrote new x row).caller new = ⟨conclude (keepProfile new row), some x⟩ := by
  rw [wrote, conclude_keepProfile]
  split <;> rfl

end Stage

theorem Transaction.sees_of_written {x : Transaction} (h : x.written = [])
    (rows : List AccountRow) :
    x.sees rows = rows := by
  simp [Transaction.sees, h]

/-- What a registration does next. -/
inductive Moves (new : NewAccount) (t : Tables) (others : Transaction → Prop) :
    Stage → Tables → Stage → Prop where
  | begins : Moves new t others .fresh t .begun
  | locks (hfree : ∀ y, others y → ∀ row ∈ t.named new.userName, row.id ∉ y.held)
      (htaken : isTaken (t.named new.userName) = false) :
      Moves new t others .begun t (.ready (t.named new.userName))
  | finds (hfree : ∀ y, others y → ∀ row ∈ t.named new.userName, row.id ∉ y.held)
      (htaken : isTaken (t.named new.userName) = true) :
      Moves new t others .begun t (.refused (Transaction.fresh.lock (t.named new.userName)))
  | inserts {id : AccountId} {now : Time.Instant} {row : AccountRow}
      (hrow : row = .inserted id new.userName new.passwordHash now)
      (hname : ∀ row ∈ t.accounts, row.userName ≠ new.userName.text)
      (hid : ∀ row ∈ t.accounts, row.id ≠ id)
      (hfree : ∀ y, others y → ∀ row ∈ y.written, row.userName ≠ new.userName.text ∧ row.id ≠ id) :
      Moves new t others (.ready []) t (.wrote new (Transaction.fresh.write row) row)
  | collides {row : AccountRow} (hrow : row ∈ t.accounts) (hname : row.userName = new.userName.text)
      (hfree : ∀ y, others y → ∀ row ∈ y.written, row.userName ≠ new.userName.text) :
      Moves new t others (.ready []) t (.refused .fresh)
  | restores {row found restored : AccountRow} {rows : List AccountRow} {now : Time.Instant}
      (hrestored : restored = found.restored new.passwordHash now) (hfound : found ∈ t.accounts)
      (hid : found.id = row.id) (hfree : ∀ y, others y → row.id ∉ y.held) :
      Moves new t others (.ready (row :: rows)) t
        (.wrote new ((Transaction.fresh.lock (row :: rows)).write restored) restored)
  | keeps {x : Transaction} {row found : AccountRow} (hfound : found ∈ x.sees t.accounts)
      (hid : found.id = row.id) :
      Moves new t others (.written x row) t (.kept (x.keep (.ofProfile row.id new.profile)) row)
  | commits {x : Transaction} {row : AccountRow} :
      Moves new t others (.kept x row) (x.applied t) (.returned row.toAccount)
  | leaves {x : Transaction} :
      Moves new t others (.refused x) t (.returned (.error (.alreadyExists new.userName.text)))

variable {new : NewAccount} {t t' : Tables} {others : Transaction → Prop} {stage : Stage}
  {c : Caller}

/-- **Everything that the database does for a registration**, stage by stage. -/
theorem Stage.moves_of_step (h : (stage.caller new).Step t others t' c) :
    ∃ after, Moves new t others stage t' after ∧ c = after.caller new := by
  obtain ⟨hscript, hserves⟩ := h
  cases stage with
  | fresh =>
    rw [Stage.caller, Stage.script, register_eq] at hscript
    cases hscript
    cases hserves
    exact ⟨_, .begins, rfl⟩
  | begun =>
    rw [Stage.caller, Stage.script, conclude_registration] at hscript
    cases hscript
    cases hserves with
    | lock hrows hfree =>
      rw [Transaction.sees_of_written rfl] at hrows
      obtain rfl : _ = t.named new.userName := hrows
      simp only [conclude_writeAccount]
      cases htaken : isTaken (t.named new.userName) with
      | true => exact ⟨_, .finds hfree htaken, rfl⟩
      | false => exact ⟨_, .locks hfree htaken, rfl⟩
  | ready existing =>
    cases hscript
    cases existing with
    | nil =>
      cases hserves with
      | insert hname hid hfree =>
        rw [Transaction.sees_of_written rfl] at hname hid
        exact ⟨_, .inserts rfl hname hid hfree, (Stage.caller_wrote _ _ _).symm⟩
      | duplicate hrow hname hfree =>
        rw [Transaction.sees_of_written rfl] at hrow
        exact ⟨_, .collides hrow hname hfree, rfl⟩
    | cons row rows =>
      cases hserves with
      | restore hfound hid hfree =>
        rw [Transaction.sees_of_written rfl] at hfound
        exact ⟨_, .restores rfl hfound hid hfree, (Stage.caller_wrote _ _ _).symm⟩
  | written x row =>
    cases hscript
    cases hserves with
    | insertProfile hfound hid => exact ⟨_, .keeps hfound hid, rfl⟩
  | kept x row =>
    cases hscript
    cases hserves
    exact ⟨_, .commits, rfl⟩
  | refused x =>
    cases hscript
    cases hserves
    exact ⟨_, .leaves, rfl⟩
  | returned result => cases hscript

theorem Stage.step_of_serves {statement : Statement}
    {next : Reply → Script (Except StoreFault Account)} {reply : Reply} {x : Option Transaction}
    (hscript : stage.script new = .ask statement next)
    (hserves : Serves t others stage.transaction statement reply t' x) (hc : c = ⟨next reply, x⟩) :
    (stage.caller new).Step t others t' c := hc ▸ .served hscript hserves

theorem Moves.step {after : Stage} (h : Moves new t others stage t' after) :
    (stage.caller new).Step t others t' (after.caller new) := by
  -- A transaction that has written nothing sees what is committed.
  have hsees : ∀ existing, (Transaction.fresh.lock existing).sees t.accounts = t.accounts :=
    fun existing => Transaction.sees_of_written rfl _
  cases h with
  | begins => exact Stage.step_of_serves (register_eq new) .begin rfl
  | locks hfree htaken =>
    refine Stage.step_of_serves (conclude_registration new) (.lock ?_ hfree) ?_
    · exact congrArg (List.filter _) (Transaction.sees_of_written rfl _).symm
    · simp only [conclude_writeAccount, htaken, Bool.false_eq_true, if_false]
      rfl
  | finds hfree htaken =>
    refine Stage.step_of_serves (conclude_registration new) (.lock ?_ hfree) ?_
    · exact congrArg (List.filter _) (Transaction.sees_of_written rfl _).symm
    · simp only [conclude_writeAccount, htaken, if_true]
      rfl
  | inserts hrow hname hid hfree =>
    rw [hrow]
    exact Stage.step_of_serves rfl (.insert ((hsees []).symm ▸ hname) ((hsees []).symm ▸ hid) hfree)
      (Stage.caller_wrote _ _ _)
  | collides hrow hname hfree =>
    exact Stage.step_of_serves rfl
      (@Serves.duplicate _ _ _ _ _ "" _ ((hsees []).symm ▸ hrow) hname hfree)
      rfl
  | restores hrestored hfound hid hfree =>
    rw [hrestored]
    exact Stage.step_of_serves rfl (.restore ((hsees _).symm ▸ hfound) hid hfree)
      (Stage.caller_wrote _ _ _)
  | keeps hfound hid => exact Stage.step_of_serves rfl (.insertProfile hfound hid) rfl
  | commits => exact Stage.step_of_serves rfl .commit rfl
  | leaves => exact Stage.step_of_serves rfl .rollback rfl

/-! ## A race by its stages -/

namespace Race

variable {ι : Type} [DecidableEq ι] {news : ι → NewAccount} {stages : ι → Stage} {r : Race ι}

/-- Callers at stages of their registrations. -/
def ofStages (t : Tables) (news : ι → NewAccount) (stages : ι → Stage) : Race ι :=
  ⟨t, fun i => (stages i).caller (news i)⟩

/-- The open transactions of all callers but one. -/
def OfOthers (stages : ι → Stage) (i : ι) (y : Transaction) : Prop :=
  ∃ j, j ≠ i ∧ (stages j).transaction = some y

theorem update_caller (i : ι) (after : Stage) :
    Function.update (fun j => (stages j).caller (news j)) i (after.caller (news i)) =
      fun j => (Function.update stages i after j).caller (news j) := by
  funext j
  by_cases hj : j = i
  · subst hj
    simp
  · simp [hj]

/-- **What happens next**: a caller goes on to another stage. -/
theorem step_ofStages_iff :
    (ofStages t news stages).Step r ↔ ∃ i t' after,
      Moves (news i) t (OfOthers stages i) (stages i) t' after ∧
      r = ofStages t' news (Function.update stages i after) := by
  constructor
  · rintro ⟨hstep⟩
    obtain ⟨after, hmoves, rfl⟩ := Stage.moves_of_step hstep
    exact ⟨_, _, after, hmoves, congrArg (Race.mk _) (update_caller _ after)⟩
  · rintro ⟨i, t', after, hmoves, rfl⟩
    have hstep := Step.caller (r := ofStages t news stages) hmoves.step
    rwa [show (ofStages t news stages).callers = fun j => (stages j).caller (news j) from rfl,
      update_caller] at hstep

end Race

end Accounts.Database

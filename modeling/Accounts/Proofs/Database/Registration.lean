import Accounts.Database.Accounts
import Accounts.Proofs.Dialogue
import Accounts.Proofs.Except

/-!
# Registrations in a database

Whatever a database answers, a registration that succeeds has committed its transaction, once and
after everything that it wrote, and gives back the row that was written.

A registration that fails has committed nothing, with one exception: the row is turned into an
account only after the transaction is over. If its user name is no mailbox, the registration fails
and stays.

* `plays_transaction` — a transaction is committed exactly if its statements succeed.
* `plays_registration` — what is sent between the start and the end of the transaction.
* `register_committed` — what was committed, in terms of what is given back.
* `not_rolled_back` — a registration that fails and stays.
-/

namespace Accounts.Database

open Dialogue

/-- A statement and what came back from it. -/
abbrev Log : Type := List (Exchange fun _ : Statement => Reply)

/-- Whether the transaction was committed: a commit succeeded. -/
def IsCommitted (log : Log) : Prop := ∃ e ∈ log, e.1 = .commit ∧ ∃ rows, e.2 = .ok rows

/-- Whether a statement writes an account. -/
def Statement.writesAccount : Statement → Bool
  | restore _ _ => true
  | insertAccount _ _ => true
  | _ => false

/-- A row that the database gave back for an account that it wrote. -/
def Returned (log : Log) (row : AccountRow) : Prop :=
  ∃ e ∈ log, e.1.writesAccount = true ∧ ∃ rows, e.2 = .ok (row :: rows)

def AccountRow.ofAccount (a : Account) : AccountRow :=
  ⟨a.id, a.userName.text, a.passwordHash, a.isActive, a.isDeleted, a.createdAt, a.updatedAt⟩

variable {new : NewAccount} {existing : List AccountRow} {row : AccountRow} {statement : Statement}
  {log : Log}

/-! ## Rows -/

theorem text_of_ofText {text : String} {name : UserName} (h : UserName.ofText text = .ok name) :
    name.text = text := by
  unfold UserName.ofText at h
  split at h
  · cases h
  · split at h
    · next mailbox hmailbox =>
      cases h
      unfold Mailbox.ofText at hmailbox
      split at hmailbox
      · cases hmailbox
        rfl
      · cases hmailbox
    · cases h

theorem toAccount_eq_ok {account : Account} (h : row.toAccount = .ok account) :
    row = .ofAccount account := by
  unfold AccountRow.toAccount at h
  split at h
  · cases h
  · next name hname =>
    cases h
    rw [AccountRow.ofAccount, text_of_ofText hname]

theorem toAccount_eq_error {fault : StoreFault} (h : row.toAccount = .error fault) :
    ∃ reason, UserName.ofText row.userName = .error reason ∧
      fault = .database ("Stored user name is invalid: " ++ reason.message) := by
  unfold AccountRow.toAccount at h
  split at h
  · next reason hreason =>
    cases h
    exact ⟨reason, hreason, rfl⟩
  · cases h

/-! ## Statements -/

/-- What follows a statement is sent only if the statement succeeds. -/
theorem plays_send_bind {α : Type} {next : List AccountRow → ExceptT StoreFault Script α}
    {result : Except StoreFault α} (h : (send statement >>= next).run.Plays log result) :
    (∃ failure, log = [⟨statement, .error failure⟩] ∧ result = .error failure.toStoreFault) ∨
    (∃ rows after, log = ⟨statement, .ok rows⟩ :: after ∧ (next rows).run.Plays after result) := by
  rcases plays_except_bind.1 h with
    ⟨fault, hsend, rfl⟩ | ⟨before, rows, after, rfl, hsend, hafter⟩
  · obtain ⟨reply, rest, rfl, hrest⟩ := plays_question_bind.1 hsend
    cases reply with
    | ok rows => cases (plays_pure.1 hrest).2
    | error failure =>
      obtain ⟨rfl, hfault⟩ := plays_pure.1 hrest
      cases hfault
      exact .inl ⟨failure, rfl, rfl⟩
  · obtain ⟨reply, rest, rfl, hrest⟩ := plays_question_bind.1 hsend
    cases reply with
    | ok replied =>
      obtain ⟨rfl, hrows⟩ := plays_pure.1 hrest
      cases hrows
      exact .inr ⟨rows, after, rfl, hafter⟩
    | error failure => cases (plays_pure.1 hrest).2

/-- What is reported if an account cannot be inserted. -/
def insertFault (userName : UserName) (failure : Failure) : StoreFault :=
  if failure.isDuplicate then .alreadyExists userName.text else failure.toStoreFault

theorem plays_insertAccount {userName : UserName} {passwordHash : String}
    {result : Except StoreFault AccountRow}
    (h : (insertAccount userName passwordHash).run.Plays log result) :
    ∃ reply : Reply, log = [⟨.insertAccount userName passwordHash, reply⟩] ∧
      result = (reply.mapError (insertFault userName)).bind firstRow := by
  obtain ⟨reply, after, rfl, hafter⟩ := plays_question_bind.1 h
  cases reply with
  | ok rows =>
    obtain ⟨rfl, rfl⟩ := plays_pure.1 hafter
    exact ⟨_, rfl, rfl⟩
  | error failure =>
    refine ⟨.error failure, ?_⟩
    dsimp only at hafter
    rw [Except.mapError_error, insertFault]
    split at hafter
    · next hduplicate =>
      obtain ⟨rfl, rfl⟩ := plays_pure.1 hafter
      rw [if_pos hduplicate]
      exact ⟨rfl, rfl⟩
    · next hduplicate =>
      obtain ⟨rfl, rfl⟩ := plays_pure.1 hafter
      rw [if_neg hduplicate]
      exact ⟨rfl, rfl⟩

/-! ## The transaction -/

/-- **A transaction** is committed at its end if everything in it succeeds. Else it is rolled back:
it did not begin, or something in it failed, or the commit did. -/
theorem plays_transaction {α : Type} {body : ExceptT StoreFault Script α}
    {result : Except StoreFault α} (h : (transaction body).Plays log result) :
    (∃ a middle begun ended, result = .ok a ∧ body.run.Plays middle (.ok a) ∧
      log = ⟨.begin, .ok begun⟩ :: middle ++ [⟨.commit, .ok ended⟩]) ∨
    (∃ fault undone, result = .error fault ∧
      ((∃ failure, fault = failure.toStoreFault ∧
        log = [⟨.begin, .error failure⟩, ⟨.rollback, undone⟩]) ∨
      (∃ middle begun, body.run.Plays middle (.error fault) ∧
        log = ⟨.begin, .ok begun⟩ :: middle ++ [⟨.rollback, undone⟩]) ∨
      (∃ a middle begun failure, fault = failure.toStoreFault ∧ body.run.Plays middle (.ok a) ∧
        log = ⟨.begin, .ok begun⟩ :: middle ++
          [⟨.commit, .error failure⟩, ⟨.rollback, undone⟩]))) := by
  obtain ⟨before, attempt, after, rfl, hattempt, hend⟩ := plays_bind.1 h
  -- How the attempt ends decides what is sent after it.
  have herror : ∀ fault, attempt = .error fault →
      ∃ undone, after = [⟨.rollback, undone⟩] ∧ result = .error fault := by
    rintro fault rfl
    obtain ⟨undone, last, rfl, hlast⟩ := plays_question_bind.1 hend
    obtain ⟨rfl, rfl⟩ := plays_pure.1 hlast
    exact ⟨undone, rfl, rfl⟩
  rcases plays_send_bind hattempt with ⟨failure, rfl, hfault⟩ | ⟨begun, rest, rfl, hrest⟩
  · obtain ⟨undone, rfl, rfl⟩ := herror _ hfault
    exact .inr ⟨_, undone, rfl, .inl ⟨failure, rfl, rfl⟩⟩
  rcases plays_except_bind.1 hrest with
    ⟨fault, hbody, hfault⟩ | ⟨middle, a, commit, rfl, hbody, hcommit⟩
  · obtain ⟨undone, rfl, rfl⟩ := herror _ hfault
    exact .inr ⟨_, undone, rfl, .inr (.inl ⟨rest, begun, hbody, rfl⟩)⟩
  rcases plays_send_bind hcommit with ⟨failure, rfl, hfault⟩ | ⟨ended, last, rfl, hlast⟩
  · obtain ⟨undone, rfl, rfl⟩ := herror _ hfault
    exact .inr ⟨_, undone, rfl, .inr (.inr ⟨a, middle, begun, failure, rfl, hbody, by simp⟩)⟩
  · obtain ⟨rfl, rfl⟩ := plays_except_pure.1 hlast
    obtain ⟨rfl, rfl⟩ := plays_pure.1 hend
    exact .inl ⟨a, middle, begun, ended, rfl, hbody, by simp⟩

/-! ## The registration -/

/-- The statement that writes the account, given the rows with its name. -/
def accountWrite (new : NewAccount) : List AccountRow → Statement
  | [] => .insertAccount new.userName new.passwordHash
  | row :: _ => .restore row.id new.passwordHash

/-- What is reported if that statement fails. -/
def writeFault (new : NewAccount) : List AccountRow → Failure → StoreFault
  | [], failure => insertFault new.userName failure
  | _ :: _, failure => failure.toStoreFault

/-- Whether a usable account has the name, given the rows with it. -/
def isTaken : List AccountRow → Bool
  | [] => false
  | row :: _ => row.isUsable

/-- Everything that is sent between the start and the end of a registration's transaction, and what
comes of it. -/
inductive Registers (new : NewAccount) : Log → Except StoreFault AccountRow → Prop where
  | lockFails (failure : Failure) :
      Registers new [⟨.lockByName new.userName, .error failure⟩] (.error failure.toStoreFault)
  | taken {existing : List AccountRow} (h : isTaken existing = true) :
      Registers new [⟨.lockByName new.userName, .ok existing⟩]
        (.error (.alreadyExists new.userName.text))
  | writeFails {existing : List AccountRow} (h : isTaken existing = false) (failure : Failure) :
      Registers new [⟨.lockByName new.userName, .ok existing⟩,
        ⟨accountWrite new existing, .error failure⟩] (.error (writeFault new existing failure))
  | noRow {existing : List AccountRow} (h : isTaken existing = false) :
      Registers new [⟨.lockByName new.userName, .ok existing⟩, ⟨accountWrite new existing, .ok []⟩]
        (.error Failure.noRow.toStoreFault)
  | withoutProfile {existing : List AccountRow} (h : isTaken existing = false)
      (hprofile : new.profile.isEmpty = true) (row : AccountRow) (rows : List AccountRow) :
      Registers new [⟨.lockByName new.userName, .ok existing⟩,
        ⟨accountWrite new existing, .ok (row :: rows)⟩] (.ok row)
  | profileFails {existing : List AccountRow} (h : isTaken existing = false)
      (hprofile : new.profile.isEmpty = false) (row : AccountRow) (rows : List AccountRow)
      (failure : Failure) :
      Registers new [⟨.lockByName new.userName, .ok existing⟩,
        ⟨accountWrite new existing, .ok (row :: rows)⟩,
        ⟨.insertProfile row.id new.profile, .error failure⟩] (.error failure.toStoreFault)
  | withProfile {existing : List AccountRow} (h : isTaken existing = false)
      (hprofile : new.profile.isEmpty = false) (row : AccountRow) (rows kept : List AccountRow) :
      Registers new [⟨.lockByName new.userName, .ok existing⟩,
        ⟨accountWrite new existing, .ok (row :: rows)⟩,
        ⟨.insertProfile row.id new.profile, .ok kept⟩] (.ok row)

/-- The statements that follow the writing of the account. -/
def keepProfile (new : NewAccount) (row : AccountRow) : ExceptT StoreFault Script AccountRow :=
  if new.profile.isEmpty then pure row
  else send (.insertProfile row.id new.profile) >>= fun _ => pure row

/-- The statements that write the account. -/
def writeAccount (new : NewAccount) : List AccountRow → ExceptT StoreFault Script AccountRow
  | [] => insertAccount new.userName new.passwordHash
  | row :: _ =>
    if row.isUsable then throw (.alreadyExists new.userName.text)
    else send (.restore row.id new.passwordHash) >>= fun rows => liftM (firstRow rows)

theorem registration_eq (new : NewAccount) :
    registration new =
      send (.lockByName new.userName) >>= fun existing =>
        writeAccount new existing >>= keepProfile new := by
  unfold registration
  congr 1
  funext existing
  cases existing with
  | nil =>
    simp only [writeAccount]
    rfl
  | cons row rows =>
    simp only [writeAccount]
    split
    · rfl
    · rw [bind_assoc]
      rfl

theorem plays_writeAccount {result : Except StoreFault AccountRow}
    (h : (writeAccount new existing).run.Plays log result) :
    (isTaken existing = true ∧ log = [] ∧ result = .error (.alreadyExists new.userName.text)) ∨
    (isTaken existing = false ∧ ∃ reply : Reply, log = [⟨accountWrite new existing, reply⟩] ∧
      result = (reply.mapError (writeFault new existing)).bind firstRow) := by
  cases existing with
  | nil => exact .inr ⟨rfl, plays_insertAccount h⟩
  | cons row rows =>
    rw [writeAccount] at h
    split at h
    · next husable =>
      obtain ⟨rfl, rfl⟩ := plays_throw.1 h
      exact .inl ⟨husable, rfl, rfl⟩
    · next husable =>
      refine .inr ⟨Bool.eq_false_iff.2 husable, ?_⟩
      rcases plays_send_bind h with ⟨failure, rfl, rfl⟩ | ⟨written, after, rfl, hafter⟩
      · exact ⟨.error failure, rfl, rfl⟩
      · obtain ⟨rfl, rfl⟩ := plays_liftExcept.1 hafter
        exact ⟨.ok written, rfl, rfl⟩

theorem plays_keepProfile {result : Except StoreFault AccountRow}
    (h : (keepProfile new row).run.Plays log result) :
    (new.profile.isEmpty = true ∧ log = [] ∧ result = .ok row) ∨
    (new.profile.isEmpty = false ∧ ∃ reply : Reply,
      log = [⟨.insertProfile row.id new.profile, reply⟩] ∧
      result = (reply.mapError Failure.toStoreFault).map fun _ => row) := by
  rw [keepProfile] at h
  split at h
  · next hempty =>
    obtain ⟨rfl, rfl⟩ := plays_except_pure.1 h
    exact .inl ⟨hempty, rfl, rfl⟩
  · next hempty =>
    refine .inr ⟨Bool.eq_false_iff.2 hempty, ?_⟩
    rcases plays_send_bind h with ⟨failure, rfl, rfl⟩ | ⟨kept, after, rfl, hafter⟩
    · exact ⟨.error failure, rfl, rfl⟩
    · obtain ⟨rfl, rfl⟩ := plays_except_pure.1 hafter
      exact ⟨.ok kept, rfl, rfl⟩

/-- **Everything that a registration sends** in its transaction. -/
theorem plays_registration {result : Except StoreFault AccountRow}
    (h : (registration new).run.Plays log result) : Registers new log result := by
  rw [registration_eq] at h
  rcases plays_send_bind h with ⟨failure, rfl, rfl⟩ | ⟨existing, after, rfl, hafter⟩
  · exact .lockFails failure
  rcases plays_except_bind.1 hafter with
    ⟨fault, hwrite, rfl⟩ | ⟨before, row, rest, rfl, hwrite, hrest⟩
  · rcases plays_writeAccount hwrite with ⟨htaken, rfl, hfault⟩ | ⟨htaken, reply, rfl, hfault⟩
    · cases hfault
      exact .taken htaken
    · rcases reply with failure | _ | _
      · cases hfault
        exact .writeFails htaken failure
      · cases hfault
        exact .noRow htaken
      · cases hfault
  · rcases plays_writeAccount hwrite with ⟨-, -, hrow⟩ | ⟨htaken, reply, rfl, hrow⟩
    · cases hrow
    rcases reply with failure | _ | ⟨first, rows⟩
    · cases hrow
    · cases hrow
    cases hrow
    rcases plays_keepProfile hrest with ⟨hempty, rfl, rfl⟩ | ⟨hempty, reply, rfl, rfl⟩
    · exact .withoutProfile htaken hempty row rows
    · cases reply with
      | error failure => exact .profileFails htaken hempty row rows failure
      | ok kept => exact .withProfile htaken hempty row rows kept

/-! ## What is committed -/

theorem accountWrite_ne_commit (new : NewAccount) (existing : List AccountRow) :
    accountWrite new existing ≠ .commit := by
  cases existing <;> exact nofun

@[simp] theorem writesAccount_begin : Statement.begin.writesAccount = false := rfl

@[simp] theorem writesAccount_commit : Statement.commit.writesAccount = false := rfl

@[simp] theorem writesAccount_lockByName (userName : UserName) :
    (Statement.lockByName userName).writesAccount = false := rfl

@[simp] theorem writesAccount_insertProfile (id : AccountId) (profile : Profile) :
    (Statement.insertProfile id profile).writesAccount = false := rfl

@[simp] theorem writesAccount_accountWrite (new : NewAccount) (existing : List AccountRow) :
    (accountWrite new existing).writesAccount = true := by
  cases existing <;> rfl

@[simp] theorem returned_nil : ¬ Returned [] row := by simp [Returned]

@[simp] theorem returned_cons {reply : Reply} :
    Returned (⟨statement, reply⟩ :: log) row ↔
      (statement.writesAccount = true ∧ ∃ rows, reply = .ok (row :: rows)) ∨ Returned log row := by
  simp [Returned]

@[simp] theorem returned_append {later : Log} :
    Returned (log ++ later) row ↔ Returned log row ∨ Returned later row := by
  simp [Returned, or_and_right, exists_or]

@[simp] theorem isCommitted_nil : ¬ IsCommitted [] := by simp [IsCommitted]

@[simp] theorem isCommitted_cons {reply : Reply} :
    IsCommitted (⟨statement, reply⟩ :: log) ↔
      (statement = .commit ∧ ∃ rows, reply = .ok rows) ∨ IsCommitted log := by
  simp [IsCommitted]

@[simp] theorem isCommitted_append {later : Log} :
    IsCommitted (log ++ later) ↔ IsCommitted log ∨ IsCommitted later := by
  simp [IsCommitted, or_and_right, exists_or]

namespace Registers

theorem ne_commit {result : Except StoreFault AccountRow} (h : Registers new log result) :
    ∀ e ∈ log, e.1 ≠ .commit := by
  cases h <;> simp [accountWrite_ne_commit]

theorem not_isCommitted {result : Except StoreFault AccountRow} (h : Registers new log result) :
    ¬ IsCommitted log := fun ⟨e, he, hcommit, _⟩ => h.ne_commit e he hcommit

/-- The row of a registration is the one that was written, and no other was. -/
theorem returned_iff (h : Registers new log (.ok row)) (other : AccountRow) :
    Returned log other ↔ other = row := by
  cases h <;> simp <;> exact eq_comm

end Registers

/-- A registration is committed at its end, or not at all. -/
theorem plays_register {result : Except StoreFault Account} (h : (register new).Plays log result) :
    (∃ row before rows, result = row.toAccount ∧ log = before ++ [⟨.commit, .ok rows⟩] ∧
      (∀ e ∈ before, e.1 ≠ .commit) ∧ ∀ other, Returned log other ↔ other = row) ∨
    (¬ IsCommitted log ∧ ∃ fault, result = .error fault) := by
  obtain ⟨before, attempt, after, rfl, htransaction, hend⟩ := plays_bind.1 h
  rcases plays_transaction htransaction with
    ⟨row, middle, begun, ended, rfl, hbody, rfl⟩ | ⟨fault, undone, rfl, hlog⟩
  · obtain ⟨rfl, rfl⟩ := plays_pure.1 hend
    have hregisters := plays_registration hbody
    refine .inl ⟨row, ⟨.begin, .ok begun⟩ :: middle, ended, rfl, by simp, ?_, ?_⟩
    · exact List.forall_mem_cons.2 ⟨nofun, hregisters.ne_commit⟩
    · intro other
      simp [hregisters.returned_iff]
  · obtain ⟨rfl, rfl⟩ := plays_pure.1 hend
    refine .inr ⟨?_, fault, rfl⟩
    rcases hlog with ⟨failure, -, rfl⟩ | ⟨middle, begun, hbody, rfl⟩ |
      ⟨row, middle, begun, failure, -, hbody, rfl⟩
    · simp
    · simp [(plays_registration hbody).not_isCommitted]
    · simp [(plays_registration hbody).not_isCommitted]

/-- **What a registration commits.** If it fails, it has committed nothing, unless the row that was
written has a user name that is no mailbox. If it succeeds, it has committed once, after everything
that it sent, and the account is the row that was written. -/
theorem register_committed {σ : Type} (new : NewAccount) (answer : Statement → σ → Reply × σ)
    (s : σ) :
    let log := (register new).exchanges answer s
    let result := ((register new).runWith answer s).1
    (∀ fault, result = .error fault → IsCommitted log → ∃ row reason, Returned log row ∧
      UserName.ofText row.userName = .error reason ∧
      fault = .database ("Stored user name is invalid: " ++ reason.message)) ∧
    ∀ account, result = .ok account →
      (∃ before rows, log = before ++ [⟨.commit, .ok rows⟩] ∧ ∀ e ∈ before, e.1 ≠ .commit) ∧
      ∀ row, Returned log row ↔ row = .ofAccount account := by
  intro log result
  rcases plays_register (plays_exchanges answer (register new) s) with
    ⟨row, before, rows, hresult, hlog, hbefore, hreturned⟩ | ⟨hopen, fault, hresult⟩
  · refine ⟨?_, ?_⟩
    · intro fault hfault _
      obtain ⟨reason, hreason, rfl⟩ := toAccount_eq_error (hresult.symm.trans hfault)
      exact ⟨row, reason, (hreturned row).2 rfl, hreason, rfl⟩
    · intro account haccount
      rw [← toAccount_eq_ok (hresult.symm.trans haccount)]
      exact ⟨⟨before, rows, hlog, hbefore⟩, hreturned⟩
  · refine ⟨fun _ _ hcommitted => absurd hcommitted hopen, ?_⟩
    intro account haccount
    cases hresult.symm.trans haccount

/-- A database that gives its replies in order. A rollback takes none. -/
def scripted (statement : Statement) (replies : List Reply) : Reply × List Reply :=
  match statement, replies with
  | .rollback, replies => (.ok [], replies)
  | _, [] => (.ok [], [])
  | _, reply :: replies => (reply, replies)

/-- A deleted account is registered again, with the row that the database gives back. -/
theorem register_committed_restored :
    ∃ (new : NewAccount) (replies : List Reply) (account : Account),
      ((register new).runWith scripted replies).1 = .ok account ∧
      Returned ((register new).exchanges scripted replies) (.ofAccount account) ∧
      IsCommitted ((register new).exchanges scripted replies) := by
  let new : NewAccount := ⟨⟨⟨"a@b", rfl⟩⟩, "new", .empty⟩
  let old : AccountRow := ⟨⟨7⟩, "a@b", "old", false, true, ⟨1⟩, ⟨2⟩⟩
  let row : AccountRow := ⟨⟨7⟩, "a@b", "new", true, false, ⟨1⟩, ⟨3⟩⟩
  let replies : List Reply := [.ok [], .ok [old], .ok [row], .ok []]
  have hname : UserName.ofText "a@b" = .ok new.userName := rfl
  have hresult := calc ((register new).runWith scripted replies).1
    _ = row.toAccount := rfl
    _ = .ok ⟨⟨7⟩, new.userName, "new", true, false, ⟨1⟩, ⟨3⟩⟩ := by
      simp only [row, AccountRow.toAccount, hname]
  obtain ⟨⟨before, rows, hlog, -⟩, hrow⟩ := (register_committed new scripted replies).2 _ hresult
  exact ⟨new, replies, _, hresult, (hrow _).2 rfl, by simp [hlog]⟩

/-- **A registration that fails and stays**: the database gives the new row another name, which is
no mailbox. -/
theorem not_rolled_back :
    ¬ ∀ (σ : Type) (new : NewAccount) (answer : Statement → σ → Reply × σ) (s : σ)
      (fault : StoreFault),
      ((register new).runWith answer s).1 = .error fault →
      ¬ IsCommitted ((register new).exchanges answer s) := by
  intro h
  let new : NewAccount := ⟨⟨⟨"a@b", rfl⟩⟩, "h", .empty⟩
  let replies : List Reply :=
    [.ok [], .ok [], .ok [⟨⟨1⟩, "bad", "h", true, false, ⟨0⟩, ⟨0⟩⟩], .ok []]
  exact h _ new scripted replies _ rfl ⟨_, List.mem_of_getLast? rfl, rfl, [], rfl⟩

end Accounts.Database

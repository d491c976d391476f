import Accounts.Proofs.Database.Registration
import Accounts.Proofs.Text.Split

/-!
# The tables behind a database

What the statements do to the rows of the two tables, and a registration statement by statement.

* `Tables` — rows of accounts and of profiles, and what is read and written.
* `UserName.ofText_text` — the name of an account is accepted again when its row is read.
* `register_eq`, `conclude_registration`, `conclude_writeAccount`, `conclude_keepProfile` — what a
  registration sends next, and what it goes on with.
-/

namespace Accounts

/-! ## Names are accepted again -/

theorem Mailbox.mem_of_splitDisplay {cs before after : List Char}
    (h : Mailbox.splitDisplay cs = some (before, after)) : '<' ∈ cs := by
  induction cs generalizing before after with
  | nil => cases h
  | cons c cs ih =>
    rw [Mailbox.splitDisplay] at h
    split at h
    · next hcs => exact List.mem_cons_of_mem _ (ih hcs)
    · split at h
      · next hhead => exact List.mem_cons_of_mem _ (List.mem_of_head? hhead.2)
      · cases h

theorem Mailbox.exists_not_blank (m : Mailbox) : ∃ c ∈ m.text.toList, Text.isBlank c = false := by
  have hcheck := m.wellFormed
  rw [Mailbox.check, Mailbox.parts] at hcheck
  cases hdisplay : Mailbox.splitDisplay m.text.toList with
  | some parts => exact ⟨'<', Mailbox.mem_of_splitDisplay hdisplay, by decide⟩
  | none =>
    rw [hdisplay] at hcheck
    simp only [Except.ok_bind] at hcheck
    split at hcheck
    · cases hcheck
    · next hsplit =>
      obtain ⟨htext, -⟩ := Text.splitLast_eq_some.1 hsplit
      exact ⟨'@', htext ▸ List.mem_append_right _ List.mem_cons_self, by decide⟩

theorem Mailbox.ofText_text (m : Mailbox) : Mailbox.ofText m.text = .ok m := by
  unfold Mailbox.ofText
  split
  · rfl
  · next h => cases m.wellFormed.symm.trans h

/-- **The name of an account is accepted again.** -/
theorem UserName.ofText_text (name : UserName) : UserName.ofText name.text = .ok name := by
  have hblank : Text.isBlankText name.text = false := by
    obtain ⟨c, hc, hblank⟩ := name.mailbox.exists_not_blank
    exact List.all_eq_false.2 ⟨c, hc, by simp [hblank]⟩
  rw [UserName.ofText, if_neg (by simp [hblank]), UserName.text, name.mailbox.ofText_text]

theorem UserName.text_inj {name other : UserName} : name.text = other.text ↔ name = other := by
  constructor
  · intro h
    cases name
    cases other
    exact congrArg UserName.mk (Mailbox.ext h)
  · exact congrArg UserName.text

namespace Database

open Dialogue

/-! ## Rows -/

namespace AccountRow

/-- The row that is inserted for an account. -/
def inserted (id : AccountId) (name : UserName) (passwordHash : String) (now : Time.Instant) :
    AccountRow :=
  ⟨id, name.text, passwordHash, true, false, now, now⟩

/-- A row that has been given a new password and made usable. -/
def restored (row : AccountRow) (passwordHash : String) (now : Time.Instant) : AccountRow :=
  { row with password := passwordHash, isActive := true, isDeleted := false, updatedAt := now }

end AccountRow

/-- A row of the table of profiles. -/
structure InfoRow where
  accountId : AccountId
  name : Option String
  phone : Option String
  email : Option String
  gender : Option String
deriving DecidableEq

/-- The row of the profile of an account. -/
def InfoRow.ofProfile (id : AccountId) (profile : Profile) : InfoRow :=
  ⟨id, profile.name, profile.phone.map (·.text), profile.email.map (·.text),
    profile.gender.map (·.text)⟩

/-! ## Tables -/

/-- The rows of both tables, in the order in which they were inserted. -/
structure Tables where
  accounts : List AccountRow
  infos : List InfoRow

namespace Tables

def empty : Tables := ⟨[], []⟩

def named (t : Tables) (name : UserName) : List AccountRow :=
  t.accounts.filter (·.userName == name.text)

def numbered (t : Tables) (id : AccountId) : List AccountRow := t.accounts.filter (·.id == id)

/-- Changes the rows with a number. -/
def update (t : Tables) (id : AccountId) (f : AccountRow → AccountRow) : Tables :=
  { t with accounts := t.accounts.map fun row => if row.id = id then f row else row }

/-- The row that was inserted last for the profile of an account. -/
def latest? (t : Tables) (id : AccountId) : Option InfoRow :=
  (t.infos.filter (·.accountId == id)).getLast?

end Tables

/-! ## A registration, statement by statement -/

/-- A registration that has failed. -/
def giveUp (fault : StoreFault) : Script (Except StoreFault Account) :=
  .ask .rollback fun _ => .done (.error fault)

/-- A registration that has written all it had to. -/
def complete (row : AccountRow) : Script (Except StoreFault Account) :=
  .ask .commit fun
    | .ok _ => .done row.toAccount
    | .error failure => giveUp failure.toStoreFault

/-- A registration that goes on within its transaction. -/
def conclude (body : ExceptT StoreFault Script AccountRow) : Script (Except StoreFault Account) :=
  body.run >>= fun
    | .ok row => complete row
    | .error fault => giveUp fault

variable {new : NewAccount} {next : List AccountRow → ExceptT StoreFault Script AccountRow}

theorem register_eq (new : NewAccount) :
    register new = .ask .begin fun
      | .ok _ => conclude (registration new)
      | .error failure => giveUp failure.toStoreFault := by
  refine congrArg (Dialogue.ask Statement.begin) (funext fun reply => ?_)
  rcases reply with failure | begun
  · rfl
  show (((registration new).run >>= _) >>= _) >>= _ = _
  rw [bind_assoc, bind_assoc, conclude]
  congr 1
  funext result
  rcases result with fault | row
  · rfl
  refine congrArg (Dialogue.ask Statement.commit) (funext fun reply => ?_)
  cases reply <;> rfl

theorem conclude_send_bind (statement : Statement) :
    conclude (send statement >>= next) = .ask statement fun
      | .ok rows => conclude (next rows)
      | .error failure => giveUp failure.toStoreFault := by
  refine congrArg (Dialogue.ask statement) (funext fun reply => ?_)
  cases reply <;> rfl

theorem conclude_registration (new : NewAccount) :
    conclude (registration new) = .ask (.lockByName new.userName) fun
      | .ok existing => conclude (writeAccount new existing >>= keepProfile new)
      | .error failure => giveUp failure.toStoreFault := by
  rw [registration_eq, conclude_send_bind]

theorem conclude_writeAccount (new : NewAccount) (existing : List AccountRow)
    (next : AccountRow → ExceptT StoreFault Script AccountRow) :
    conclude (writeAccount new existing >>= next) =
      if isTaken existing then giveUp (.alreadyExists new.userName.text)
      else .ask (accountWrite new existing) fun reply =>
        match (reply.mapError (writeFault new existing)).bind firstRow with
        | .ok row => conclude (next row)
        | .error fault => giveUp fault := by
  cases existing with
  | nil =>
    refine congrArg (Dialogue.ask _) (funext fun reply => ?_)
    rcases reply with failure | _ | ⟨row, rows⟩
    · simp only [Dialogue.bind, Except.mapError_error, writeFault, insertFault]
      split <;> rfl
    · rfl
    · rfl
  | cons row rows =>
    cases husable : row.isUsable with
    | true =>
      simp only [writeAccount, isTaken, husable, if_true]
      rfl
    | false =>
      simp only [writeAccount, isTaken, husable, Bool.false_eq_true, if_false]
      rw [bind_assoc, conclude_send_bind]
      refine congrArg (Dialogue.ask _) (funext fun reply => ?_)
      rcases reply with failure | _ | ⟨row, rows⟩ <;> rfl

/-- A profile without any detail is not kept. -/
theorem conclude_keepProfile (new : NewAccount) (row : AccountRow) :
    conclude (keepProfile new row) =
      if new.profile.isEmpty then complete row
      else .ask (.insertProfile row.id new.profile) fun
        | .ok _ => complete row
        | .error failure => giveUp failure.toStoreFault := by
  rw [keepProfile]
  split
  · rfl
  · exact conclude_send_bind _

end Database

end Accounts

import Accounts.Database.Statement
import Accounts.Store.Calls

/-!
# Accounts in a database

Looking accounts up and registering them. A registration is one transaction: what it writes is
committed at its end, or rolled back if any statement fails.
-/

namespace Accounts.Database

/-- Sends a statement; a failure is reported as one of the store. -/
def send (statement : Statement) : ExceptT StoreFault Script (List AccountRow) :=
  ExceptT.mk do
    match ← Dialogue.question statement with
    | .ok rows => pure (.ok rows)
    | .error failure => pure (.error failure.toStoreFault)

/-- The first of the rows, one of which there has to be. -/
def firstRow (rows : List AccountRow) : Except StoreFault AccountRow :=
  match rows with
  | [] => .error Failure.noRow.toStoreFault
  | row :: _ => .ok row

/-- Inserts an account. That its name is taken is a fault of its own. -/
def insertAccount (userName : UserName) (passwordHash : String) :
    ExceptT StoreFault Script AccountRow :=
  ExceptT.mk do
    match ← Dialogue.question (.insertAccount userName passwordHash) with
    | .ok rows => pure (firstRow rows)
    | .error failure =>
      if failure.isDuplicate then pure (.error (.alreadyExists userName.text))
      else pure (.error failure.toStoreFault)

/-- Carries out a transaction. Unless it is committed it is rolled back. -/
def transaction {α : Type} (body : ExceptT StoreFault Script α) : Script (Except StoreFault α) := do
  let attempt : ExceptT StoreFault Script α := do
    let _ ← send .begin
    let a ← body
    let _ ← send .commit
    pure a
  match ← attempt.run with
  | .ok a => pure (.ok a)
  | .error fault => do
    let _ ← Dialogue.question .rollback
    pure (.error fault)

/-- The statements of a registration between the start and the end of its transaction. -/
def registration (new : NewAccount) : ExceptT StoreFault Script AccountRow := do
  let existing ← send (.lockByName new.userName)
  let row ←
    match existing with
    | row :: _ =>
      if row.isUsable then throw (.alreadyExists new.userName.text)
      else do firstRow (← send (.restore row.id new.passwordHash))
    | [] => insertAccount new.userName new.passwordHash
  unless new.profile.isEmpty do
    let _ ← send (.insertProfile row.id new.profile)
  pure row

/-- The account of the first row, if there is one. -/
def firstAccount (rows : List AccountRow) : Except StoreFault (Option Account) :=
  match rows with
  | [] => .ok none
  | row :: _ => row.toAccount.map some

/-- The usable account with a name. -/
def findByName (userName : UserName) : Script (Except StoreFault (Option Account)) := do
  match ← (send (.selectByName userName)).run with
  | .ok rows => pure (firstAccount rows)
  | .error fault => pure (.error fault)

/-- The usable account with a number. -/
def findById (id : AccountId) : Script (Except StoreFault (Option Account)) := do
  match ← (send (.selectById id)).run with
  | .ok rows => pure (firstAccount rows)
  | .error fault => pure (.error fault)

def register (new : NewAccount) : Script (Except StoreFault Account) := do
  match ← transaction (registration new) with
  | .ok row => pure row.toAccount
  | .error fault => pure (.error fault)

/-- The statements that answer a question to the store. -/
def script (call : StoreCall) : Script (Except StoreFault call.Result) :=
  match call with
  | .findByName userName => findByName userName
  | .findById id => findById id
  | .register new => register new

/-- Answers a question through a pool of connections. A closed pool has none left, so nothing is
sent. -/
def scriptThrough (isClosed : Bool) (call : StoreCall) : Script (Except StoreFault call.Result) :=
  if isClosed then pure (.error Failure.closed.toStoreFault) else script call

end Accounts.Database

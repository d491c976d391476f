import Accounts.Account.Basic
import Accounts.Dialogue

/-!
# Statements of the account tables

The statements that are sent to a relational database, as values: their text, their parameters, and
what can come back. Accounts are rows of `user_accounts`, profiles rows of `user_infos`.
-/

namespace Accounts.Database

inductive Statement where
  | begin
  | commit
  | rollback
  /-- The usable account with a name. -/
  | selectByName (userName : UserName)
  /-- The usable account with a number. -/
  | selectById (id : AccountId)
  /-- The account with a name, usable or not, locked until the transaction ends. -/
  | lockByName (userName : UserName)
  /-- Gives an account a new password and makes it usable. -/
  | restore (id : AccountId) (passwordHash : String)
  | insertAccount (userName : UserName) (passwordHash : String)
  | insertProfile (id : AccountId) (profile : Profile)
deriving DecidableEq

inductive Parameter where
  | null
  | integer (value : Int)
  | text (value : String)
deriving DecidableEq, Repr

def columns : String := "id, user_name, password, is_active, is_deleted, created_at, updated_at"

namespace Statement

/-- The text of a statement; `$1`, `$2` … stand for its parameters. -/
def sql : Statement → String
  | begin => "BEGIN"
  | commit => "COMMIT"
  | rollback => "ROLLBACK"
  | selectByName _ =>
    "SELECT " ++ columns ++
      " FROM user_accounts WHERE user_name = $1 AND is_active AND NOT is_deleted"
  | selectById _ =>
    "SELECT " ++ columns ++ " FROM user_accounts WHERE id = $1 AND is_active AND NOT is_deleted"
  | lockByName _ => "SELECT " ++ columns ++ " FROM user_accounts WHERE user_name = $1 FOR UPDATE"
  | restore _ _ =>
    "UPDATE user_accounts SET password = $2, is_active = TRUE, is_deleted = FALSE, " ++
      "deleted_at = NULL, updated_at = NOW() WHERE id = $1 RETURNING " ++ columns
  | insertAccount _ _ =>
    "INSERT INTO user_accounts (user_name, password) VALUES ($1, $2) RETURNING " ++ columns
  | insertProfile _ _ =>
    "INSERT INTO user_infos (user_account_id, name, phone, email, gender) " ++
      "VALUES ($1, $2, $3, $4, $5)"

def optional (text : Option String) : Parameter := (text.map .text).getD .null

/-- The parameters of a statement, or `none` if it is one that controls the transaction. -/
def parameters : Statement → Option (List Parameter)
  | begin => none
  | commit => none
  | rollback => none
  | selectByName userName => some [.text userName.text]
  | selectById id => some [.integer id.value]
  | lockByName userName => some [.text userName.text]
  | restore id passwordHash => some [.integer id.value, .text passwordHash]
  | insertAccount userName passwordHash => some [.text userName.text, .text passwordHash]
  | insertProfile id profile =>
    some [.integer id.value, optional profile.name, optional (profile.phone.map (·.text)),
      optional (profile.email.map (·.text)), optional (profile.gender.map (·.text))]

end Statement

/-- A row of the account table. -/
structure AccountRow where
  id : AccountId
  userName : String
  password : String
  isActive : Bool
  isDeleted : Bool
  createdAt : Time.Instant
  updatedAt : Time.Instant
deriving DecidableEq

/-- Whether the account of the row may be used. -/
def AccountRow.isUsable (r : AccountRow) : Bool := r.isActive && !r.isDeleted

/-- The account of a row. Its name is checked again. -/
def AccountRow.toAccount (r : AccountRow) : Except StoreFault Account :=
  match UserName.ofText r.userName with
  | .error fault => .error (.database ("Stored user name is invalid: " ++ fault.message))
  | .ok userName => .ok {
      id := r.id
      userName
      passwordHash := r.password
      isActive := r.isActive
      isDeleted := r.isDeleted
      createdAt := r.createdAt
      updatedAt := r.updatedAt }

/-- Failures of the database. -/
inductive Failure where
  /-- The database refused a statement, with a code of five characters. -/
  | refused (code message : String)
  /-- There are no further connections to the database. -/
  | closed
  /-- A row was wanted and none came. -/
  | noRow
deriving DecidableEq, Repr

namespace Failure

def message : Failure → String
  | refused _ message => "error returned from database: " ++ message
  | closed => "attempted to acquire a connection on a closed pool"
  | noRow => "no rows returned by a query that expected to return at least one row"

/-- Whether a value that has to be unique is there already. -/
def isDuplicate : Failure → Bool
  | refused code _ => code == "23505"
  | _ => false

/-- The failure as one of the store. -/
def toStoreFault (f : Failure) : StoreFault := .database f.message

end Failure

/-- What comes back from a statement. -/
abbrev Reply : Type := Except Failure (List AccountRow)

/-- A computation that sends statements. -/
abbrev Script (α : Type) : Type := Dialogue Statement (fun _ => Reply) α

end Accounts.Database

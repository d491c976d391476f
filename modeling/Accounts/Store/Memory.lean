import Accounts.Store.Calls

/-!
# The store in memory

Accounts are numbered in the order in which they are first registered. An account that has been
deactivated keeps its number and its time of creation when its name is registered again.
-/

namespace Accounts

/-- A store of accounts. -/
structure Store where
  /-- The number given last. -/
  lastId : Nat
  /-- The accounts by the numbers under which they are kept. -/
  accounts : List (AccountId × Account)
  profiles : List (AccountId × Profile)

namespace Store

def empty : Store := ⟨0, [], []⟩

instance : Inhabited Store := ⟨empty⟩

/-- The account kept under a number, usable or not. -/
def account? (s : Store) (id : AccountId) : Option Account := s.accounts.lookup id

/-- The account with a name, usable or not, and the number under which it is kept. -/
def named? (s : Store) (userName : UserName) : Option (AccountId × Account) :=
  s.accounts.find? (·.2.userName == userName)

/-- The usable account with a name. -/
def findByName (s : Store) (userName : UserName) : Option Account :=
  (s.accounts.find? fun e => e.2.userName == userName && e.2.isUsable).map (·.2)

/-- The usable account kept under a number. -/
def findById (s : Store) (id : AccountId) : Option Account := (s.account? id).filter (·.isUsable)

def profile? (s : Store) (id : AccountId) : Option Profile := s.profiles.lookup id

/-- Keeps an account under a number, in place of an earlier one. -/
def put (s : Store) (id : AccountId) (a : Account) : Store :=
  { s with accounts := s.accounts.filter (·.1 != id) ++ [(id, a)] }

/-- An entry with its account changed, if it is kept under a given number. -/
def changed (id : AccountId) (f : Account → Account) (e : AccountId × Account) :
    AccountId × Account :=
  if e.1 = id then (e.1, f e.2) else e

/-- Changes the account kept under a number. -/
def update (s : Store) (id : AccountId) (f : Account → Account) : Store :=
  { s with accounts := s.accounts.map (changed id f) }

/-- Keeps the profile of an account, if it has any detail, in place of an earlier one. -/
def setProfile (s : Store) (id : AccountId) (profile : Profile) : Store :=
  if profile.isEmpty then s
  else { s with profiles := (id, profile) :: s.profiles.filter (·.1 != id) }

/-- An account that has been given a new password and made usable. -/
def reactivated (a : Account) (passwordHash : String) (now : Time.Instant) : Account :=
  { a with passwordHash, isActive := true, isDeleted := false, updatedAt := now }

/-- An account that has been made inactive. -/
def deactivated (a : Account) (now : Time.Instant) : Account :=
  { a with isActive := false, updatedAt := now }

/-- A new account with a number. -/
def created (id : AccountId) (new : NewAccount) (now : Time.Instant) : Account where
  id := id
  userName := new.userName
  passwordHash := new.passwordHash
  isActive := true
  isDeleted := false
  createdAt := now
  updatedAt := now

def register (s : Store) (now : Time.Instant) (new : NewAccount) :
    Except StoreFault Account × Store :=
  match s.named? new.userName with
  | some (id, found) =>
    if found.isUsable then (.error (.alreadyExists new.userName.text), s)
    else
      let stored := reactivated found new.passwordHash now
      (.ok stored, (s.update id fun _ => stored).setProfile stored.id new.profile)
  | none =>
    let stored := created ⟨s.lastId + 1⟩ new now
    (.ok stored,
      (({ s with lastId := s.lastId + 1 } : Store).put stored.id stored).setProfile stored.id
        new.profile)

/-- Makes an account inactive at a time; says whether there is such an account. -/
def deactivate (s : Store) (now : Time.Instant) (id : AccountId) : Bool × Store :=
  match s.account? id with
  | none => (false, s)
  | some _ => (true, s.update id (deactivated · now))

/-- Answers a question at a time. -/
def answer (now : Time.Instant) (call : StoreCall) (s : Store) : call.Answer × Store :=
  match call with
  | .findByName userName => (some (.ok (s.findByName userName)), s)
  | .findById id => (some (.ok (s.findById id)), s)
  | .register new =>
    let (result, s) := s.register now new
    (some result, s)

end Store

end Accounts

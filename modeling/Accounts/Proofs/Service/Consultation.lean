import Accounts.Proofs.Database.Registration
import Accounts.Proofs.Service.Login
import Accounts.Proofs.Service.Refresh

/-!
# What the service asks of a store

The service works with any store: one that finds the wrong accounts, hands out accounts that cannot
be used, fails, or does not answer at all. Whatever the store does, an operation asks it for one
thing at most, and what is asked is settled before the store is asked. Nobody gets a token unless
the store's answer is an account that can be used.

* `plays_consult` — one question, and the result that follows from the answer.
* `loginCalls_of_plays`, `refreshCalls_of_plays`, `registerCalls_of_plays` — what each operation
  asks.
* `service_consults` — all three over one store.
-/

namespace Accounts

open Dialogue

/-- The questions that were put to a store, with its answers. -/
abbrev CallLog : Type := List (Exchange StoreCall.Answer)

/-- What a login asks, and what it answers. -/
structure LoginCalls (userName password : String) (log : CallLog)
    (response : Except Time.Overflow (Except AccountFault TokenPair)) : Prop where
  /-- Nothing is asked exactly if the request is said to be invalid. -/
  nothing_iff : log = [] ↔ ∃ detail, response = .ok (.error (.invalidRequest detail))
  /-- That is so exactly if the name is no mailbox or the password is empty. -/
  invalid_iff : log = [] ↔ (∀ name, UserName.ofText userName ≠ .ok name) ∨ password = ""
  /-- Otherwise the account with the name is asked for, once. -/
  once : log ≠ [] → ∃ name answer, UserName.ofText userName = .ok name ∧ name.text = userName ∧
    log = [⟨.findByName name, answer⟩]
  /-- Tokens are for those who know the password of the account that the store found, if it can be
  used. -/
  granted : ∀ pair, response = .ok (.ok pair) → ∃ name account,
    log = [⟨.findByName name, some (.ok (some account))⟩] ∧ account.isActive = true ∧
      account.isDeleted = false ∧ Password.verify password account.passwordHash = .ok true

/-- Whether a token is accepted as a refresh token and its subject is the number of an account. -/
def Presents (a : Authenticator) (now : Nat) (token : String) (id : AccountId) : Prop :=
  Text.isBlankText token = false ∧
    ∃ claims, a.validate now token .refresh = .ok claims ∧ AccountId.ofText claims.subject = .ok id

/-- What a refresh asks, and what it answers. -/
structure RefreshCalls (a : Authenticator) (now : Nat) (token : String) (log : CallLog)
    (response : Except Time.Overflow (Except AccountFault String)) : Prop where
  /-- The account that the token is about is asked for, once. -/
  once : ∀ id, Presents a now token id → 0 < id.value ∧ ∃ answer, log = [⟨.findById id, answer⟩]
  /-- For a token that is about no account nothing is asked. -/
  nothing : (∀ id, ¬ Presents a now token id) → log = []
  /-- A token is for an account that the store found and that can be used. -/
  granted : ∀ access, response = .ok (.ok access) → ∃ id account,
    log = [⟨.findById id, some (.ok (some account))⟩] ∧ account.isActive = true ∧
      account.isDeleted = false

/-- What a registration asks. -/
structure RegisterCalls (hasher : Password.Hasher) (salt : Password.Salt) (order : Registration)
    (log : CallLog) : Prop where
  /-- The store is asked once, with a hash that the password fits. -/
  once : ∀ hash, hasher.hash salt order.password = .ok hash →
    hasher.verify order.password hash = .ok true ∧
      ∃ answer, log = [⟨.register ⟨order.userName, hash, order.profile⟩, answer⟩]
  /-- Without a hash nothing is asked. -/
  nothing : ∀ fault, hasher.hash salt order.password = .error fault → log = []

namespace Service

variable {s : Service} {ambient : Ambient} {log : CallLog} {userName password token : String}

/-! ## One question -/

theorem plays_consult {α : Type} {call : StoreCall} {f : Except StoreFault call.Result → α}
    {result : α} :
    (s.consult call >>= fun found => pure (f found)).Plays log result ↔
      ∃ answer, log = [⟨call, answer⟩] ∧
        result = f (answer.getD (.error (.timeout s.lookupTimeout))) := by
  constructor
  · intro h
    cases h with
    | @ask _ _ answer _ _ h =>
      obtain ⟨rfl, rfl⟩ := plays_pure.1 h
      exact ⟨answer, rfl, rfl⟩
  · rintro ⟨answer, rfl, rfl⟩
    exact .ask (.done _)

/-! ## Logins -/

/-- A request is said to be invalid only before the store is asked. -/
theorem grant_ne_invalidRequest (found : Except StoreFault (Option Account)) (detail : String) :
    s.grant ambient password found ≠ .ok (.error (.invalidRequest detail)) := by
  unfold grant
  split
  · nofun
  split
  · nofun
  split
  · next hbroken =>
    obtain ⟨_, -, rfl⟩ := runBlocking_eq_error.1 hbroken
    nofun
  · intro h
    obtain ⟨_, -, h⟩ := Except.map_eq_ok.1 h
    cases h
  · nofun

theorem exists_found_of_grant {answer : Option (Except StoreFault (Option Account))}
    {fault : StoreFault} {pair : TokenPair}
    (h : s.grant ambient password (answer.getD (.error fault)) = .ok (.ok pair)) :
    ∃ account, answer = some (.ok (some account)) ∧ account.isActive = true ∧
      account.isDeleted = false ∧ Password.verify password account.passwordHash = .ok true := by
  match answer with
  | none => cases h
  | some (.error _) => cases h
  | some (.ok found) =>
    obtain ⟨account, rfl, husable, hverify, -⟩ := grant_eq_ok.1 h
    obtain ⟨hactive, hdeleted⟩ := Account.isUsable_eq_true.1 husable
    exact ⟨account, rfl, hactive, hdeleted, hverify⟩

theorem loginCalls_of_plays
    {response : Except Time.Overflow (Except AccountFault TokenPair)}
    (h : (s.authenticate ambient userName password).Plays log response) :
    LoginCalls userName password log response := by
  rw [authenticate] at h
  cases hc : Credentials.ofTexts userName password with
  | error fault =>
    rw [hc] at h
    obtain ⟨rfl, rfl⟩ := plays_pure.1 h
    have hinvalid : (∀ name, UserName.ofText userName ≠ .ok name) ∨ password = "" := by
      by_contra hvalid
      rw [not_or, not_forall] at hvalid
      obtain ⟨⟨name, hname⟩, hpassword⟩ := hvalid
      have hvalid : Credentials.ofTexts userName password = .ok ⟨name, password, hpassword⟩ :=
        Credentials.ofTexts_eq_ok.2 ⟨not_not.1 hname, hpassword, rfl⟩
      rw [hc] at hvalid
      cases hvalid
    exact {
      nothing_iff := ⟨fun _ => ⟨_, rfl⟩, fun _ => rfl⟩
      invalid_iff := ⟨fun _ => hinvalid, fun _ => rfl⟩
      once := fun hasked => absurd rfl hasked
      granted := fun pair hpair => by cases hpair }
  | ok credentials =>
    rw [hc] at h
    obtain ⟨answer, rfl, rfl⟩ := plays_consult.1 h
    obtain ⟨hname, hpassword, hgiven⟩ := Credentials.ofTexts_eq_ok.1 hc
    exact {
      nothing_iff := by
        refine ⟨fun hnil => absurd hnil (List.cons_ne_nil _ _), ?_⟩
        rintro ⟨detail, hdetail⟩
        exact absurd hdetail (grant_ne_invalidRequest _ detail)
      invalid_iff := by
        refine ⟨fun hnil => absurd hnil (List.cons_ne_nil _ _), ?_⟩
        rintro (hnone | hempty)
        · exact absurd hname (hnone _)
        · exact absurd hempty hpassword
      once := fun _ => ⟨_, answer, hname, Database.text_of_ofText hname, rfl⟩
      granted := by
        intro pair hpair
        obtain ⟨account, rfl, hactive, hdeleted, hverify⟩ := exists_found_of_grant hpair
        exact ⟨_, account, rfl, hactive, hdeleted, hgiven ▸ hverify⟩ }

/-! ## Refreshes -/

theorem exists_found_of_renew {answer : Option (Except StoreFault (Option Account))}
    {fault : StoreFault} {access : String}
    (h : s.renew ambient (answer.getD (.error fault)) = .ok (.ok access)) :
    ∃ account, answer = some (.ok (some account)) ∧ account.isActive = true ∧
      account.isDeleted = false := by
  match answer with
  | none => cases h
  | some (.error _) => cases h
  | some (.ok found) =>
    simp only [renew, Option.getD_some] at h
    split at h
    · cases h
    · next account hfound =>
      obtain ⟨rfl, husable⟩ := Option.filter_eq_some_iff.1 hfound
      exact ⟨account, rfl, Account.isUsable_eq_true.1 husable⟩

theorem presents_iff {now : Nat} {id : AccountId} :
    Presents s.authenticator now token id ↔
      Text.isBlankText token = false ∧ s.refreshedAccount now token = .ok id := by
  rw [refreshedAccount_eq_ok]
  rfl

theorem refreshCalls_of_plays
    {response : Except Time.Overflow (Except AccountFault String)}
    (h : (s.refresh ambient token).Plays log response) :
    RefreshCalls s.authenticator ambient.now token log response := by
  rw [refresh] at h
  split at h
  · next hblank =>
    obtain ⟨rfl, rfl⟩ := plays_pure.1 h
    refine ⟨fun id hid => ?_, fun _ => rfl, fun access haccess => by cases haccess⟩
    rw [hid.1] at hblank
    cases hblank
  next hblank =>
  split at h
  · next fault haccount =>
    obtain ⟨rfl, rfl⟩ := plays_pure.1 h
    refine ⟨fun id hid => ?_, fun _ => rfl, fun access haccess => by cases haccess⟩
    rw [(presents_iff.1 hid).2] at haccount
    cases haccount
  · next id haccount =>
    obtain ⟨answer, rfl, rfl⟩ := plays_consult.1 h
    have hid : Presents s.authenticator ambient.now token id :=
      presents_iff.2 ⟨Bool.eq_false_iff.2 hblank, haccount⟩
    refine ⟨fun other hother => ?_, fun hnone => absurd hid (hnone id), fun access haccess => ?_⟩
    · rw [(presents_iff.1 hother).2] at haccount
      cases haccount
      obtain ⟨_, -, hsubject⟩ := hother.2
      exact ⟨(AccountId.ofText_eq_ok.1 hsubject).2.1, answer, rfl⟩
    · obtain ⟨account, rfl, hactive, hdeleted⟩ := exists_found_of_renew haccess
      exact ⟨id, account, rfl, hactive, hdeleted⟩

/-! ## Registrations -/

theorem registerCalls_of_plays {order : Registration} {response : Except AccountFault Account}
    (hmade : s.authenticator.hasher.Made) (h : (s.register ambient order).Plays log response) :
    RegisterCalls s.authenticator.hasher ambient.salt order log := by
  rw [register, runBlocking_ok] at h
  cases hhash : s.authenticator.hasher.hash ambient.salt order.password with
  | error fault =>
    rw [hhash] at h
    obtain ⟨rfl, -⟩ := plays_pure.1 h
    exact ⟨fun hash hok => (by rw [hhash] at hok; cases hok), fun _ _ => rfl⟩
  | ok text =>
    rw [hhash] at h
    obtain ⟨answer, rfl, -⟩ := plays_consult.1 h
    obtain ⟨cost, hcost⟩ := hmade.exists_cost
    refine ⟨fun hash hok => ?_, fun fault hfault => ?_⟩
    · rw [hhash] at hok
      cases hok
      exact ⟨(Password.verify_hash_eq_true hcost hhash).2 rfl, answer, rfl⟩
    · rw [hhash] at hfault
      cases hfault

end Service

/-! ## Over any store -/

/-- **The service over any store**, however it answers and whatever state it keeps. A login asks for
the account with the name, once, unless the name is no mailbox or the password is empty; then, and
only then, the request is said to be invalid. A refresh asks for the account that the token is
about, once, if the token is a refresh token about an account, and for nothing otherwise. A
registration asks once, with a hash that the password fits, unless there is no hash. Tokens are
given out only if the answer was an account that is active and not deleted; at a login its hash also
has to fit the password. -/
theorem service_consults {settings : AuthSettings} {a : Authenticator}
    (hsettings : Authenticator.ofSettings settings = .ok a) (lookupTimeout : Nat)
    (ambient : Ambient) {σ : Type} (answer : (call : StoreCall) → σ → call.Answer × σ) (state : σ) :
    let s : Service := ⟨a, lookupTimeout⟩
    (∀ userName password,
      LoginCalls userName password
        ((s.authenticate ambient userName password).exchanges answer state)
        ((s.authenticate ambient userName password).runWith answer state).1) ∧
    (∀ token,
      RefreshCalls a ambient.now token ((s.refresh ambient token).exchanges answer state)
        ((s.refresh ambient token).runWith answer state).1) ∧
    ∀ order,
      RegisterCalls a.hasher ambient.salt order
        ((s.register ambient order).exchanges answer state) := by
  intro s
  obtain ⟨-, hhasher, -⟩ := Authenticator.ofSettings_eq_ok.1 hsettings
  refine ⟨fun userName password => ?_, fun token => ?_, fun order => ?_⟩
  · exact Service.loginCalls_of_plays (s := s) (plays_exchanges answer _ state)
  · exact Service.refreshCalls_of_plays (s := s) (plays_exchanges answer _ state)
  · exact Service.registerCalls_of_plays (s := s) (.inr ⟨_, hhasher⟩)
      (plays_exchanges answer _ state)

/-- A store that finds an account which is not active: it is asked once, and there are no tokens,
though the password fits. -/
theorem service_consults_inactive :
    ∃ (settings : AuthSettings) (a : Authenticator) (ambient : Ambient) (account : Account),
      Authenticator.ofSettings settings = .ok a ∧
      a.hasher.verify "secret" account.passwordHash = .ok true ∧ account.isActive = false ∧
      let login := (Service.mk a 0).authenticate ambient "a@b" "secret"
      let reply : (call : StoreCall) → call.Answer
        | .findByName _ => some (.ok (some account))
        | .findById _ => some (.ok (some account))
        | .register _ => some (.ok account)
      let store := fun call (state : Unit) => (reply call, state)
      (∃ name answer, login.exchanges store () = [⟨.findByName name, answer⟩]) ∧
      ∀ pair, (login.runWith store ()).1 ≠ .ok (.ok pair) := by
  let settings : AuthSettings :=
    ⟨"access", "refresh", "cursor", "issuer", .ofSeconds 900, .ofSeconds 900, ⟨8, 1, 1, 32⟩⟩
  let order : Registration := ⟨⟨⟨"a@b", rfl⟩⟩, "secret", .empty, by decide⟩
  let stamp : Token.Stamp := ⟨⟨0⟩, ⟨0⟩, ⟨List.replicate 16 0, rfl⟩⟩
  let ambient : Ambient := ⟨0, ⟨List.replicate 16 0, rfl⟩, stamp, stamp, .wrapping⟩
  obtain ⟨a, ha⟩ : ∃ a, Authenticator.ofSettings settings = .ok a := ⟨_, rfl⟩
  obtain ⟨-, hhasher, -⟩ := Authenticator.ofSettings_eq_ok.1 ha
  obtain ⟨-, -, hcost⟩ := Password.Hasher.ofCost_eq_ok.1 hhasher
  obtain ⟨hash, hhash⟩ : ∃ hash, a.hasher.hash ambient.salt order.password = .ok hash :=
    Password.Hasher.exists_hash (hcost ▸ rfl) (by decide) _
  let account : Account := ⟨⟨1⟩, order.userName, hash, false, false, ⟨0⟩, ⟨0⟩⟩
  let reply : (call : StoreCall) → call.Answer
    | .findByName _ => some (.ok (some account))
    | .findById _ => some (.ok (some account))
    | .register _ => some (.ok account)
  obtain ⟨hlogin, -, hregister⟩ :=
    service_consults ha 0 ambient (fun call (state : Unit) => (reply call, state)) ()
  have hlog := hlogin "a@b" "secret"
  have hname : UserName.ofText "a@b" = .ok order.userName := rfl
  have hasked := mt hlog.invalid_iff.1 (not_or.2 ⟨fun hnone => hnone _ hname, by decide⟩)
  obtain ⟨name, answer, -, -, honce⟩ := hlog.once hasked
  refine ⟨settings, a, ambient, account, ha, ((hregister order).once hash hhash).1, rfl,
    ⟨name, answer, honce⟩, fun pair hpair => ?_⟩
  obtain ⟨name', found, hfound, hactive, -⟩ := hlog.granted pair hpair
  have hreply := answer_of_mem_exchanges reply (hfound ▸ List.mem_singleton_self _)
  cases hreply
  cases hactive

end Accounts

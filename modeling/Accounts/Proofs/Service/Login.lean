import Accounts.Proofs.Password.RoundTrip
import Accounts.Proofs.Password.Verification
import Accounts.Proofs.Service.Ledger
import Accounts.Proofs.Token.Issue

/-!
# Login over whole runs

The store mirrors the ledger of its history: every name has an account exactly if the ledger has an
entry, with a hash of the password that was registered last. So whoever knows that password gets in,
until the account is deactivated, and nobody else does.

* `Mirrors` — how a store and a history fit together.
* `mirrors_run` — they fit after every run.
* `login_iff_last` — who gets in.
* `login_over_runs` — logins after any run.
-/

namespace Accounts

/-! ## Credentials -/

theorem Credentials.ofTexts_eq_ok {userName password : String} {c : Credentials} :
    Credentials.ofTexts userName password = .ok c ↔
      UserName.ofText userName = .ok c.userName ∧ password ≠ "" ∧ c.password = password := by
  rw [ofTexts, Except.bind_eq_ok]
  simp only [Except.mapError_eq_ok]
  constructor
  · rintro ⟨name, hname, h⟩
    split at h
    · cases h
    · next hpassword =>
      cases h
      exact ⟨hname, hpassword, rfl⟩
  · rintro ⟨hname, hpassword, rfl⟩
    exact ⟨c.userName, hname, by rw [dif_neg hpassword]; rfl⟩

/-! ## The store mirrors the ledger -/

/-- An entry of a store that holds what an entry of a ledger says. -/
structure Holds (h : Password.Hasher) (kept : AccountId × Account) (entry : Entry) : Prop where
  id : kept.1 = entry.id
  hash : h.hash entry.salt entry.password = .ok kept.2.passwordHash
  isUsable : kept.2.isUsable = entry.isActive

theorem Holds.deactivated {h : Password.Hasher} {kept : AccountId × Account} {entry : Entry}
    (hkept : Holds h kept entry) (now : Time.Instant) (id : AccountId) (found : Bool) :
    Holds h (Store.changed id (Store.deactivated · now) kept)
      ((Event.deactivated id found).touch entry) := by
  have hid := hkept.id
  by_cases heq : kept.1 = id
  · have hentry : id = entry.id := heq.symm.trans hid
    rw [Store.changed, if_pos heq, Event.touch, Event.deactivates, if_pos (decide_eq_true hentry)]
    exact ⟨hid, hkept.hash, rfl⟩
  · have hentry : ¬ id = entry.id := fun he => heq (hid.trans he.symm)
    rw [Store.changed_of_ne heq, Event.touch, Event.deactivates, if_neg (by simpa using hentry)]
    exact hkept

/-- A store that holds what a history says. -/
structure Mirrors (h : Password.Hasher) (store : Store) (history : List Event) : Prop where
  entries : ∀ name, Option.Rel (Holds h) (store.named? name) (ledger name history)
  ids : ∀ name, (store.named? name).map (·.1) = firstId? name history

namespace Mirrors

variable {h : Password.Hasher} {store : Store} {history : List Event}

theorem start : Mirrors h .empty [] := ⟨fun _ => .none, fun _ => rfl⟩

theorem exists_entry (hm : Mirrors h store history) {name : UserName} {e : AccountId × Account}
    (hnamed : store.named? name = some e) :
    ∃ entry, ledger name history = some entry ∧ Holds h e entry := by
  have hrel := hm.entries name
  rw [hnamed] at hrel
  generalize ledger name history = entry? at hrel ⊢
  cases hrel with
  | some hkept => exact ⟨_, rfl, hkept⟩

theorem exists_named (hm : Mirrors h store history) {name : UserName} {entry : Entry}
    (hentry : ledger name history = some entry) :
    ∃ e, store.named? name = some e ∧ Holds h e entry := by
  have hrel := hm.entries name
  rw [hentry] at hrel
  generalize store.named? name = kept? at hrel ⊢
  cases hrel with
  | some hkept => exact ⟨_, rfl, hkept⟩

theorem firstId?_eq_some (hm : Mirrors h store history) {name : UserName} {entry : Entry}
    (hentry : ledger name history = some entry) : firstId? name history = some entry.id := by
  obtain ⟨e, hnamed, hholds⟩ := hm.exists_named hentry
  rw [← hm.ids name, hnamed, Option.map_some, hholds.id]

/-- Events that register nothing and deactivate nothing do not count. -/
theorem quiet {event : Event} (hm : Mirrors h store history)
    (hentry : ∀ name, event.entry? name = none) (htouch : ∀ id, event.deactivates id = false) :
    Mirrors h store (history ++ [event]) := by
  constructor
  · intro name
    rw [ledger_append, hentry, Option.none_or, Event.touch_eq_id htouch, Option.map_id]
    exact hm.entries name
  · intro name
    rw [firstId?_append, hentry, Option.map_none, Option.or_none]
    exact hm.ids name

theorem accepted {ambient : Ambient} {order : Registration} {passwordHash : String}
    {stored : Account} {store' : Store} (hm : Mirrors h store history)
    (hhash : h.hash ambient.salt order.password = .ok passwordHash)
    (ha : store.Accepted ⟨order.userName, passwordHash, order.profile⟩ stored store') :
    Mirrors h store' (history ++ [.returned ambient (.register order) (.ok stored)]) := by
  constructor
  · intro name
    rw [ledger_append, ha.named?]
    by_cases hname : name = order.userName
    · subst hname
      simp only [Event.entry?, if_true, Option.some_or]
      exact .some ⟨rfl, ha.passwordHash ▸ hhash, ha.isUsable⟩
    · rw [if_neg hname]
      simp only [Event.entry?, if_neg (Ne.symm hname), Option.none_or]
      rw [Event.touch_eq_id fun _ => rfl, Option.map_id]
      exact hm.entries name
  · intro name
    rw [firstId?_append, ha.named?]
    by_cases hname : name = order.userName
    · subst hname
      simp only [Event.entry?, if_true, Option.map_some]
      rw [← hm.ids]
      cases hnamed : store.named? order.userName with
      | none => rfl
      | some e => exact congrArg some (ha.earlier e hnamed).1.symm
    · rw [if_neg hname, hm.ids]
      simp only [Event.entry?, if_neg (Ne.symm hname), Option.map_none, Option.or_none]

theorem deactivated (hm : Mirrors h store history) (now : Time.Instant)
    (id : AccountId) (found : Bool) :
    Mirrors h (store.deactivate now id).2 (history ++ [.deactivated id found]) := by
  have hnamed := Store.named?_update (store.keeps_deactivated id now)
  rw [Store.deactivate_eq]
  constructor
  · intro name
    rw [ledger_append, hnamed]
    have hrel := hm.entries name
    show Option.Rel _ _ (Option.map _ _)
    generalize store.named? name = kept?, ledger name history = entry? at hrel ⊢
    cases hrel with
    | none => exact .none
    | some hkept => exact .some (hkept.deactivated now id found)
  · intro name
    rw [firstId?_append, hnamed, ← hm.ids, Option.map_map]
    cases store.named? name with
    | none => rfl
    | some e => exact congrArg some (Store.changed_fst _ _ _)

/-- An operation that returns keeps the store and its history together. -/
theorem returned {s : Service} (hm : Mirrors s.authenticator.hasher store history)
    (hk : store.WellKept) (ambient : Ambient) (now : Time.Instant) (request : Request) :
    Mirrors s.authenticator.hasher (s.alone ambient now request store).2
      (history ++ [.returned ambient request (s.alone ambient now request store).1]) := by
  cases request with
  | login userName password =>
    rw [Service.alone_login]
    exact hm.quiet (fun _ => rfl) fun _ => rfl
  | refresh token =>
    rw [Service.alone_refresh]
    exact hm.quiet (fun _ => rfl) fun _ => rfl
  | register order =>
    cases hhash : s.authenticator.hasher.hash ambient.salt order.password with
    | error fault =>
      rw [Service.alone_register_of_error hhash]
      exact hm.quiet (fun _ => rfl) fun _ => rfl
    | ok passwordHash =>
      rw [Service.alone_register_of_ok hhash]
      rcases Store.register_cases hk now ⟨order.userName, passwordHash, order.profile⟩ with
        ⟨_, -, -, heq⟩ | ⟨stored, store', heq, haccepted⟩
      · rw [heq]
        exact hm.quiet (fun _ => rfl) fun _ => rfl
      · rw [heq]
        exact hm.accepted hhash haccepted

end Mirrors

/-- **After every run** the store holds what the history says. -/
theorem mirrors_run (s : Service) (acts : List Act) :
    Mirrors s.authenticator.hasher (System.run s acts).store (System.run s acts).history :=
  System.run_induction s .start
    (fun _ _ ambient now request hk hm => hm.returned hk ambient now request)
    (fun _ _ now id _ hm => hm.deactivated now id _) acts

/-! ## Who gets in -/

theorem Service.runBlocking_eq_error {α : Type} {task : Except Breakdown α} {fault : AccountFault} :
    runBlocking task = .error fault ↔ ∃ report, task = .error ⟨report⟩ ∧
      fault = .internal ("Blocking task failed: " ++ report) := by
  cases task with
  | error breakdown =>
    constructor
    · intro h
      cases h
      exact ⟨_, rfl, rfl⟩
    · rintro ⟨report, ⟨⟩, rfl⟩
      rfl
  | ok a => exact ⟨nofun, nofun⟩

theorem Service.grant_eq_ok {s : Service} {ambient : Ambient} {password : String}
    {found : Option Account} {pair : TokenPair} :
    s.grant ambient password (.ok found) = .ok (.ok pair) ↔
      ∃ account, found = some account ∧ account.isUsable = true ∧
        Password.verify password account.passwordHash = .ok true ∧
        s.authenticator.issuePair ambient.access ambient.refresh account.id.text = .ok pair := by
  constructor
  · intro h
    simp only [grant] at h
    split at h
    · cases h
    next account hfound =>
    obtain ⟨rfl, husable⟩ := Option.filter_eq_some_iff.1 hfound
    split at h
    · cases h
    · next hverify =>
      obtain ⟨_, hpair, h⟩ := Except.map_eq_ok.1 h
      cases h
      exact ⟨account, rfl, husable,
        Password.verifyUnder_eq_ok.1 (Except.mapError_eq_ok.1 hverify), hpair⟩
    · cases h
  · rintro ⟨account, rfl, husable, hverify, hpair⟩
    simp only [grant, Option.filter, husable, if_true, Password.verifyUnder_eq_ok.2 hverify,
      runBlocking_ok, hpair]
    rfl

section

variable {s : Service} {store : Store} {history : List Event} {ambient : Ambient}
  {u p : String} {pair : TokenPair}

/-- Who gets in, by what the ledger says about the name. -/
theorem login_eq_ok {cost : Password.Cost} (hk : store.WellKept)
    (hm : Mirrors s.authenticator.hasher store history)
    (hcost : Password.Hasher.ofCost cost = .ok s.authenticator.hasher) (now : Time.Instant) :
    (s.alone ambient now (.login u p) store).1 = .ok (.ok pair) ↔
      ∃ name entry, UserName.ofText u = .ok name ∧ p ≠ "" ∧ ledger name history = some entry ∧
        entry.isActive = true ∧
        s.authenticator.hasher.key entry.salt p =
          s.authenticator.hasher.key entry.salt entry.password ∧
        s.authenticator.issuePair ambient.access ambient.refresh entry.id.text = .ok pair := by
  rw [Service.alone_login]
  constructor
  · intro h
    cases hc : Credentials.ofTexts u p with
    | error fault =>
      rw [hc] at h
      cases h
    | ok c =>
      obtain ⟨hname, hpassword, rfl⟩ := Credentials.ofTexts_eq_ok.1 hc
      simp only [hc] at h
      obtain ⟨account, hfound, husable, hverify, hpair⟩ := Service.grant_eq_ok.1 h
      rw [Store.findByName_eq hk] at hfound
      obtain ⟨hfound, -⟩ := Option.filter_eq_some_iff.1 hfound
      obtain ⟨e, hnamed, rfl⟩ := Option.map_eq_some_iff.1 hfound
      obtain ⟨entry, hentry, hholds⟩ := hm.exists_entry hnamed
      have hid : e.2.id = entry.id := (hk.id_eq e (Store.mem_of_named? hnamed).1).trans hholds.id
      exact ⟨c.userName, entry, hname, hpassword, hentry, hholds.isUsable.symm.trans husable,
        (Password.verify_hash_eq_true hcost hholds.hash).1 hverify, hid ▸ hpair⟩
  · rintro ⟨name, entry, hname, hpassword, hentry, hactive, hkey, hpair⟩
    have hc : Credentials.ofTexts u p = .ok ⟨name, p, hpassword⟩ :=
      Credentials.ofTexts_eq_ok.2 ⟨hname, hpassword, rfl⟩
    obtain ⟨e, hnamed, hholds⟩ := hm.exists_named hentry
    have hid : e.2.id = entry.id := (hk.id_eq e (Store.mem_of_named? hnamed).1).trans hholds.id
    have husable : e.2.isUsable = true := hholds.isUsable.trans hactive
    have hfound : store.findByName name = some e.2 := by
      rw [Store.findByName_eq hk, hnamed]
      exact Option.filter_eq_some_iff.2 ⟨rfl, husable⟩
    simp only [hc, hfound]
    exact Service.grant_eq_ok.2 ⟨e.2, rfl, husable,
      (Password.verify_hash_eq_true hcost hholds.hash).2 hkey, hid ▸ hpair⟩

/-- Who gets in, by the last registration of the name, if tokens can be issued at all. -/
theorem login_iff_last {cost : Password.Cost} (hk : store.WellKept)
    (hm : Mirrors s.authenticator.hasher store history)
    (hcost : Password.Hasher.ofCost cost = .ok s.authenticator.hasher)
    (hissue : ∀ subject, ∃ pair,
      s.authenticator.issuePair ambient.access ambient.refresh subject = .ok pair)
    (now : Time.Instant) :
    (∃ pair, (s.alone ambient now (.login u p) store).1 = .ok (.ok pair)) ↔
      ∃ name salt password id after, UserName.ofText u = .ok name ∧ p ≠ "" ∧
        Last history name salt password id after ∧
        (∀ event ∈ after, event.deactivates id = false) ∧
        s.authenticator.hasher.key salt p = s.authenticator.hasher.key salt password := by
  simp only [login_eq_ok hk hm hcost]
  constructor
  · rintro ⟨pair, name, entry, hname, hp, hentry, hactive, hkey, -⟩
    obtain ⟨after, hlast, hafter⟩ := exists_last_of_active hentry hactive
    exact ⟨name, entry.salt, entry.password, entry.id, after, hname, hp, hlast, hafter, hkey⟩
  · rintro ⟨name, salt, password, id, after, hname, hp, hlast, hafter, hkey⟩
    obtain ⟨pair, hpair⟩ := hissue id.text
    exact ⟨pair, name, _, hname, hp, ledger_of_last_active hlast hafter, rfl, hkey, hpair⟩

/-- Both tokens are about the account that the name got first. -/
theorem login_subjects {cost : Password.Cost} (hk : store.WellKept)
    (hm : Mirrors s.authenticator.hasher store history)
    (hcost : Password.Hasher.ofCost cost = .ok s.authenticator.hasher) {now : Time.Instant}
    (h : (s.alone ambient now (.login u p) store).1 = .ok (.ok pair)) :
    ∃ name id access refresh, UserName.ofText u = .ok name ∧ firstId? name history = some id ∧
      Token.saying pair.access = .ok access ∧ access.subject = id.text ∧
      Token.saying pair.refresh = .ok refresh ∧ refresh.subject = id.text := by
  obtain ⟨name, entry, hname, -, hentry, -, -, hissued⟩ := (login_eq_ok hk hm hcost now).1 h
  obtain ⟨hissued, hissued'⟩ := Authenticator.issuePair_eq_ok.1 hissued
  obtain ⟨_, -, htoken⟩ := Token.issue_eq_ok.1 hissued
  obtain ⟨_, -, htoken'⟩ := Token.issue_eq_ok.1 hissued'
  rw [htoken, htoken']
  exact ⟨name, entry.id, _, _, hname, hm.firstId?_eq_some hentry, Token.saying_sign _ _, rfl,
    Token.saying_sign _ _, rfl⟩

end

theorem Last.unique {history after after' : List Event} {name : UserName}
    {salt salt' : Password.Salt} {password password' : String} {id id' : AccountId}
    (h : Last history name salt password id after)
    (h' : Last history name salt' password' id' after') :
    salt = salt' ∧ password = password' := by
  have hsome := (ledger_of_last h).symm.trans (ledger_of_last h')
  simp only [Option.some.injEq, Entry.mk.injEq] at hsome
  exact ⟨hsome.2.1, hsome.2.2.1⟩

theorem Last.password_ne_empty {history after : List Event} {name : UserName}
    {salt : Password.Salt} {password : String} {id : AccountId}
    (h : Last history name salt password id after) : password ≠ "" := by
  obtain ⟨_, _, order, _, -, -, -, rfl, -⟩ := h
  exact order.password_ne_empty

/-- A registration that was refused because of an account with the name has changed nothing. -/
theorem store_of_refused {s : Service} {acts : List Act} {act : Act} {ambient : Ambient}
    {order : Registration}
    (h : (System.run s (acts ++ [act])).history = (System.run s acts).history ++
      [.returned ambient (.register order) (.error (.invalidRequest "user existed"))]) :
    (System.run s (acts ++ [act])).store = (System.run s acts).store := by
  rw [System.run_append] at h ⊢
  rcases System.step_cases (System.sound_run s acts) act with
    ⟨hstore, -⟩ | ⟨now, ambient', request, response, halone, hhistory⟩ | ⟨_, _, _, -, hhistory⟩
  · exact hstore
  · have hevent := List.append_cancel_left (hhistory.symm.trans h)
    cases hevent
    cases hhash : s.authenticator.hasher.hash ambient.salt order.password with
    | error fault =>
      rw [Service.alone_register_of_error hhash] at halone
      exact (Prod.mk.inj halone).2.symm
    | ok passwordHash =>
      rw [Service.alone_register_of_ok hhash] at halone
      rcases Store.register_cases (System.wellKept_run s acts) now
        ⟨order.userName, passwordHash, order.profile⟩ with ⟨_, -, -, heq⟩ | ⟨_, _, heq, -⟩
      · rw [heq] at halone
        exact (Prod.mk.inj halone).2.symm
      · rw [heq] at halone
        cases (Prod.mk.inj halone).1
  · cases List.append_cancel_left (hhistory.symm.trans h)

/-- **Login over whole runs.** Callers register and log in and refresh in any interleaving, accounts
are deactivated in between, and then someone tries to log in.

They get in exactly if the name is one, the password is not empty, the name has been registered, its
account has not been deactivated since the last registration, and both passwords have the same key.
So the password of the last registration is good and one with another key is not; a registration
that is refused changes nothing; and both tokens are about the account that the name got first. -/
theorem login_over_runs {settings : AuthSettings} {a : Authenticator}
    {accessEnd refreshEnd : Time.Instant} (hsettings : Authenticator.ofSettings settings = .ok a)
    (lookupTimeout : Nat) (acts : List Act) (ambient : Ambient) (now : Time.Instant)
    (u p : String)
    (haccess : ambient.access.expiryClock.add settings.accessLifetime = .ok accessEnd)
    (hrefresh : ambient.refresh.expiryClock.add settings.refreshLifetime = .ok refreshEnd) :
    let s : Service := ⟨a, lookupTimeout⟩
    let y := System.run s acts
    let login := ((s.authenticate ambient u p).runWith (Store.answer now) y.store).1
    ((∃ pair, login = .ok (.ok pair)) ↔
      ∃ name salt password id after, UserName.ofText u = .ok name ∧ p ≠ "" ∧
        Last y.history name salt password id after ∧
        (∀ event ∈ after, event.deactivates id = false) ∧
        a.hasher.key salt p = a.hasher.key salt password) ∧
    (∀ name salt password id after, UserName.ofText u = .ok name →
      Last y.history name salt password id after →
      ((∀ event ∈ after, event.deactivates id = false) → p = password →
        ∃ pair, login = .ok (.ok pair)) ∧
      (a.hasher.key salt p ≠ a.hasher.key salt password → ∀ pair, login ≠ .ok (.ok pair))) ∧
    (∀ act caller order, (System.run s (acts ++ [act])).history = y.history ++
        [.returned caller (.register order) (.error (.invalidRequest "user existed"))] →
      (System.run s (acts ++ [act])).store = y.store) ∧
    ∀ pair, login = .ok (.ok pair) → ∃ name id access refresh, UserName.ofText u = .ok name ∧
      firstId? name y.history = some id ∧
      Token.saying pair.access = .ok access ∧ access.subject = id.text ∧
      Token.saying pair.refresh = .ok refresh ∧ refresh.subject = id.text := by
  intro s y login
  obtain ⟨-, hhasher, -, hlife, hlife'⟩ := Authenticator.ofSettings_eq_ok.1 hsettings
  have hk : y.store.WellKept := System.wellKept_run s acts
  have hm : Mirrors a.hasher y.store y.history := mirrors_run s acts
  have hissue : ∀ subject,
      ∃ pair, a.issuePair ambient.access ambient.refresh subject = .ok pair := by
    intro subject
    have hissue : a.issueAccess ambient.access subject = .ok _ :=
      Token.issue_eq_ok.2 ⟨accessEnd, hlife ▸ haccess, rfl⟩
    have hissue' : a.issueRefresh ambient.refresh subject = .ok _ :=
      Token.issue_eq_ok.2 ⟨refreshEnd, hlife' ▸ hrefresh, rfl⟩
    exact ⟨⟨_, _⟩, Authenticator.issuePair_eq_ok.2 ⟨hissue, hissue'⟩⟩
  have hiff : (∃ pair, login = .ok (.ok pair)) ↔ _ :=
    login_iff_last (s := s) (u := u) (p := p) hk hm hhasher hissue now
  refine ⟨hiff, ?_, ?_, ?_⟩
  · intro name salt password id after hname hlast
    constructor
    · intro hafter hp
      subst hp
      exact hiff.2 ⟨name, salt, p, id, after, hname, hlast.password_ne_empty, hlast, hafter, rfl⟩
    · intro hkey pair hpair
      obtain ⟨name', salt', password', id', after', hname', -, hlast', -, hkey'⟩ :=
        hiff.1 ⟨pair, hpair⟩
      cases hname.symm.trans hname'
      obtain ⟨rfl, rfl⟩ := hlast.unique hlast'
      exact hkey hkey'
  · intro act caller order hrefused
    exact store_of_refused hrefused
  · intro pair hpair
    exact login_subjects (s := s) hk hm hhasher hpair

/-- Someone registers, and gets in with their password. -/
theorem login_over_runs_registered :
    ∃ settings a ambient order pair, Authenticator.ofSettings settings = .ok a ∧
      order.password = "secret" ∧
      (((⟨a, 0⟩ : Service).authenticate ambient "a@b" "secret").runWith (Store.answer ⟨0⟩)
        (System.run ⟨a, 0⟩ [.enter ambient (.register order), .serve 0 ⟨0⟩]).store).1 =
          .ok (.ok pair) := by
  let settings : AuthSettings :=
    ⟨"access", "refresh", "cursor", "issuer", .ofSeconds 900, .ofSeconds 900, ⟨8, 1, 1, 32⟩⟩
  let name : UserName := ⟨⟨"a@b", rfl⟩⟩
  let order : Registration := ⟨name, "secret", .empty, by decide⟩
  let stamp : Token.Stamp := ⟨⟨0⟩, ⟨0⟩, ⟨List.replicate 16 0, rfl⟩⟩
  let ambient : Ambient := ⟨0, ⟨List.replicate 16 0, rfl⟩, stamp, stamp, .wrapping⟩
  obtain ⟨a, ha⟩ : ∃ a, Authenticator.ofSettings settings = .ok a := ⟨_, rfl⟩
  obtain ⟨-, hhasher, -⟩ := Authenticator.ofSettings_eq_ok.1 ha
  obtain ⟨-, -, hcost⟩ := Password.Hasher.ofCost_eq_ok.1 hhasher
  obtain ⟨text, htext⟩ : ∃ text, a.hasher.hash ambient.salt order.password = .ok text :=
    Password.Hasher.exists_hash (hcost ▸ rfl) (by decide) _
  let s : Service := ⟨a, 0⟩
  let acts : List Act := [.enter ambient (.register order), .serve 0 ⟨0⟩]
  have hhistory : (System.run s acts).history = [.returned ambient (.register order)
      (.ok (Store.created ⟨1⟩ ⟨name, text, .empty⟩ ⟨0⟩))] := by
    rw [System.run_register (s := s) htext]
    rfl
  have hlast : Last (System.run s acts).history name ambient.salt "secret" ⟨1⟩ [] :=
    ⟨[], ambient, order, _, hhistory, rfl, rfl, rfl, rfl, fun _ he => absurd he List.not_mem_nil⟩
  have hlogin := login_over_runs ha 0 acts ambient ⟨0⟩ "a@b" "secret" rfl rfl
  obtain ⟨pair, hpair⟩ := (hlogin.2.1 name ambient.salt "secret" ⟨1⟩ [] rfl hlast).1
    (fun _ he => absurd he List.not_mem_nil) rfl
  exact ⟨settings, a, ambient, order, pair, ha, rfl, hpair⟩

end Accounts

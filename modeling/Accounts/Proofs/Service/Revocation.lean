import Accounts.Proofs.Service.Login
import Accounts.Proofs.Service.Refresh

/-!
# Refresh tokens after a deactivation

A refresh token carries the number of its account, and nothing in it tells when it was given out.
While the account is inactive the token is not exchanged. When the name is registered again the
account is the same, under the same number, and the token is as good as it was.

* `exists_store_of_returned` — what an operation gave back in a run, it gave back over a store that
  holds what the history before it says.
* `isActive_iff_registeredSince` — what the ledger says after a deactivation.
* `exchanged_iff_registeredSince` — when a token from before a deactivation is exchanged.
* `not_revoked_for_good` — a token from before a deactivation that is exchanged after it.
-/

namespace Accounts

/-- Whether events register a name, and none after that deactivates the account with a number. -/
def RegisteredSince (name : UserName) (id : AccountId) (events : List Event) : Prop :=
  ∃ earlier event later, events = earlier ++ event :: later ∧ (event.entry? name).isSome = true ∧
    ∀ e ∈ later, e.deactivates id = false

variable {name : UserName} {id : AccountId} {history before after events : List Event}
  {event : Event}
  {entry : Entry} {found : Bool}

/-! ## What the ledger says after a deactivation -/

/-- An event of a history that has grown is the last one, or one of those before. -/
theorem append_eq_append_cons {last : Event} (h : history ++ [last] = before ++ event :: after) :
    (after = [] ∧ history = before ∧ last = event) ∨
      ∃ rest, after = rest ++ [last] ∧ history = before ++ event :: rest := by
  rcases List.eq_nil_or_concat after with rfl | ⟨rest, e, rfl⟩
  · obtain ⟨hbefore, hlast⟩ := List.append_inj' h rfl
    cases hlast
    exact .inl ⟨rfl, hbefore, rfl⟩
  · rw [List.concat_eq_append, ← List.cons_append, ← List.append_assoc] at h
    obtain ⟨hbefore, hlast⟩ := List.append_inj' h rfl
    cases hlast
    exact .inr ⟨rest, List.concat_eq_append, hbefore⟩

theorem not_registeredSince_nil : ¬ RegisteredSince name id [] := by
  rintro ⟨earlier, event, later, h, -⟩
  cases earlier <;> cases h

theorem registeredSince_append :
    RegisteredSince name id (events ++ [event]) ↔
      (event.entry? name).isSome = true ∨
        (event.deactivates id = false ∧ RegisteredSince name id events) := by
  constructor
  · rintro ⟨earlier, registered, later, h, hregistered, hlater⟩
    rcases append_eq_append_cons h with ⟨rfl, rfl, rfl⟩ | ⟨rest, rfl, rfl⟩
    · exact .inl hregistered
    · refine .inr ⟨hlater event (List.mem_append_right _ List.mem_cons_self), ?_⟩
      exact ⟨earlier, registered, rest, rfl, hregistered,
        fun e he => hlater e (List.mem_append_left _ he)⟩
  · rintro (hregistered | ⟨hlast, earlier, registered, later, rfl, hregistered, hlater⟩)
    · exact ⟨events, event, [], rfl, hregistered, fun _ he => absurd he List.not_mem_nil⟩
    · refine ⟨earlier, registered, later ++ [event], by simp, hregistered, ?_⟩
      intro e he
      rcases List.mem_append.1 he with he | he
      · exact hlater e he
      · rw [List.mem_singleton.1 he, hlast]

/-- After a deactivation, an account is active exactly if its name has been registered since. -/
theorem isActive_iff_registeredSince
    (h : ledger name (history ++ .deactivated id found :: after) = some entry)
    (hid : entry.id = id) :
    entry.isActive = true ↔ RegisteredSince name id after := by
  induction after using List.reverseRecOn generalizing entry with
  | nil =>
    have hnone : Event.entry? name (.deactivated id found) = none := rfl
    rw [ledger_append, hnone, Option.none_or, Option.map_eq_some_iff] at h
    obtain ⟨earlier, -, rfl⟩ := h
    have hdeactivates : (Event.deactivated id found).deactivates earlier.id = true :=
      decide_eq_true ((Event.touch_id _ _).symm.trans hid).symm
    rw [Event.touch, if_pos hdeactivates]
    exact iff_of_false Bool.false_ne_true not_registeredSince_nil
  | append_singleton after event ih =>
    rw [← List.cons_append, ← List.append_assoc, ledger_append] at h
    rw [registeredSince_append]
    cases hentry : event.entry? name with
    | some made =>
      rw [hentry] at h
      cases h
      obtain ⟨_, _, _, -, -, rfl⟩ := entry?_eq_some hentry
      exact ⟨fun _ => .inl rfl, fun _ => rfl⟩
    | none =>
      rw [hentry, Option.none_or, Option.map_eq_some_iff] at h
      obtain ⟨earlier, hearlier, rfl⟩ := h
      rw [Event.touch_id] at hid
      rw [Event.touch, hid]
      cases hdeactivates : event.deactivates id with
      | true => simp
      | false => simpa using ih hearlier hid

/-! ## What an operation gave back in a run -/

/-- **What an operation gave back in a run** it gave back over a store that holds what the history
before it says. -/
theorem exists_store_of_returned (s : Service) (acts : List Act) {ambient : Ambient}
    {request : Request} {response : request.Response}
    (h : (System.run s acts).history = before ++ .returned ambient request response :: after) :
    ∃ store now, store.WellKept ∧ Mirrors s.authenticator.hasher store before ∧
      (s.alone ambient now request store).1 = response := by
  let P (store : Store) (history : List Event) : Prop :=
    Mirrors s.authenticator.hasher store history ∧
    ∀ before ambient (request : Request) (response : request.Response) after,
      history = before ++ .returned ambient request response :: after →
      ∃ store now, store.WellKept ∧ Mirrors s.authenticator.hasher store before ∧
        (s.alone ambient now request store).1 = response
  have hstart : P .empty [] := by
    refine ⟨.start, ?_⟩
    intro before ambient request response after h
    cases before <;> cases h
  refine (System.run_induction (P := P) s hstart ?_ ?_ acts).2 _ _ _ _ _ h
  · intro store history ambient now request hk ⟨hm, hearlier⟩
    refine ⟨hm.returned hk ambient now request, ?_⟩
    intro before ambient' request' response' after h
    rcases append_eq_append_cons h with ⟨-, rfl, hlast⟩ | ⟨rest, -, hrest⟩
    · cases hlast
      exact ⟨store, now, hk, hm, rfl⟩
    · exact hearlier _ _ _ _ _ hrest
  · intro store history now id hk ⟨hm, hearlier⟩
    refine ⟨hm.deactivated now id _, ?_⟩
    intro before ambient' request' response' after h
    rcases append_eq_append_cons h with ⟨-, -, hlast⟩ | ⟨rest, -, hrest⟩
    · cases hlast
    · exact hearlier _ _ _ _ _ hrest

/-! ## Tokens from before a deactivation -/

section

variable {s : Service} {store : Store} {ambient minted : Ambient} {u p t : String}
  {pair : TokenPair}

theorem Store.WellKept.pos (hk : store.WellKept) {kept : AccountId × Account}
    (hkept : kept ∈ store.accounts) : 0 < kept.1.value :=
  ((hk.mem_keys kept.1).1 (Store.mem_keys_of_mem hkept)).1

/-- The refresh token of a login is about the account that the name got first. -/
theorem issued_of_login {cost : Password.Cost} {acts : List Act}
    (hcost : Password.Hasher.ofCost cost = .ok s.authenticator.hasher)
    (hhistory : (System.run s acts).history =
      before ++ .returned minted (.login u p) (.ok (.ok pair)) :: after)
    (hname : UserName.ofText u = .ok name) (hid : firstId? name before = some id) :
    0 < id.value ∧ s.authenticator.issueRefresh minted.refresh id.text = .ok pair.refresh := by
  obtain ⟨store, now, hk, hm, hlogin⟩ := exists_store_of_returned s acts hhistory
  obtain ⟨name', entry, hname', -, hentry, -, -, hpair⟩ := (login_eq_ok hk hm hcost now).1 hlogin
  cases hname.symm.trans hname'
  cases hid.symm.trans (hm.firstId?_eq_some hentry)
  obtain ⟨kept, hnamed, hholds⟩ := hm.exists_named hentry
  exact ⟨hholds.id ▸ hk.pos (Store.mem_of_named? hnamed).1,
    (Authenticator.issuePair_eq_ok.1 hpair).2⟩

/-- An account can be used exactly if the ledger says that it is active. -/
theorem Mirrors.isUsable_iff {h : Password.Hasher} (hm : Mirrors h store history)
    (hk : store.WellKept) (hentry : ledger name history = some entry) :
    (store.findById entry.id).isSome = true ↔ entry.isActive = true := by
  obtain ⟨kept, hnamed, hholds⟩ := hm.exists_named hentry
  have hkept : store.account? entry.id = some kept.2 :=
    (Store.account?_eq_some hk).2 (hholds.id ▸ (Store.mem_of_named? hnamed).1)
  rw [← hholds.isUsable, Store.findById, hkept, Option.isSome_filter]
  rfl

/-- What a token that was issued for an account is exchanged for: the account, if it is active. -/
theorem exchangeable_iff_isActive {now : Nat} (hk : store.WellKept)
    (hm : Mirrors s.authenticator.hasher store history) (hentry : ledger name history = some entry)
    (ht : s.authenticator.issueRefresh minted.refresh entry.id.text = .ok t)
    (hpos : 0 < entry.id.value) (hsize : entry.id.value ≤ Integer.maxSigned64) :
    (∃ id, Exchangeable s.authenticator store now t id) ↔
      (∃ c, s.authenticator.codec.verify now t .refresh = .ok c) ∧ entry.isActive = true := by
  have hnumber : AccountId.ofText entry.id.text = .ok entry.id :=
    AccountId.ofText_eq_ok.2 ⟨Integer.numeral_toString entry.id.value, hpos, hsize⟩
  have haccount : ∀ {c id}, s.authenticator.codec.verify now t .refresh = .ok c →
      (AccountId.ofText c.subject = .ok id ↔ id = entry.id) := by
    intro c id hc
    rw [Token.subject_of_verify ht hc, hnumber]
    exact ⟨fun h => (Except.ok.inj h).symm, fun h => congrArg _ h.symm⟩
  simp only [exchangeable_iff, Service.refreshedAccount_eq_ok, ← hm.isUsable_iff hk hentry]
  constructor
  · rintro ⟨id, ⟨c, hc, hid⟩, hsome⟩
    exact ⟨⟨c, hc⟩, (haccount hc).1 hid ▸ hsome⟩
  · rintro ⟨⟨c, hc⟩, hsome⟩
    exact ⟨entry.id, ⟨c, hc, (haccount hc).2 rfl⟩, hsome⟩

/-- What a token from before a deactivation is exchanged for. -/
theorem exchangeable_iff_registeredSince {now : Nat} (hk : store.WellKept)
    (hm : Mirrors s.authenticator.hasher store (history ++ .deactivated id found :: after))
    (hid : firstId? name history = some id) (hpos : 0 < id.value)
    (hsize : id.value ≤ Integer.maxSigned64)
    (ht : s.authenticator.issueRefresh minted.refresh id.text = .ok t) :
    (∃ other, Exchangeable s.authenticator store now t other) ↔
      (∃ c, s.authenticator.codec.verify now t .refresh = .ok c) ∧
      RegisteredSince name id after := by
  have hfirst : (store.named? name).map (·.1) = some id := by
    rw [hm.ids, firstId?, List.findSome?_append, ← firstId?, hid, Option.some_or]
  obtain ⟨kept, hnamed, hkept⟩ := Option.map_eq_some_iff.1 hfirst
  obtain ⟨entry, hentry, hholds⟩ := hm.exists_entry hnamed
  have hsame : entry.id = id := hholds.id.symm.trans hkept
  rw [exchangeable_iff_isActive hk hm hentry (hsame ▸ ht) (hsame ▸ hpos) (hsame ▸ hsize),
    isActive_iff_registeredSince hentry hsame]

/-- Whatever the time, a token that is exchanged can be exchanged. -/
theorem exists_exchangeable {now : Time.Instant} {access : String}
    (h : (s.alone ambient now (.refresh t) store).1 = .ok (.ok access)) :
    Text.isBlankText t = false ∧ ∃ id, Exchangeable s.authenticator store ambient.now t id := by
  rw [Service.alone_refresh] at h
  dsimp only at h
  split at h
  · cases h
  next hblank =>
  split at h
  · cases h
  next id hid =>
  refine ⟨Bool.eq_false_iff.2 hblank, id, exchangeable_iff.2 ⟨hid, ?_⟩⟩
  cases hfound : store.findById id with
  | none =>
    rw [hfound] at h
    cases h
  | some account => rfl

end

/-- Someone registers and logs in. Their account is deactivated, and they register again with
another password. -/
theorem exists_registered_again :
    ∃ settings a ambient acts order again first second pair expires c,
      Authenticator.ofSettings settings = .ok a ∧ UserName.ofText "a@b" = .ok order.userName ∧
      again.userName = order.userName ∧ second.id = first.id ∧ second.isUsable = true ∧
      ambient.access.expiryClock.add settings.accessLifetime = .ok expires ∧
      a.codec.verify ambient.now pair.refresh .refresh = .ok c ∧ c.subject = second.id.text ∧
      first.id = ⟨1⟩ ∧
      firstId? order.userName [.returned ambient (.register order) (.ok first)] = some first.id ∧
      System.run ⟨a, 0⟩ acts = ⟨⟨1, [(⟨1⟩, second)], []⟩, [],
        [.returned ambient (.register order) (.ok first)] ++
          .returned ambient (.login "a@b" "old") (.ok (.ok pair)) :: [] ++
          .deactivated first.id true :: [.returned ambient (.register again) (.ok second)]⟩ := by
  let settings : AuthSettings :=
    ⟨"access", "refresh", "cursor", "issuer", .ofSeconds 900, .ofSeconds 900, ⟨8, 1, 1, 32⟩⟩
  let name : UserName := ⟨⟨"a@b", rfl⟩⟩
  let order : Registration := ⟨name, "old", .empty, by decide⟩
  let again : Registration := ⟨name, "new", .empty, by decide⟩
  let stamp : Token.Stamp := ⟨⟨0⟩, ⟨0⟩, ⟨List.replicate 16 0, rfl⟩⟩
  let ambient : Ambient := ⟨0, ⟨List.replicate 16 0, rfl⟩, stamp, stamp, .wrapping⟩
  let acts : List Act := [.enter ambient (.register order), .serve 0 ⟨0⟩,
    .enter ambient (.login "a@b" "old"), .serve 0 ⟨0⟩, .deactivate ⟨0⟩ ⟨1⟩,
    .enter ambient (.register again), .serve 0 ⟨0⟩]
  obtain ⟨a, ha⟩ : ∃ a, Authenticator.ofSettings settings = .ok a := ⟨_, rfl⟩
  obtain ⟨-, hhasher, -, hlife, hlife'⟩ := Authenticator.ofSettings_eq_ok.1 ha
  obtain ⟨-, -, hcost⟩ := Password.Hasher.ofCost_eq_ok.1 hhasher
  obtain ⟨text, htext⟩ : ∃ text, a.hasher.hash ambient.salt order.password = .ok text :=
    Password.Hasher.exists_hash (hcost ▸ rfl) (by decide) _
  obtain ⟨text', htext'⟩ : ∃ text, a.hasher.hash ambient.salt again.password = .ok text :=
    Password.Hasher.exists_hash (hcost ▸ rfl) (by decide) _
  obtain ⟨access, haccess⟩ : ∃ token, a.issueAccess stamp (AccountId.mk 1).text = .ok token :=
    ⟨_, Token.issue_eq_ok.2 ⟨⟨900 * Time.nanosPerSecond⟩, hlife ▸ rfl, rfl⟩⟩
  obtain ⟨refresh, hrefresh⟩ : ∃ token, a.issueRefresh stamp (AccountId.mk 1).text = .ok token :=
    ⟨_, Token.issue_eq_ok.2 ⟨⟨900 * Time.nanosPerSecond⟩, hlife' ▸ rfl, rfl⟩⟩
  obtain ⟨c, hc, hsubject⟩ : ∃ c, a.codec.verify 0 refresh .refresh = .ok c ∧
      c.subject = (AccountId.mk 1).text := Token.verify_issue hrefresh rfl (hlife' ▸ by decide)
  let s : Service := ⟨a, 0⟩
  let first : Account := Store.created ⟨1⟩ ⟨name, text, .empty⟩ ⟨0⟩
  let second : Account := Store.reactivated (Store.deactivated first ⟨0⟩) text' ⟨0⟩
  have hregister : s.alone ambient ⟨0⟩ (.register order) .empty =
      (.ok first, ⟨1, [(⟨1⟩, first)], []⟩) := Service.alone_register_of_ok (s := s) htext _ _
  have hlogin : s.alone ambient ⟨0⟩ (.login "a@b" "old") ⟨1, [(⟨1⟩, first)], []⟩ =
      (.ok (.ok ⟨access, refresh⟩), ⟨1, [(⟨1⟩, first)], []⟩) := by
    have hverify : Password.verify "old" text = .ok true :=
      (Password.verify_hash_eq_true hhasher htext).2 rfl
    have hpair : a.issuePair stamp stamp first.id.text = .ok ⟨access, refresh⟩ :=
      Authenticator.issuePair_eq_ok.2 ⟨haccess, hrefresh⟩
    rw [Service.alone_login]
    exact congrArg (·, _) (Service.grant_eq_ok.2 ⟨first, rfl, rfl, hverify, hpair⟩)
  have hagain : s.alone ambient ⟨0⟩ (.register again)
      ⟨1, [(⟨1⟩, Store.deactivated first ⟨0⟩)], []⟩ = (.ok second, ⟨1, [(⟨1⟩, second)], []⟩) :=
    Service.alone_register_of_ok (s := s) htext' _ _
  have hfirst :
      firstId? name [.returned ambient (.register order) (.ok first)] = some first.id := by
    simp [firstId?, Event.entry?, order]
  refine ⟨settings, a, ambient, acts, order, again, first, second, ⟨access, refresh⟩, _, c, ha, rfl,
    rfl, rfl, rfl, rfl, hc, hsubject, rfl, hfirst, ?_⟩
  have hdeactivate : ∀ history, System.step s ⟨⟨1, [(⟨1⟩, first)], []⟩, [], history⟩
      (.deactivate ⟨0⟩ ⟨1⟩) = ⟨⟨1, [(⟨1⟩, Store.deactivated first ⟨0⟩)], []⟩, [],
        history ++ [.deactivated ⟨1⟩ true]⟩ := fun _ => rfl
  simp only [System.run, acts, List.foldl, System.start]
  rw [System.step_serve hregister, System.step_serve hlogin, hdeactivate, System.step_serve hagain]
  rfl

/-- **A refresh token from before a deactivation** of its account is not exchanged after it, unless
the name of the account is registered again and the account not deactivated after that. Then it is
exchanged at every time at which it is accepted. -/
theorem exchanged_iff_registeredSince {settings : AuthSettings} {a : Authenticator}
    (hsettings : Authenticator.ofSettings settings = .ok a) (lookupTimeout : Nat) (acts : List Act)
    {before between after : List Event} {minted : Ambient} {u p : String} {pair : TokenPair}
    {name : UserName} {id : AccountId} {found : Bool} (hname : UserName.ofText u = .ok name)
    (hid : firstId? name before = some id) (hsize : id.value ≤ Integer.maxSigned64)
    (hhistory : (System.run ⟨a, lookupTimeout⟩ acts).history =
      before ++ .returned minted (.login u p) (.ok (.ok pair)) ::
        (between ++ .deactivated id found :: after)) :
    let s : Service := ⟨a, lookupTimeout⟩
    let y := System.run s acts
    (∀ waited caller access rest,
      after = waited ++ .returned caller (.refresh pair.refresh) (.ok (.ok access)) :: rest →
      RegisteredSince name id waited) ∧
    ∀ ambient clock expires,
      ambient.access.expiryClock.add settings.accessLifetime = .ok expires →
      ((∃ access, ((s.refresh ambient pair.refresh).runWith (Store.answer clock) y.store).1 =
          .ok (.ok access)) ↔
        (∃ c, a.codec.verify ambient.now pair.refresh .refresh = .ok c) ∧
          RegisteredSince name id after) := by
  intro s y
  obtain ⟨-, hhasher, -, hlife, -⟩ := Authenticator.ofSettings_eq_ok.1 hsettings
  obtain ⟨hpos, hissued⟩ := issued_of_login (s := s) hhasher hhistory hname hid
  let earlier := before ++ .returned minted (.login u p) (.ok (.ok pair)) :: between
  have hearlier : firstId? name earlier = some id := by
    rw [firstId?, List.findSome?_append, ← firstId?, hid, Option.some_or]
  have hsplit : ∀ later, before ++ .returned minted (.login u p) (.ok (.ok pair)) ::
      (between ++ .deactivated id found :: later) = earlier ++ .deactivated id found :: later :=
    fun later => by simp [earlier]
  rw [hsplit] at hhistory
  constructor
  · intro waited caller access rest hafter
    rw [hafter, ← List.cons_append, ← List.append_assoc] at hhistory
    obtain ⟨store, now, hk, hm, hrefresh⟩ := exists_store_of_returned s acts hhistory
    obtain ⟨-, hexchangeable⟩ := exists_exchangeable hrefresh
    exact ((exchangeable_iff_registeredSince hk hm hearlier hpos hsize hissued).1 hexchangeable).2
  · intro ambient clock expires hexpires
    have hk : y.store.WellKept := System.wellKept_run s acts
    have hm : Mirrors a.hasher y.store (earlier ++ .deactivated id found :: after) :=
      hhistory ▸ mirrors_run s acts
    have hexchanged := exists_refreshed_iff (s := s) (t := pair.refresh) hk (hlife ▸ hexpires) clock
    rw [← exchangeable_iff_registeredSince (s := s) hk hm hearlier hpos hsize hissued]
    refine hexchanged.trans ⟨And.right, ?_⟩
    rintro ⟨other, c, account, hc, hother⟩
    exact ⟨Token.not_blank_of_verify hc, other, c, account, hc, hother⟩

/-- The token of someone who registers again is exchanged. -/
theorem exchanged_iff_registeredSince_again :
    ∃ settings a acts before after ambient u p pair name id access,
      Authenticator.ofSettings settings = .ok a ∧ UserName.ofText u = .ok name ∧
      firstId? name before = some id ∧ id.value ≤ Integer.maxSigned64 ∧
      (System.run ⟨a, 0⟩ acts).history =
        before ++ .returned ambient (.login u p) (.ok (.ok pair)) ::
          ([] ++ .deactivated id true :: after) ∧
      (((⟨a, 0⟩ : Service).refresh ambient pair.refresh).runWith (Store.answer ⟨0⟩)
        (System.run ⟨a, 0⟩ acts).store).1 = .ok (.ok access) := by
  obtain ⟨settings, a, ambient, acts, order, again, first, second, pair, expires, c, ha, hname,
    hagain, hsecond, husable, hexpires, hc, hsubject, hfirst, hid, hrun⟩ := exists_registered_again
  have hhistory : (System.run ⟨a, 0⟩ acts).history = _ := congrArg System.history hrun
  have hsize : first.id.value ≤ Integer.maxSigned64 := by
    rw [hfirst]
    decide
  have hsince : RegisteredSince order.userName first.id
      [.returned ambient (.register again) (.ok second)] :=
    ⟨[], _, [], rfl, by simp [Event.entry?, hagain], fun _ h => absurd h List.not_mem_nil⟩
  have hexchanged := exchanged_iff_registeredSince ha 0 acts hname hid hsize hhistory
  obtain ⟨access, haccess⟩ := (hexchanged.2 ambient ⟨0⟩ expires hexpires).2 ⟨⟨c, hc⟩, hsince⟩
  exact ⟨settings, a, acts, _, _, ambient, "a@b", "old", pair, order.userName, first.id, access, ha,
    hname, hid, hsize, hhistory, haccess⟩

/-- A token from before a deactivation is exchanged after it. -/
theorem not_revoked_for_good :
    ¬ ∀ settings a lookupTimeout acts before between waited rest minted caller u p pair name id
      found
        access,
      Authenticator.ofSettings settings = .ok a → UserName.ofText u = .ok name →
      firstId? name before = some id →
      (System.run ⟨a, lookupTimeout⟩ acts).history =
        before ++ .returned minted (.login u p) (.ok (.ok pair)) ::
          (between ++ .deactivated id found ::
            (waited ++ .returned caller (.refresh pair.refresh) (.ok (.ok access)) :: rest)) →
      False := by
  intro hgood
  obtain ⟨settings, a, ambient, acts, order, again, first, second, pair, expires, c, ha, hname, -,
    hsecond, husable, hexpires, hc, hsubject, hfirst, hid, hrun⟩ := exists_registered_again
  let s : Service := ⟨a, 0⟩
  have hk := System.wellKept_run s acts
  have hlife := (Authenticator.ofSettings_eq_ok.1 ha).2.2.2.1
  rw [hrun] at hk
  have hex : Exchangeable a ⟨1, [(⟨1⟩, second)], []⟩ ambient.now pair.refresh ⟨1⟩ := by
    refine ⟨c, second, hc, ?_, rfl, Account.isUsable_eq_true.1 husable⟩
    rw [hsubject, hsecond, hfirst]
    exact AccountId.ofText_text (by decide) (by decide)
  obtain ⟨access, haccess⟩ := (exists_refreshed_iff (s := s) hk (hlife ▸ hexpires) ⟨0⟩).2
    ⟨Token.not_blank_of_verify hc, ⟨1⟩, hex⟩
  refine hgood settings a 0
    (acts ++ [.enter ambient (.refresh pair.refresh)] ++ [.serve 0 ⟨0⟩]) _ []
    [.returned ambient (.register again) (.ok second)] [] ambient ambient "a@b" "old" pair
    order.userName first.id true access ha hname hid ?_
  rw [System.run_append, System.run_append, hrun, System.step_serve (Prod.ext haccess rfl)]
  rfl

end Accounts

import Accounts.Proofs.Service.Login

/-!
# Separation of purposes

A token serves the purpose that it was made for and no other. The keys do not see to that: two of
them may be the same, or act alike. The purpose is one of the claims that are signed, and whoever
reads a token finds it there as it was written.

* `verify_sign_of_ne` — a signed token that has to serve another purpose.
* `Granted.exists_issue` — every token that is given out was issued for its purpose.
* `purpose_separation` — no token serves another purpose than its own.
-/

namespace Accounts

namespace Token

/-- Every ring is the ring of its secrets. -/
theorem KeyRing.ofSecrets_secret (ring : KeyRing) :
    ofSecrets ring.access.secret ring.refresh.secret ring.cursor.secret = .ok ring := by
  have hkey : ∀ key : Key, Key.ofSecret key.secret = .ok ⟨key, rfl⟩ := fun key =>
    dif_neg key.secret_ne_nil
  rw [ofSecrets, dif_neg ring.access_ne_refresh, hkey, hkey, hkey]
  rfl

/-- A token that is refused for all purposes but one, whatever keys it meets and whatever the time.
If nothing else is wrong with it, both purposes are told. -/
def Confined (purpose : Purpose) (token : String) : Prop :=
  ∀ (codec : Codec) (now : Nat) (other : Purpose), other ≠ purpose →
    ∃ fault, codec.verify now token other = .error fault ∧
      ∀ d, parse (codec.keys.key other) now token = .ok d → fault = .wrongPurpose other purpose

variable {codec : Codec} {c : Claims} {other : Purpose}

/-- **A signed token that has to serve another purpose** fails as it does without a purpose, or for
its purpose. -/
theorem verify_sign_of_ne (hother : other ≠ c.purpose) (key : Key) (now : Nat) :
    codec.verify now (sign c key) other =
      (parse (codec.keys.key other) now (sign c key)).bind fun _ =>
        .error (.wrongPurpose other c.purpose) := by
  rw [Codec.verify]
  cases hparse : parse (codec.keys.key other) now (sign c key) with
  | error fault => rfl
  | ok d =>
    cases eq_of_parse_sign hparse
    rw [Except.ok_bind, if_pos hother.symm]
    rfl

theorem confined_sign (c : Claims) (key : Key) : Confined c.purpose (sign c key) := by
  intro codec now other hother
  rw [verify_sign_of_ne hother]
  cases parse (codec.keys.key other) now (sign c key) with
  | error fault => exact ⟨fault, rfl, nofun⟩
  | ok d => exact ⟨_, rfl, fun _ _ => rfl⟩

/-- Issued tokens are signed claims of their purpose. -/
theorem exists_sign_of_issue {stamp : Stamp} {subject token : String} {purpose : Purpose}
    {ttl : Time.Span} (h : codec.issue stamp subject purpose ttl = .ok token) :
    ∃ c key, c.purpose = purpose ∧ token = sign c key := by
  obtain ⟨expires, -, rfl⟩ := issue_eq_ok.1 h
  exact ⟨_, _, rfl, rfl⟩

end Token

open Token

/-! ## Tokens that are given out -/

/-- The pairs of tokens that are given out: issued at once, issued for a password, and issued at a
login, whatever the store answers. -/
inductive GrantedPair : TokenPair → Prop where
  | issued {a : Authenticator} {access refresh : Stamp} {subject : String} {pair : TokenPair}
      (h : a.issuePair access refresh subject = .ok pair) : GrantedPair pair
  | authenticated {a : Authenticator} {access refresh : Stamp} {password stored subject : String}
      {pair : TokenPair}
      (h : a.authenticate access refresh password stored subject = .ok (.ok pair)) :
      GrantedPair pair
  | loggedIn {s : Service} {ambient : Ambient} {userName password : String} {pair : TokenPair}
      {σ : Type} (answer : (call : StoreCall) → σ → call.Answer × σ) (state : σ)
      (h : ((s.authenticate ambient userName password).runWith answer state).1 = .ok (.ok pair)) :
      GrantedPair pair

/-- The tokens that are given out, and for what: issued for any purpose, issued for access, in
pairs, and for a refresh token, whatever the store answers. -/
inductive Granted : Purpose → String → Prop where
  | issued {codec : Codec} {stamp : Stamp} {subject token : String} {purpose : Purpose}
      {ttl : Time.Span} (h : codec.issue stamp subject purpose ttl = .ok token) :
      Granted purpose token
  | issuedAccess {a : Authenticator} {stamp : Stamp} {subject token : String}
      (h : a.issueAccess stamp subject = .ok token) : Granted .access token
  | accessOfPair {pair : TokenPair} (h : GrantedPair pair) : Granted .access pair.access
  | refreshOfPair {pair : TokenPair} (h : GrantedPair pair) : Granted .refresh pair.refresh
  | refreshed {s : Service} {ambient : Ambient} {presented token : String} {σ : Type}
      (answer : (call : StoreCall) → σ → call.Answer × σ) (state : σ)
      (h : ((s.refresh ambient presented).runWith answer state).1 = .ok (.ok token)) :
      Granted .access token

section

variable {s : Service} {ambient : Ambient} {password presented token : String} {pair : TokenPair}

theorem Service.exists_issuePair_of_grant {found : Except StoreFault (Option Account)}
    (h : s.grant ambient password found = .ok (.ok pair)) :
    ∃ subject, s.authenticator.issuePair ambient.access ambient.refresh subject = .ok pair := by
  cases found with
  | error fault => cases h
  | ok found =>
    obtain ⟨account, -, -, -, hpair⟩ := grant_eq_ok.1 h
    exact ⟨account.id.text, hpair⟩

theorem Service.exists_issueAccess_of_renew {found : Except StoreFault (Option Account)}
    (h : s.renew ambient found = .ok (.ok token)) :
    ∃ subject, s.authenticator.issueAccess ambient.access subject = .ok token := by
  cases found with
  | error fault => cases h
  | ok found =>
    simp only [renew] at h
    split at h
    · cases h
    · next account _ =>
      obtain ⟨_, htoken, h⟩ := Except.map_eq_ok.1 h
      cases h
      exact ⟨account.id.text, htoken⟩

end

/-- Pairs are issued together. -/
theorem GrantedPair.exists_issuePair {pair : TokenPair} (h : GrantedPair pair) :
    ∃ (a : Authenticator) (access refresh : Stamp) (subject : String),
      a.issuePair access refresh subject = .ok pair := by
  cases h with
  | issued h => exact ⟨_, _, _, _, h⟩
  | authenticated h =>
    simp only [Authenticator.authenticate] at h
    split at h
    · obtain ⟨_, hpair, h⟩ := Except.map_eq_ok.1 h
      cases h
      exact ⟨_, _, _, _, hpair⟩
    · cases h
  | loggedIn answer state h =>
    simp only [Service.authenticate] at h
    split at h
    · cases h
    · obtain ⟨subject, hpair⟩ := Service.exists_issuePair_of_grant h
      exact ⟨_, _, _, subject, hpair⟩

/-- Every token that is given out was issued for its purpose. -/
theorem Granted.exists_issue {purpose : Purpose} {token : String} (h : Granted purpose token) :
    ∃ (codec : Codec) (stamp : Stamp) (subject : String) (ttl : Time.Span),
      codec.issue stamp subject purpose ttl = .ok token := by
  cases h with
  | issued h => exact ⟨_, _, _, _, h⟩
  | issuedAccess h => exact ⟨_, _, _, _, h⟩
  | accessOfPair h =>
    obtain ⟨a, access, refresh, subject, hpair⟩ := h.exists_issuePair
    exact ⟨_, _, _, _, (Authenticator.issuePair_eq_ok.1 hpair).1⟩
  | refreshOfPair h =>
    obtain ⟨a, access, refresh, subject, hpair⟩ := h.exists_issuePair
    exact ⟨_, _, _, _, (Authenticator.issuePair_eq_ok.1 hpair).2⟩
  | refreshed answer state h =>
    simp only [Service.refresh] at h
    split at h
    · cases h
    split at h
    · cases h
    · obtain ⟨subject, htoken⟩ := Service.exists_issueAccess_of_renew h
      exact ⟨_, _, _, _, htoken⟩

/-! ## Separation -/

/-- **No token serves another purpose than its own**, whatever the keys, not even if they are equal:
neither one that was signed with any key, nor one that was given out. The tokens of a pair
differ. -/
theorem purpose_separation :
    (∀ c key, Confined c.purpose (sign c key)) ∧
    (∀ purpose token, Granted purpose token → Confined purpose token) ∧
    ∀ pair, GrantedPair pair → pair.access ≠ pair.refresh := by
  refine ⟨confined_sign, ?_, ?_⟩
  · intro purpose token h
    obtain ⟨codec, stamp, subject, ttl, hissue⟩ := h.exists_issue
    obtain ⟨c, key, rfl, rfl⟩ := exists_sign_of_issue hissue
    exact confined_sign c key
  · intro pair h heq
    obtain ⟨a, access, refresh, subject, hpair⟩ := h.exists_issuePair
    obtain ⟨haccess, hrefresh⟩ := Authenticator.issuePair_eq_ok.1 hpair
    obtain ⟨c, key, hc, hsign⟩ := exists_sign_of_issue haccess
    obtain ⟨c', key', hc', hsign'⟩ := exists_sign_of_issue hrefresh
    rw [hsign, hsign'] at heq
    rw [eq_of_sign_eq heq, hc'] at hc
    cases hc

/-- A ring in which two purposes share a key: a token for cursors passes as one for access in all
but its purpose, and the two tokens of a pair differ. -/
theorem purpose_separation_shared :
    ∃ ring c pair, KeyRing.ofSecrets [107] [114] [107] = .ok ring ∧
      (Codec.mk ring "issuer").verify 5 (sign c (ring.key .cursor)) .access =
        .error (.wrongPurpose .access .cursor) ∧
      GrantedPair pair ∧ Confined .refresh pair.refresh ∧ pair.access ≠ pair.refresh := by
  let ring : KeyRing := ⟨⟨[107], by decide⟩, ⟨[114], by decide⟩, ⟨[107], by decide⟩, by decide⟩
  let c : Claims := ⟨"1", "issuer", "", 0, 0, 9, .cursor, .empty⟩
  let a : Authenticator := ⟨.standard, ⟨ring, "issuer"⟩, .ofSeconds 900, .ofSeconds 900⟩
  let stamp : Stamp := ⟨⟨0⟩, ⟨0⟩, ⟨List.replicate 16 0, rfl⟩⟩
  obtain ⟨hsigned, hgranted, hpairs⟩ := purpose_separation
  obtain ⟨fault, hverify, hfault⟩ := hsigned c (ring.key .cursor) ⟨ring, "issuer"⟩ 5 .access nofun
  have hparse : parse (ring.key .access) 5 (sign c (ring.key .cursor)) = .ok c :=
    parse_sign_self (by decide) (by decide) (by decide) _
  rw [hfault c hparse] at hverify
  obtain ⟨access, haccess⟩ : ∃ token, a.issueAccess stamp "1" = .ok token :=
    ⟨_, issue_eq_ok.2 ⟨⟨900 * Time.nanosPerSecond⟩, rfl, rfl⟩⟩
  obtain ⟨refresh, hrefresh⟩ : ∃ token, a.issueRefresh stamp "1" = .ok token :=
    ⟨_, issue_eq_ok.2 ⟨⟨900 * Time.nanosPerSecond⟩, rfl, rfl⟩⟩
  have hpair : GrantedPair ⟨access, refresh⟩ :=
    .issued (Authenticator.issuePair_eq_ok.2 ⟨haccess, hrefresh⟩)
  exact ⟨ring, c, _, ring.ofSecrets_secret, hverify, hpair, hgranted _ _ (.refreshOfPair hpair),
    hpairs _ hpair⟩

end Accounts

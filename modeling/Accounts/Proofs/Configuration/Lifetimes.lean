import Accounts.Configuration.Basic
import Accounts.Proofs.Token.Lifetime

/-!
# Lifetimes that can be configured

The lifetimes of tokens are configured as numbers of minutes and hours, and nothing checks them when
an authenticator is made, while secrets and costs are refused there. So an authenticator may be made
that cannot issue tokens, or whose tokens are over when they are issued.

* `Configuration.livesFor` — the tokens of a configuration.
* `Configuration.usable_iff` — the configurations that are usable throughout a time.
* `Configuration.not_usable` — one that is not.
-/

namespace Accounts

/-! ## Spans of whole seconds -/

namespace Time

/-- The first second of a year. -/
def startOfYear (year : Int) : Int := Date.toDays ⟨year, 1, 1⟩ * secondsPerDay

theorem Span.ofMinutes?_eq_ok {n : Int} {span : Span} :
    Span.ofMinutes? n = .ok span ↔
      (-maxSeconds ≤ n * 60 ∧ n * 60 ≤ maxSeconds) ∧ span = ofSeconds (n * 60) := by
  rw [ofMinutes?, Except.ite_eq_ok]

theorem Span.ofHours?_eq_ok {n : Int} {span : Span} :
    Span.ofHours? n = .ok span ↔
      (-maxSeconds ≤ n * 3600 ∧ n * 3600 ≤ maxSeconds) ∧ span = ofSeconds (n * 3600) := by
  rw [ofHours?, Except.ite_eq_ok]

end Time

namespace Authenticator

/-- What an authenticator does whose tokens live for so many seconds. -/
structure LivesFor (a : Authenticator) (accessSeconds refreshSeconds : Int) : Prop where
  /-- A pair is issued exactly if both its ends lie within the calendar. -/
  issues_iff : ∀ (access refresh : Token.Stamp) (subject : String),
    (∃ pair, a.issuePair access refresh subject = .ok pair) ↔
      Time.InCalendar (access.expiryClock.timestamp + accessSeconds) ∧
      Time.InCalendar (refresh.expiryClock.timestamp + refreshSeconds)
  /-- Its access token is accepted from the second in which it was issued to its end. -/
  access_iff : ∀ {access refresh : Token.Stamp} {subject : String} {pair : TokenPair},
    a.issuePair access refresh subject = .ok pair →
    Time.InCalendar access.issueClock.timestamp → 0 ≤ access.issueClock.timestamp →
    ∀ now : Nat, (∃ c, a.validate now pair.access .access = .ok c) ↔
      access.issueClock.timestamp ≤ now ∧ now ≤ access.expiryClock.timestamp + accessSeconds
  /-- So is its refresh token. -/
  refresh_iff : ∀ {access refresh : Token.Stamp} {subject : String} {pair : TokenPair},
    a.issuePair access refresh subject = .ok pair →
    Time.InCalendar refresh.issueClock.timestamp → 0 ≤ refresh.issueClock.timestamp →
    ∀ now : Nat, (∃ c, a.validate now pair.refresh .refresh = .ok c) ↔
      refresh.issueClock.timestamp ≤ now ∧ now ≤ refresh.expiryClock.timestamp + refreshSeconds

theorem livesFor {a : Authenticator} {accessSeconds refreshSeconds : Int}
    (haccess : a.accessLifetime = .ofSeconds accessSeconds)
    (hrefresh : a.refreshLifetime = .ofSeconds refreshSeconds) :
    a.LivesFor accessSeconds refreshSeconds where
  issues_iff access refresh subject := by
    rw [← Token.exists_issue_iff a.codec access subject .access,
      ← Token.exists_issue_iff a.codec refresh subject .refresh, ← haccess, ← hrefresh]
    simp only [issuePair_eq_ok]
    exact ⟨fun ⟨pair, h⟩ => ⟨⟨_, h.1⟩, ⟨_, h.2⟩⟩, fun ⟨⟨_, h⟩, ⟨_, h'⟩⟩ => ⟨⟨_, _⟩, h, h'⟩⟩
  access_iff hpair hissue hnonneg now := by
    have htoken := (issuePair_eq_ok.1 hpair).1
    rw [issueAccess, haccess] at htoken
    exact Token.verify_issue_iff htoken hissue hnonneg now
  refresh_iff hpair hissue hnonneg now := by
    have htoken := (issuePair_eq_ok.1 hpair).2
    rw [issueRefresh, hrefresh] at htoken
    exact Token.verify_issue_iff htoken hissue hnonneg now

/-- Whether pairs of tokens are issued while the clock shows a time, and both tokens are accepted
for their purposes at that time. -/
def Serves (a : Authenticator) (clock : Time.Instant) : Prop :=
  ∀ (access refresh : Token.TokenId) (subject : String),
    ∃ pair, a.issuePair ⟨clock, clock, access⟩ ⟨clock, clock, refresh⟩ subject = .ok pair ∧
      ∀ now : Nat, (now : Int) = clock.timestamp →
        (∃ c, a.validate now pair.access .access = .ok c) ∧
        ∃ c, a.validate now pair.refresh .refresh = .ok c

/-- **Which lifetimes serve** at a time: those that are not negative and end within the calendar. -/
theorem LivesFor.serves_iff {a : Authenticator} {accessSeconds refreshSeconds : Int}
    (h : a.LivesFor accessSeconds refreshSeconds) {clock : Time.Instant}
    (hcalendar : Time.InCalendar clock.timestamp) (hnonneg : 0 ≤ clock.timestamp) :
    a.Serves clock ↔
      (0 ≤ accessSeconds ∧ clock.timestamp + accessSeconds ≤ Time.lastSecond) ∧
      (0 ≤ refreshSeconds ∧ clock.timestamp + refreshSeconds ≤ Time.lastSecond) := by
  have hnow : (clock.timestamp.toNat : Int) = clock.timestamp := Int.toNat_of_nonneg hnonneg
  constructor
  · intro hserves
    have hid : (List.replicate 16 (0 : UInt8)).length = 16 := rfl
    obtain ⟨pair, hpair, haccepted⟩ := hserves ⟨_, hid⟩ ⟨_, hid⟩ ""
    obtain ⟨haccess, hrefresh⟩ := (h.issues_iff _ _ _).1 ⟨pair, hpair⟩
    obtain ⟨hfirst, hsecond⟩ := haccepted _ hnow
    have hfirst := ((h.access_iff hpair hcalendar hnonneg _).1 hfirst).2
    have hsecond := ((h.refresh_iff hpair hcalendar hnonneg _).1 hsecond).2
    have haccess := haccess.2
    have hrefresh := hrefresh.2
    dsimp only at hfirst hsecond haccess hrefresh
    omega
  · rintro ⟨⟨haccess, haccessEnd⟩, hrefresh, hrefreshEnd⟩ access refresh subject
    have hfirst := hcalendar.1
    obtain ⟨pair, hpair⟩ := (h.issues_iff ⟨clock, clock, access⟩ ⟨clock, clock, refresh⟩ subject).2
      ⟨⟨by dsimp only; omega, haccessEnd⟩, ⟨by dsimp only; omega, hrefreshEnd⟩⟩
    refine ⟨pair, hpair, fun now hclock => ⟨?_, ?_⟩⟩
    · exact (h.access_iff hpair hcalendar hnonneg now).2 (by dsimp only; omega)
    · exact (h.refresh_iff hpair hcalendar hnonneg now).2 (by dsimp only; omega)

end Authenticator

namespace Configuration

variable {c : Configuration} {settings : AuthSettings} {a : Authenticator}

/-! ## What is configured -/

/-- How many seconds access tokens are to live. -/
def accessSeconds (c : Configuration) : Int := c.token.accessMinutes * 60

/-- How many seconds refresh tokens are to live. -/
def refreshSeconds (c : Configuration) : Int := c.token.refreshHours * 3600

/-- Whether there are spans as long as the lifetimes. -/
structure Bounded (c : Configuration) : Prop where
  access : -Time.Span.maxSeconds ≤ c.accessSeconds ∧ c.accessSeconds ≤ Time.Span.maxSeconds
  refresh : -Time.Span.maxSeconds ≤ c.refreshSeconds ∧ c.refreshSeconds ≤ Time.Span.maxSeconds

/-- The settings that are wanted. There are no others, but there may be no spans that long. -/
def wantedSettings (c : Configuration) : AuthSettings where
  accessSecret := c.token.accessSecret
  refreshSecret := c.token.refreshSecret
  cursorSecret := c.token.cursorSecret
  issuer := c.token.issuer
  accessLifetime := .ofSeconds c.accessSeconds
  refreshLifetime := .ofSeconds c.refreshSeconds
  cost := { Password.Cost.standard with
    memory := c.password.memory
    iterations := c.password.iterations
    parallelism := c.password.parallelism }

/-- **There are settings** exactly if there are spans as long as the lifetimes. -/
theorem authSettings_eq_ok :
    c.authSettings = .ok settings ↔ c.Bounded ∧ settings = c.wantedSettings := by
  simp only [authSettings, Except.bind_eq_ok, Time.Span.ofMinutes?_eq_ok,
    Time.Span.ofHours?_eq_ok]
  constructor
  · rintro ⟨_, ⟨haccess, rfl⟩, _, ⟨hrefresh, rfl⟩, h⟩
    exact ⟨⟨haccess, hrefresh⟩, (Except.ok.inj h).symm⟩
  · rintro ⟨⟨haccess, hrefresh⟩, rfl⟩
    exact ⟨_, ⟨haccess, rfl⟩, _, ⟨hrefresh, rfl⟩, rfl⟩

theorem exists_authSettings_iff : (∃ settings, c.authSettings = .ok settings) ↔ c.Bounded := by
  simp only [authSettings_eq_ok, exists_and_left, exists_eq, and_true]

/-- Whether an authenticator is made of the configuration. -/
def MakesAuthenticator (c : Configuration) (a : Authenticator) : Prop :=
  ∃ settings, c.authSettings = .ok settings ∧ Authenticator.ofSettings settings = .ok a

/-- **The tokens of a configuration** live for the time that is configured. -/
theorem livesFor (h : c.MakesAuthenticator a) : a.LivesFor c.accessSeconds c.refreshSeconds := by
  obtain ⟨settings, hsettings, ha⟩ := h
  obtain ⟨-, rfl⟩ := authSettings_eq_ok.1 hsettings
  obtain ⟨-, -, -, haccess, hrefresh⟩ := Authenticator.ofSettings_eq_ok.1 ha
  exact Authenticator.livesFor haccess hrefresh

/-! ## Usable configurations -/

/-- Whether a configuration is usable between two seconds: it has settings, and the authenticator
that is made of them, if one is, serves whenever the clock shows a time between them. -/
def Usable (c : Configuration) (first last : Int) : Prop :=
  (∃ settings, c.authSettings = .ok settings) ∧
    ∀ a, c.MakesAuthenticator a →
      ∀ clock : Time.Instant, first ≤ clock.timestamp → clock.timestamp ≤ last → a.Serves clock

/-- **The configurations that are usable throughout a time.** There have to be spans as long as the
lifetimes; and if an authenticator is made, the lifetimes may neither be negative nor lead beyond
the calendar from the last second of that time. Its tokens are issued whenever their ends lie within
the calendar, and accepted from the second of issue to their ends, whatever is configured. -/
theorem usable_iff (c : Configuration) {first last : Int} (hfirst : 0 ≤ first)
    (horder : first ≤ last) (hlast : last ≤ Time.lastSecond) :
    (∀ a, c.MakesAuthenticator a → a.LivesFor c.accessSeconds c.refreshSeconds) ∧
    (c.Usable first last ↔
      c.Bounded ∧ ((∃ a, c.MakesAuthenticator a) →
        (0 ≤ c.accessSeconds ∧ last + c.accessSeconds ≤ Time.lastSecond) ∧
        (0 ≤ c.refreshSeconds ∧ last + c.refreshSeconds ≤ Time.lastSecond))) := by
  have hcalendar : Time.firstSecond ≤ 0 := by decide
  refine ⟨fun a => livesFor, and_congr exists_authSettings_iff ⟨?_, ?_⟩⟩
  · rintro husable ⟨a, ha⟩
    have hclock : (Time.Instant.ofSeconds last).timestamp = last :=
      Int.mul_ediv_cancel _ (by decide)
    have hserves := husable a ha (.ofSeconds last) (horder.trans_eq hclock.symm) hclock.le
    have hlifetimes := ((livesFor ha).serves_iff
      (hclock.symm ▸ ⟨by omega, hlast⟩) (hclock.symm ▸ by omega)).1 hserves
    rwa [hclock] at hlifetimes
  · intro hlifetimes a ha clock hfrom hto
    refine ((livesFor ha).serves_iff ⟨by omega, by omega⟩ (by omega)).2 ?_
    obtain ⟨haccess, hrefresh⟩ := hlifetimes ⟨a, ha⟩
    omega

/-- A configuration with the given lifetimes, and the standard costs. -/
def withLifetimes (accessMinutes refreshHours : Int) : Configuration where
  database := ⟨"postgres://localhost/accounts", 5, 5⟩
  server := ⟨8080, 30, true⟩
  token := ⟨"account-service", "access", "refresh", "cursor", accessMinutes, refreshHours⟩
  password := ⟨65536, 3, 2⟩

theorem exists_makesAuthenticator {minutes hours : Int}
    (h : (withLifetimes minutes hours).Bounded) :
    ∃ a, (withLifetimes minutes hours).MakesAuthenticator a :=
  ⟨_, _, authSettings_eq_ok.2 ⟨h, rfl⟩, rfl⟩

/-- The standard lifetimes are usable from 2024 to 2100. A lifetime that is negative and one that
leads beyond the calendar are not, though authenticators are made with them. -/
theorem usable_iff_standard :
    let first := Time.startOfYear 2024
    let last := Time.startOfYear 2101 - 1
    (withLifetimes 15 72).Usable first last ∧
    (∃ a, (withLifetimes (-1) 72).MakesAuthenticator a) ∧
      ¬ (withLifetimes (-1) 72).Usable first last ∧
    (∃ a, (withLifetimes 150000000000 72).MakesAuthenticator a) ∧
      ¬ (withLifetimes 150000000000 72).Usable first last := by
  intro first last
  have husable := fun c : Configuration =>
    (usable_iff c (show 0 ≤ first by decide) (show first ≤ last by decide) (by decide)).2
  have hnegative : ∃ a, (withLifetimes (-1) 72).MakesAuthenticator a :=
    exists_makesAuthenticator ⟨by decide, by decide⟩
  have hlong : ∃ a, (withLifetimes 150000000000 72).MakesAuthenticator a :=
    exists_makesAuthenticator ⟨by decide, by decide⟩
  refine ⟨(husable _).2 ⟨⟨by decide, by decide⟩, fun _ => by decide⟩, hnegative, fun h => ?_,
    hlong, fun h => ?_⟩
  · exact absurd (((husable _).1 h).2 hnegative).1.1 (by decide)
  · exact absurd (((husable _).1 h).2 hlong).1.2 (by decide)

/-- **A configuration that is not usable:** there is no span of so many minutes. -/
theorem not_usable :
    ¬ ∀ c : Configuration, Integer.IsSigned64 c.token.accessMinutes →
      Integer.IsSigned64 c.token.refreshHours →
      c.Usable (Time.startOfYear 2024) (Time.startOfYear 2101 - 1) := by
  intro h
  obtain ⟨hsettings, -⟩ := h (withLifetimes 153722867280913 72) (by decide) (by decide)
  have hbounded := (exists_authSettings_iff.1 hsettings).access.2
  exact absurd hbounded (by decide)

end Configuration

end Accounts

import Accounts.Proofs.Except
import Accounts.Proofs.Json.Drift
import Accounts.Token.Claims
import Accounts.Token.Window

/-!
# Two readings of one payload

The payload of a token is read twice: for its claims, where every field has to have its form, and
for the check of its validity, where a field of the wrong form counts as missing and reading goes
on wherever it stopped. The two readings need not come to the same place after a field that only
the check looks at, so that they agree on the times takes an argument.

**Main result.** `Window.agrees`: where both readings succeed, the times that the check finds are
those of the claims.
-/

namespace Accounts.Token

open Json Json.Reader Json.Outline

variable {α : Type} {input rest : List UInt8}

/-! ## Claims pass over their fields -/

theorem passes_of_field {name : String} {old value : Option α} {r : Json.Reader α}
    (hr : ∀ input, Leads (plainAt 0) (plainAt 0) input (r input))
    (h : Reader.field name old r input = .ok value rest) :
    ∃ mid, colon input = .ok () mid ∧ Passes mid rest := by
  obtain ⟨-, mid, a, hcolon, hread, -⟩ := field_eq_ok.1 h
  exact ⟨mid, hcolon, (hread ▸ hr mid : Leads _ _ _ (Outcome.ok a rest)).passes⟩

theorem passes_of_ignoredField {name : String} (h : ignoredField name input = .ok () rest) :
    ∃ mid, colon input = .ok () mid ∧ Passes mid rest := by
  obtain ⟨mid, hcolon, hread⟩ := ignoredField_eq_ok.1 h
  exact ⟨mid, hcolon, (hread ▸ leads_skip 0 mid : Leads _ _ _ (Outcome.ok () rest)).passes⟩

theorem Metadata.leads_reader (input : List UInt8) :
    Leads (plainAt 0) (plainAt 0) input (Metadata.reader input) :=
  leads_object (fun _ _ input => .bind (leads_colon 0 input) fun _ rest _ =>
    .bind (leads_string 1 _ rest) fun _ _ _ => .ok) input

namespace Claims

theorem member_passes {key : String} {d next : Draft} (h : member key d input = .ok next rest) :
    ∃ mid, colon input = .ok () mid ∧ Passes mid rest := by
  have hfield : ∀ {α : Type} {name : String} {old : Option α} {r : Json.Reader α}
      {f : Option α → Draft}, (∀ input, Leads (plainAt 0) (plainAt 0) input (r input)) →
      (do pure (f (← Reader.field name old r)) : Json.Reader Draft) input = .ok next rest →
      ∃ mid, colon input = .ok () mid ∧ Passes mid rest := by
    intro α name old r f hr h
    obtain ⟨value, mid, hread, h⟩ := bind_eq_ok.1 h
    cases h
    exact passes_of_field hr hread
  unfold member at h
  split at h
  · exact hfield (leads_string 0 _) h
  · exact hfield (leads_string 0 _) h
  · exact hfield (leads_string 0 _) h
  · exact hfield (leads_integer 0 _ _) h
  · exact hfield (leads_integer 0 _ _) h
  · exact hfield (leads_integer 0 _ _) h
  · exact hfield leads_variant h
  · exact hfield Metadata.leads_reader h
  · obtain ⟨_, mid, hread, h⟩ := bind_eq_ok.1 h
    cases h
    exact passes_of_ignoredField hread

end Claims

/-! ## The check strays -/

namespace Window

/-- A reader that looks at what was tried goes on where the trial stopped. -/
theorem attempt_bind_eq_ok {β : Type} {r : Json.Reader α} {f : Option α → Json.Reader β} {b : β}
    (hf : ∀ found input, ∃ b, f found input = .ok b input)
    (h : (attempt r >>= f) input = .ok b rest) :
    rest = remainder (r input) ∧ f (value? (r input)) rest = .ok b rest := by
  rw [bind_of_eq_ok (attempt_apply r input)] at h
  obtain ⟨c, hc⟩ := hf (value? (r input)) (remainder (r input))
  rw [hc] at h
  cases h
  exact ⟨rfl, hc⟩

theorem timeReader_eq_ok {found : Option Nat} (h : timeReader input = .ok found rest) :
    rest = remainder (value 127 input) ∧
      ∀ n, found = some n → value? (value 127 input) = some (.number (.natural n)) := by
  obtain ⟨hrest, h⟩ := attempt_bind_eq_ok (fun found input => by split <;> exact ⟨_, rfl⟩) h
  refine ⟨hrest, ?_⟩
  rintro n rfl
  generalize value? (value 127 input) = found at h ⊢
  split at h
  · cases h
    rfl
  · cases h

theorem strays_of_field {name : String} {old value : Option α} {r : Json.Reader α}
    (hr : ∀ {input a rest}, r input = .ok a rest → Strays input rest)
    (h : Reader.field name old r input = .ok value rest) :
    ∃ mid, colon input = .ok () mid ∧ Strays mid rest := by
  obtain ⟨-, mid, a, hcolon, hread, -⟩ := field_eq_ok.1 h
  exact ⟨mid, hcolon, hr hread⟩

theorem timeReader_strays {found : Option Nat} (h : timeReader input = .ok found rest) :
    Strays input rest := by
  rw [(timeReader_eq_ok h).1]
  exact (leads_value 127 0 input).strays

theorem subjectReader_strays {found : Bool} (h : subjectReader input = .ok found rest) :
    Strays input rest := by
  obtain ⟨rfl, -⟩ := attempt_bind_eq_ok (fun found input => by split <;> exact ⟨_, rfl⟩) h
  exact (leads_optional (leads_string 0 _) input).strays

theorem namesReader_strays {found : Bool} (h : namesReader input = .ok found rest) :
    Strays input rest := by
  obtain ⟨rfl, -⟩ := attempt_bind_eq_ok (fun found input => by split <;> exact ⟨_, rfl⟩) h
  exact (leads_optional (leads_value 127 0) input).strays

/-- Every key of the check has a letter that stands in no word and no number. -/
theorem not_faint {key : String} (h : key ∈ ["exp", "nbf", "sub", "iss", "aud"]) :
    ¬ Faint key := by
  have hletters : ∀ key ∈ ["exp", "nbf", "sub", "iss", "aud"],
      ∃ b ∈ Utf8.encode key, b ∈ textOnly := by decide
  obtain ⟨b, hb, htext⟩ := hletters key h
  exact fun hfaint => hfaint b hb htext

theorem member_strays {key : String} {d next : Draft} (h : member key d input = .ok next rest) :
    MemberStrays key input rest := by
  have hfield : ∀ {α : Type} {name : String} {old : Option α} {r : Json.Reader α}
      {f : Option α → Draft}, name ∈ ["exp", "nbf", "sub", "iss", "aud"] →
      (∀ {input a rest}, r input = .ok a rest → Strays input rest) →
      (do pure (f (← Reader.field name old r)) : Json.Reader Draft) input = .ok next rest →
      MemberStrays name input rest := by
    intro α name old r f hname hr h
    obtain ⟨value, mid, hread, h⟩ := bind_eq_ok.1 h
    cases h
    obtain ⟨mid, hcolon, hstray⟩ := strays_of_field hr hread
    exact ⟨mid, hcolon, hstray, fun hfaint => (not_faint hname hfaint).elim⟩
  unfold member at h
  split at h
  · exact hfield (by simp) timeReader_strays h
  · exact hfield (by simp) timeReader_strays h
  · exact hfield (by simp) subjectReader_strays h
  · refine hfield (by simp) (fun h => ?_) h
    obtain ⟨found, mid, hread, h⟩ := bind_eq_ok.1 h
    cases h
    exact namesReader_strays hread
  · exact hfield (by simp) namesReader_strays h
  · obtain ⟨_, mid, hread, h⟩ := bind_eq_ok.1 h
    cases h
    obtain ⟨mid, hcolon, hpass⟩ := passes_of_ignoredField hread
    exact ⟨mid, hcolon, hpass.strays, fun _ => hpass⟩

end Window

/-! ## In step -/

/-- The times that the check has found so far are those of the claims. -/
structure Aligned (c : Claims.Draft) (w : Window.Draft) : Prop where
  expiry : ∀ n : Nat, w.expiry = some (some n) →
    c.expiresAt = some (n : Int) ∧ Integer.IsSigned64 n
  notBefore : ∀ n : Nat, w.notBefore = some (some n) →
    c.notBefore = some (n : Int) ∧ Integer.IsSigned64 n

theorem aligned_start : Aligned {} {} := ⟨fun _ h => (nomatch h), fun _ h => (nomatch h)⟩

/-- A time of the claims is a time for the check, unless it is negative. -/
theorem eq_of_timeReader {n : Int} {m : Nat} {rest' : List UInt8}
    (hclaim : Claims.timeReader input = .ok n rest)
    (hcheck : Window.timeReader input = .ok (some m) rest') : n = m ∧ Integer.IsSigned64 n := by
  obtain ⟨b, after, number, hinput, hb, hnumber, hwhole, hfits⟩ := integer_eq_ok.1 hclaim
  have hvalue := (Window.timeReader_eq_ok hcheck).2 m rfl
  rw [value_of_number hinput hb hnumber] at hvalue
  cases hvalue
  exact ⟨(Option.some.inj hwhole).symm, of_decide_eq_true hfits⟩

theorem time_of_fields {name : String} {oldClaim newClaim : Option Int}
    {oldTime newTime : Option (Option Nat)} {rest' : List UInt8} {m : Nat}
    (hclaim : Reader.field name oldClaim Claims.timeReader input = .ok newClaim rest)
    (hcheck : Reader.field name oldTime Window.timeReader input = .ok newTime rest')
    (hm : newTime = some (some m)) : newClaim = some (m : Int) ∧ Integer.IsSigned64 m := by
  obtain ⟨-, mid, n, hcolon, hn, rfl⟩ := field_eq_ok.1 hclaim
  obtain ⟨-, mid', found, hcolon', hfound, rfl⟩ := field_eq_ok.1 hcheck
  rw [hcolon] at hcolon'
  cases hcolon'
  cases hm
  obtain ⟨rfl, hfits⟩ := eq_of_timeReader hn hfound
  exact ⟨rfl, hfits⟩

theorem aligned_member {key : String} {c c' : Claims.Draft} {w w' : Window.Draft}
    {rest' : List UInt8} (h : Aligned c w) (hclaim : Claims.member key c input = .ok c' rest)
    (hcheck : Window.member key w input = .ok w' rest') : Aligned c' w' := by
  by_cases hexp : key = "exp"
  · subst hexp
    obtain ⟨_, _, hclaim, hc⟩ := bind_eq_ok.1 hclaim
    obtain ⟨_, _, hcheck, hw⟩ := bind_eq_ok.1 hcheck
    cases hc
    cases hw
    exact ⟨fun m hm => time_of_fields hclaim hcheck hm, h.notBefore⟩
  by_cases hnbf : key = "nbf"
  · subst hnbf
    obtain ⟨_, _, hclaim, hc⟩ := bind_eq_ok.1 hclaim
    obtain ⟨_, _, hcheck, hw⟩ := bind_eq_ok.1 hcheck
    cases hc
    cases hw
    exact ⟨h.expiry, fun m hm => time_of_fields hclaim hcheck hm⟩
  have hc : c'.expiresAt = c.expiresAt ∧ c'.notBefore = c.notBefore := by
    unfold Claims.member at hclaim
    split at hclaim <;> obtain ⟨_, _, -, hc⟩ := bind_eq_ok.1 hclaim <;> cases hc <;>
      first | exact ⟨rfl, rfl⟩ | contradiction
  have hw : w'.expiry = w.expiry ∧ w'.notBefore = w.notBefore := by
    unfold Window.member at hcheck
    split at hcheck <;> obtain ⟨_, _, -, hw⟩ := bind_eq_ok.1 hcheck <;> cases hw <;>
      first | exact ⟨rfl, rfl⟩ | contradiction
  exact ⟨fun m hm => hc.1 ▸ h.expiry m (hw.1 ▸ hm), fun m hm => hc.2 ▸ h.notBefore m (hw.2 ▸ hm)⟩

/-- **In step to the end.** Both readings go through the members of one object. -/
theorem aligned_members {fuel fuel' : Nat} {first : Bool} {c c' : Claims.Draft}
    {w w' : Window.Draft} {left right mid mid' : List UInt8} (h : Aligned c w)
    (hplace : left.dropWhile isSpace = right.dropWhile isSpace)
    (hrun : (plainAt 1).run left = some (plainAt 0))
    (hclaims : members Claims.member fuel first c left = .ok c' mid)
    (hcheck : members Window.member fuel' first w right = .ok w' mid')
    (hend : ¬ Adrift mid') : Aligned c' w' := by
  induction fuel generalizing fuel' first c w left right with
  | zero => cases hclaims
  | succ fuel ih =>
    cases fuel' with
    | zero => cases hcheck
    | succ fuel' =>
      have hkeys := nextKey_congr first hplace
      rcases members_eq_ok.1 hclaims with
        ⟨hkey, rfl⟩ | ⟨key, value, next, left', hkey, hmember, hclaims⟩ <;>
      rcases members_eq_ok.1 hcheck with
        ⟨hkey', rfl⟩ | ⟨key', value', next', right', hkey', hmember', hcheck⟩ <;>
      rw [← hkeys, hkey] at hkey' <;> cases hkey'
      · exact h
      · obtain ⟨v, hcolon, hpass⟩ := Claims.member_passes hmember
        obtain ⟨v', hcolon', hstray, -⟩ := Window.member_strays hmember'
        rw [hcolon] at hcolon'
        cases hcolon'
        have hvalue : (plainAt 1).run value = some (plainAt 0) :=
          (hkey ▸ leads_nextKey 0 first left : Leads _ _ _ (Outcome.ok (some key) value)).run_deep
            hrun
        have hv : (plainAt 1).run v = some (plainAt 0) :=
          (hcolon ▸ leads_colon 0 value : Leads _ _ _ (Outcome.ok () v)).run_deep hvalue
        rcases rejoin hv hpass hstray (separated_of_members hclaims)
          (separated_of_members hcheck) with hsame | hadrift
        · exact ih (aligned_member h hmember hmember') hsame (hpass.leads.run_deep hv) hclaims
            hcheck
        · exact (hend (hadrift.members Window.member_strays hcheck)).elim

/-! ## Whole payloads -/

theorem Claims.require_eq_ok {α : Type} {name : String} {found : Option α} {a : α} :
    Claims.require name found = .ok a ↔ found = some a := by
  cases found <;> simp [Claims.require]

theorem Claims.Draft.finish_eq_ok {d : Claims.Draft} {c : Claims} (h : d.finish = .ok c) :
    d.expiresAt.map Int64.ofInt = some c.expiresAt ∧
      d.notBefore.map Int64.ofInt = some c.notBefore := by
  simp only [Draft.finish, Except.bind_eq_ok, require_eq_ok] at h
  obtain ⟨_, -, _, -, _, -, _, -, notBefore, hnotBefore, expiresAt, hexpiresAt, _, -, h⟩ := h
  cases h
  exact ⟨by rw [hexpiresAt]; rfl, by rw [hnotBefore]; rfl⟩

theorem toInt_ofInt {n : Int} (h : Integer.IsSigned64 n) : (Int64.ofInt n).toInt = n := by
  unfold Integer.IsSigned64 at h
  exact Int64.toInt_ofInt_of_le (by omega) (by omega)

/-- A list of claims begins with a text, in which the check finds no time. -/
theorem Window.expiry_of_positional {c : Claims} {w : Window} {rest' : List UInt8}
    (hclaims : Claims.positional input = .ok c rest)
    (hcheck : Window.positional input = .ok w rest') : w.expiry = none := by
  obtain ⟨subject, mid, hsubject, -⟩ := bind_eq_ok.1 hclaims
  obtain ⟨place, hnext, hsubject⟩ := elementAt_eq_ok.1 hsubject
  obtain ⟨after, hplace, htext⟩ := string_eq_ok.1 hsubject
  obtain ⟨expiry, mid', hexpiry, hcheck⟩ := bind_eq_ok.1 hcheck
  obtain ⟨place', hnext', hexpiry⟩ := elementAt_eq_ok.1 hexpiry
  rw [hnext] at hnext'
  cases hnext'
  have hvalue := (Window.timeReader_eq_ok hexpiry).2
  rw [value_of_text hplace htext] at hvalue
  have hnone : expiry = none := Option.eq_none_iff_forall_ne_some.2 fun n hn => by
    cases hvalue n hn
  obtain ⟨_, _, -, hcheck⟩ := bind_eq_ok.1 hcheck
  obtain ⟨_, _, -, hcheck⟩ := bind_eq_ok.1 hcheck
  obtain ⟨_, _, -, hcheck⟩ := bind_eq_ok.1 hcheck
  obtain ⟨_, _, -, hcheck⟩ := bind_eq_ok.1 hcheck
  cases hcheck
  exact hnone

theorem getD_none_eq_some {found : Option (Option α)} {a : α} (h : found.getD none = some a) :
    found = some (some a) := by
  cases found with
  | none => cases h
  | some found => exact congrArg some h

/-- **The readings agree.** Where the check finds both times, they are those of the claims. -/
theorem Window.agrees {payload : List UInt8} {c : Claims} {w : Window} {expiry notBefore : Nat}
    (hclaims : Claims.decode payload = .ok c) (hcheck : Window.decode payload = .ok w)
    (hexpiry : w.expiry = some expiry) (hnotBefore : w.notBefore = some notBefore) :
    c.expiresAt.toInt = expiry ∧ c.notBefore.toInt = notBefore := by
  obtain ⟨rest, hclaims, hrest⟩ := run_eq_ok.1 hclaims
  obtain ⟨rest', hcheck, hrest'⟩ := run_eq_ok.1 hcheck
  rcases record_eq_ok.1 hclaims with ⟨after, mid, hstart, hclaims, -⟩ | hclaims <;>
  rcases record_eq_ok.1 hcheck with ⟨after', mid', hstart', hcheck, -⟩ | hcheck
  · rw [hstart] at hstart'
    cases hstart'
    rw [Window.expiry_of_positional hclaims hcheck] at hexpiry
    cases hexpiry
  · obtain ⟨_, _, _, hstart', -⟩ := object_eq_ok.1 hcheck
    rw [hstart] at hstart'
    cases hstart'
  · obtain ⟨_, _, _, hstart, -⟩ := object_eq_ok.1 hclaims
    rw [hstart] at hstart'
    cases hstart'
  obtain ⟨after, d, mid, hstart, hmembers, hfinish, hend⟩ := object_eq_ok.1 hclaims
  obtain ⟨after', d', mid', hstart', hmembers', hfinish', hend'⟩ := object_eq_ok.1 hcheck
  rw [hstart] at hstart'
  cases hstart'
  have haligned : Aligned d d' :=
    aligned_members aligned_start rfl (run_of_members Claims.member_passes hmembers hend hrest)
      hmembers hmembers' fun hadrift => hadrift.not_closed hend' hrest'
  obtain ⟨hc, hc'⟩ := Claims.Draft.finish_eq_ok hfinish
  cases hfinish'
  have hfound : d'.expiry = some (some expiry) := getD_none_eq_some hexpiry
  have hfound' : d'.notBefore = some (some notBefore) := getD_none_eq_some hnotBefore
  obtain ⟨htime, hfits⟩ := haligned.expiry expiry hfound
  obtain ⟨htime', hfits'⟩ := haligned.notBefore notBefore hfound'
  rw [htime, Option.map_some, Option.some.injEq] at hc
  rw [htime', Option.map_some, Option.some.injEq] at hc'
  exact ⟨hc ▸ toInt_ofInt hfits, hc' ▸ toInt_ofInt hfits'⟩

end Accounts.Token

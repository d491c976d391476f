import Accounts.Proofs.Token.Header
import Accounts.Proofs.Token.RoundTrip
import Mathlib.Tactic.SplitIfs

/-!
# What a verified token is

A token is accepted only under the key of the expected purpose, and only for what it says. The
acceptance of a token is taken apart into what holds of its three segments, and the fate of a token
that was signed here is computed.

* `parse_eq_ok` — when a token is accepted under a key.
* `parse_sign` — the fate of a signed token under any key.
* `verify_sound` — what is known of a token that serves a purpose.
-/

namespace Accounts.Token

open Json

variable {key : Key} {now : Nat} {c : Claims}

/-! ## The check of validity -/

theorem Window.check_eq_ok {w : Window} :
    w.check now = .ok () ↔ ∃ expiry notBefore, w.expiry = some expiry ∧
      w.notBefore = some notBefore ∧ w.hasSubject = true ∧ notBefore ≤ now ∧ now ≤ expiry ∧
      w.hasAudience = false := by
  obtain ⟨expiry, notBefore, hasSubject, hasAudience⟩ := w
  cases expiry with
  | none => simp [check]
  | some expiry =>
    cases notBefore with
    | none => simp [check]
    | some notBefore =>
      cases hasSubject with
      | false => simp [check]
      | true =>
        simp only [check, Bool.not_true, Bool.false_eq_true, if_false, Option.some.injEq]
        split
        · simp only [reduceCtorEq, false_iff]
          rintro ⟨_, _, rfl, rfl, -, hnotBefore, hexpiry, -⟩
          omega
        split
        · simp only [reduceCtorEq, false_iff]
          rintro ⟨_, _, rfl, rfl, -, hnotBefore, hexpiry, -⟩
          omega
        cases hasAudience with
        | true => simp
        | false =>
          simp only [Bool.false_eq_true, if_false, true_iff]
          exact ⟨expiry, notBefore, rfl, rfl, trivial, by omega, by omega, trivial⟩

/-! ## Acceptance -/

/-- **Acceptance under a key**, segment by segment. -/
theorem parse_eq_ok {token : String} :
    parse key now token = .ok c ↔ ∃ header payload headerBytes payloadBytes window,
      token.toList = (header ++ '.' :: payload) ++
        '.' :: signature key (header ++ '.' :: payload) ∧
      '.' ∉ payload ∧
      segmentBytes header = .ok headerBytes ∧ Header.decode headerBytes = .ok ⟨.hs256⟩ ∧
      segmentBytes payload = .ok payloadBytes ∧ Claims.decode payloadBytes = .ok c ∧
      Window.decode payloadBytes = .ok window ∧ window.check now = .ok () := by
  constructor
  · intro h
    obtain ⟨⟨header, payload, signed⟩, hsegments, h⟩ := Except.bind_eq_ok.1 h
    obtain ⟨htoken, hpayload, -⟩ := segments_eq_ok.1 hsegments
    obtain ⟨headerBytes, hheader, h⟩ := Except.bind_eq_ok.1 h
    obtain ⟨head, hhead, h⟩ := Except.bind_eq_ok.1 h
    replace hhead := Except.mapError_eq_ok.1 hhead
    split at h
    · cases h
    next halgorithm =>
    split at h
    · cases h
    next hsigned =>
    obtain ⟨payloadBytes, hbytes, h⟩ := Except.bind_eq_ok.1 h
    obtain ⟨claims, hclaims, h⟩ := Except.bind_eq_ok.1 h
    obtain ⟨window, hwindow, h⟩ := Except.bind_eq_ok.1 h
    obtain ⟨_, hcheck, h⟩ := Except.bind_eq_ok.1 h
    cases h
    rw [not_not] at halgorithm hsigned
    subst hsigned
    obtain ⟨algorithm⟩ := head
    cases halgorithm
    exact ⟨header, payload, headerBytes, payloadBytes, window, htoken, hpayload, hheader, hhead,
      hbytes, Except.mapError_eq_ok.1 hclaims, Except.mapError_eq_ok.1 hwindow, hcheck⟩
  · rintro ⟨header, payload, headerBytes, payloadBytes, window, htoken, hpayload, hheader, hhead,
      hbytes, hclaims, hwindow, hcheck⟩
    have hsegments := segments_eq_ok.2 ⟨htoken, hpayload, not_mem_segment _⟩
    rw [parse, Except.bind_of_eq_ok hsegments]
    simp only [hheader, hhead, hbytes, hclaims, hwindow, hcheck, Except.mapError_ok, Except.ok_bind,
      ne_eq, not_true_eq_false, if_false]
    rfl

/-! ## Signed tokens -/

/-- What a token with these claims is good for under any key: it is accepted within its validity if
the signature under that key is the same. -/
theorem parse_sign (c : Claims) (key key' : Key) (now : Nat) :
    parse key' now (sign c key) =
      if signature key (message c) = signature key' (message c) then
        ((Window.ofClaims c).check now).map fun _ => c
      else .error .badSignature := by
  rw [parse, Except.bind_of_eq_ok (segments_sign c key)]
  simp only [segmentBytes_segment, Header.decode_written, Except.mapError_ok, Except.ok_bind, ne_eq,
    ite_not, if_true, Claims.decode_encode, Window.decode_encode]
  have hmessage : segment Header.written ++ '.' :: segment c.encode = message c := rfl
  rw [hmessage]
  split
  · cases (Window.ofClaims c).check now <;> rfl
  · rfl

theorem toNat?_eq_some {n : Int} {m : Nat} : n.toNat? = some m ↔ n = m := by
  cases n with
  | ofNat k => exact Option.some_inj.trans Int.ofNat_inj.symm
  | negSucc k => exact ⟨nofun, nofun⟩

/-- Claims are accepted within their validity, which begins in 1970 at the earliest. -/
theorem check_ofClaims :
    (Window.ofClaims c).check now = .ok () ↔
      0 ≤ c.notBefore.toInt ∧ c.notBefore.toInt ≤ now ∧ now ≤ c.expiresAt.toInt := by
  rw [Window.check_eq_ok]
  simp only [Window.ofClaims, toNat?_eq_some]
  constructor
  · rintro ⟨expiry, notBefore, hexpiry, hnotBefore, -, hstart, hend, -⟩
    omega
  · rintro ⟨hzero, hstart, hend⟩
    exact ⟨c.expiresAt.toInt.toNat, c.notBefore.toInt.toNat, by omega, by omega, trivial, by omega,
      by omega, trivial⟩

theorem parse_sign_self (hzero : 0 ≤ c.notBefore.toInt) (hstart : c.notBefore.toInt ≤ now)
    (hend : now ≤ c.expiresAt.toInt) (key : Key) : parse key now (sign c key) = .ok c := by
  rw [parse_sign, if_pos rfl, check_ofClaims.2 ⟨hzero, hstart, hend⟩]
  rfl

/-! ## Soundness -/

theorem verify_eq_ok {codec : Codec} {token : String} {purpose : Purpose} :
    codec.verify now token purpose = .ok c ↔
      parse (codec.keys.key purpose) now token = .ok c ∧ c.purpose = purpose := by
  rw [Codec.verify, Except.bind_eq_ok]
  constructor
  · rintro ⟨claims, hparse, h⟩
    split at h
    · cases h
    · next hpurpose =>
      cases h
      exact ⟨hparse, not_not.1 hpurpose⟩
  · rintro ⟨hparse, hpurpose⟩
    exact ⟨c, hparse, by rw [if_neg (not_not.2 hpurpose)]; rfl⟩

/-- The secret that is configured for a purpose. -/
def secretFor (access refresh cursor : List UInt8) : Purpose → List UInt8
  | .access => access
  | .refresh => refresh
  | .cursor => cursor

theorem KeyRing.secret_key {access refresh cursor : List UInt8} {ring : KeyRing}
    (h : KeyRing.ofSecrets access refresh cursor = .ok ring) (purpose : Purpose) :
    (ring.key purpose).secret = secretFor access refresh cursor purpose := by
  unfold ofSecrets at h
  split_ifs at h
  obtain ⟨⟨_, rfl⟩, -, h⟩ := Except.bind_eq_ok.1 h
  obtain ⟨⟨_, rfl⟩, -, h⟩ := Except.bind_eq_ok.1 h
  obtain ⟨⟨_, rfl⟩, -, h⟩ := Except.bind_eq_ok.1 h
  cases h
  cases purpose <;> rfl

/-- What is known of a token that was accepted: its three segments, the header and the method that
it names, the signature under a secret, the claims in its payload, their purpose and their
validity. -/
def Genuine (secret : List UInt8) (purpose : Purpose) (now : Nat) (token : String)
    (c : Claims) : Prop :=
  ∃ header payload signed headerBytes payloadBytes,
    token.toList = header ++ '.' :: (payload ++ '.' :: signed) ∧
    token.toList.count '.' = 2 ∧
    segmentBytes header = .ok headerBytes ∧ Header.decode headerBytes = .ok ⟨.hs256⟩ ∧
    Names "HS256" headerBytes ∧
    signed = segment (Sha256.hmac secret
      (Utf8.encode (String.ofList (header ++ '.' :: payload)))) ∧
    segmentBytes payload = .ok payloadBytes ∧ Claims.decode payloadBytes = .ok c ∧
    c.purpose = purpose ∧
    0 ≤ c.notBefore.toInt ∧ c.notBefore.toInt ≤ now ∧ now ≤ c.expiresAt.toInt

/-- **Acceptance is sound.** Whatever text is presented, a token that serves a purpose is genuine
under the secret configured for that purpose, whatever its header or payload say. -/
theorem verify_sound {access refresh cursor : List UInt8} {ring : KeyRing} {issuer token : String}
    {purpose : Purpose} (hring : KeyRing.ofSecrets access refresh cursor = .ok ring)
    (h : (Codec.mk ring issuer).verify now token purpose = .ok c) :
    Genuine (secretFor access refresh cursor purpose) purpose now token c := by
  obtain ⟨hparse, hpurpose⟩ := verify_eq_ok.1 h
  obtain ⟨header, payload, headerBytes, payloadBytes, window, htoken, hpayload, hheader, hhead,
    hbytes, hclaims, hwindow, hcheck⟩ := parse_eq_ok.1 hparse
  obtain ⟨expiry, notBefore, hexpiry, hnotBefore, -, hstart, hend, -⟩ :=
    Window.check_eq_ok.1 hcheck
  obtain ⟨hc, hc'⟩ := Window.agrees hclaims hwindow hexpiry hnotBefore
  have hdots : (header ++ '.' :: (payload ++ '.' :: signature (ring.key purpose)
      (header ++ '.' :: payload))).count '.' = 2 := by
    simp only [List.count_append, List.count_cons_self,
      List.count_eq_zero.2 (not_mem_of_segmentBytes hheader), List.count_eq_zero.2 hpayload,
      List.count_eq_zero.2 (not_mem_segment _), signature]
  rw [List.append_assoc, List.cons_append] at htoken
  refine ⟨header, payload, _, headerBytes, payloadBytes, htoken, htoken ▸ hdots, hheader, hhead,
    Header.names_hs256 hhead, ?_, hbytes, hclaims, hpurpose, by omega, by omega, by omega⟩
  rw [signature, ← KeyRing.secret_key hring purpose]

/-- A token that was signed for access is accepted, and so it is genuine. -/
theorem verify_sound_signed :
    ∃ ring token, KeyRing.ofSecrets [97] [114] [99] = .ok ring ∧
      (Codec.mk ring "issuer").verify 5 token .access =
        .ok ⟨"1", "issuer", "", 0, 0, 9, .access, .empty⟩ ∧
      Genuine [97] .access 5 token ⟨"1", "issuer", "", 0, 0, 9, .access, .empty⟩ := by
  let ring : KeyRing := ⟨⟨[97], by decide⟩, ⟨[114], by decide⟩, ⟨[99], by decide⟩, by decide⟩
  let c : Claims := ⟨"1", "issuer", "", 0, 0, 9, .access, .empty⟩
  have hring : KeyRing.ofSecrets [97] [114] [99] = .ok ring := rfl
  have hparse : parse (ring.key .access) 5 (sign c (ring.key .access)) = .ok c :=
    parse_sign_self (by decide) (by decide) (by decide) _
  have hverify : (Codec.mk ring "issuer").verify 5 (sign c (ring.key .access)) .access = .ok c :=
    verify_eq_ok.2 ⟨hparse, rfl⟩
  have hgenuine := verify_sound hring hverify
  exact ⟨ring, _, hring, hverify, hgenuine⟩

end Accounts.Token

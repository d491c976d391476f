import Accounts.Proofs.Http.Cookies

/-!
# Who is told about a session

A session is told to whoever presents an access token that holds and that is about an account.
Whoever presents none, or another one, is refused, and learns nothing more. The store is not asked.

* `Request.Presents` — the token that a request presents.
* `Session.Admits` — a token that is presented and that holds, and what it says.
* `session_told_iff` — who is told, and what.

The header of a token and its cookie lead to the same response, unless there is a byte in the
`Cookie` header that is not visible.
-/

namespace Accounts.Http

variable {s : Server} {ambient : Ambient} {r : Request} {token : String} {refusal : Refusal}

/-! ## The token of a request -/

namespace Request

/-- The token that a request presents. If there is an `Authorization` header, it is what follows the
scheme in the first one, without blanks around it; any other header presents none. If there is no
such header, it is the value of the last cookie for access tokens. -/
inductive Presents (r : Request) : String → Prop where
  | bearer {value : List UInt8} {rest : List Char}
      (hheader : r.header? "authorization" = some value)
      (hvalue : visibleText? value = some ("Bearer ".toList ++ rest)) :
      Presents r (String.ofList (Text.trim rest))
  | cookie {token : String} {before after : List (String × String)}
      (hheader : r.header? "authorization" = none)
      (hcookies : r.cookies = before ++ (accessCookie, token) :: after)
      (hafter : ∀ p ∈ after, p.1 ≠ accessCookie) : Presents r token

theorem bearerToken_eq_ok {value : List UInt8} :
    bearerToken value = .ok token ↔ ∃ rest, visibleText? value = some ("Bearer ".toList ++ rest) ∧
      token = String.ofList (Text.trim rest) ∧ token ≠ "" := by
  unfold bearerToken
  cases hvalue : visibleText? value with
  | none => simp
  | some text =>
    simp only [Option.some.injEq]
    cases hprefix : Text.dropPrefix? "Bearer ".toList text with
    | none =>
      simp only [Option.map_none]
      refine iff_of_false nofun ?_
      rintro ⟨rest, rfl, -⟩
      cases hprefix.symm.trans (Text.dropPrefix?_eq_some.2 rfl)
    | some rest =>
      obtain rfl := Text.dropPrefix?_eq_some.1 hprefix
      simp only [Option.map_some, List.append_cancel_left_eq, exists_eq_left']
      cases htrim : Text.trim rest with
      | nil => simp
      | cons c cs =>
        rw [Except.ok.injEq]
        constructor
        · rintro rfl
          exact ⟨rfl, by simp⟩
        · rintro ⟨rfl, -⟩
          rfl

theorem bearerToken_eq_error {value : List UInt8} (h : bearerToken value = .error refusal) :
    ∃ message, refusal = .unauthorized message := by
  unfold bearerToken at h
  split at h
  · cases h
    exact ⟨_, rfl⟩
  · split at h
    · cases h
    · cases h
      exact ⟨_, rfl⟩

theorem accessToken_eq_ok : r.accessToken = .ok token ↔ r.Presents token ∧ token ≠ "" := by
  unfold accessToken
  cases hheader : r.header? "authorization" with
  | some value =>
    dsimp only
    rw [bearerToken_eq_ok]
    constructor
    · rintro ⟨rest, hvalue, rfl, hne⟩
      exact ⟨.bearer hheader hvalue, hne⟩
    · rintro ⟨hpresents, hne⟩
      cases hpresents with
      | bearer hheader' hvalue =>
        cases hheader.symm.trans hheader'
        exact ⟨_, hvalue, rfl, hne⟩
      | cookie hheader' => cases hheader.symm.trans hheader'
  | none =>
    dsimp only
    split
    · next found hfound =>
      obtain ⟨hcookie, hne⟩ := Option.filter_eq_some_iff.1 hfound
      rw [Except.ok.injEq]
      constructor
      · rintro rfl
        obtain ⟨before, after, hcookies, hafter⟩ := cookie?_eq_some.1 hcookie
        exact ⟨.cookie hheader hcookies hafter, by simpa using hne⟩
      · rintro ⟨hpresents, -⟩
        cases hpresents with
        | bearer hheader' => cases hheader.symm.trans hheader'
        | cookie _ hcookies hafter =>
          exact Option.some.inj (hcookie.symm.trans (cookie?_eq_some.2 ⟨_, _, hcookies, hafter⟩))
    · next hnone =>
      refine iff_of_false nofun ?_
      rintro ⟨hpresents, hne⟩
      cases hpresents with
      | bearer hheader' => cases hheader.symm.trans hheader'
      | cookie _ hcookies hafter =>
        rw [cookie?_eq_some.2 ⟨_, _, hcookies, hafter⟩] at hnone
        simp [hne] at hnone

theorem accessToken_eq_error (h : r.accessToken = .error refusal) :
    ∃ message, refusal = .unauthorized message := by
  unfold accessToken at h
  split at h
  · exact bearerToken_eq_error h
  · split at h
    · cases h
    · cases h
      exact ⟨_, rfl⟩

end Request

/-! ## The session of a request -/

namespace Session

/-- A request presents an access token that holds, about the account with a number. -/
structure Admits (a : Authenticator) (now : Nat) (r : Request) (c : Token.Claims) (n : Int) :
    Prop where
  presented : ∃ token, r.Presents token ∧ token ≠ "" ∧ a.validate now token .access = .ok c
  numeral : Integer.Numeral c.subject.toList n
  positive : 0 < n
  bounded : n ≤ Integer.maxSigned64

variable {a : Authenticator} {now : Nat} {session : Session}

theorem ofRequest_eq_ok : ofRequest a now r = .ok session ↔
    ∃ c n, Admits a now r c n ∧ session = ⟨⟨n⟩, Token.Claims.instantOf c.expiresAt⟩ := by
  rw [ofRequest, Except.bind_eq_ok]
  constructor
  · rintro ⟨token, htoken, h⟩
    obtain ⟨hpresents, hne⟩ := Request.accessToken_eq_ok.1 htoken
    split at h
    · cases h
    next c hvalid =>
    split at h
    · cases h
    next id hid =>
    cases h
    obtain ⟨hnumeral, hpos, hle⟩ := AccountId.ofText_eq_ok.1 (Token.Claims.accountId_eq_ok.1 hid)
    exact ⟨c, id.value, ⟨⟨token, hpresents, hne, hvalid⟩, hnumeral, hpos, hle⟩, rfl⟩
  · rintro ⟨c, n, ⟨⟨token, hpresents, hne, hvalid⟩, hnumeral, hpos, hle⟩, rfl⟩
    have hid : c.accountId = .ok ⟨n⟩ :=
      Token.Claims.accountId_eq_ok.2 (AccountId.ofText_eq_ok.2 ⟨hnumeral, hpos, hle⟩)
    refine ⟨token, Request.accessToken_eq_ok.2 ⟨hpresents, hne⟩, ?_⟩
    simp only [hvalid, hid]

theorem ofRequest_eq_error (h : ofRequest a now r = .error refusal) :
    ∃ message, refusal = .unauthorized message := by
  rw [ofRequest] at h
  cases htoken : r.accessToken with
  | error fault =>
    rw [htoken] at h
    cases h
    exact Request.accessToken_eq_error htoken
  | ok token =>
    rw [htoken, Except.ok_bind] at h
    split at h
    · cases h
      exact ⟨_, rfl⟩
    split at h
    · cases h
      exact ⟨_, rfl⟩
    · cases h

end Session

/-! ## The response -/

namespace Server

theorem handle_session (hmethod : r.method = "GET") (hpath : r.path = Endpoint.session.path) :
    s.handle ambient r = .done (.ok (finish "GET"
      (match Session.ofRequest s.service.authenticator ambient.now r with
        | .error refusal => refusal.response
        | .ok session => .ofData 200 session.toJson))) := by
  have htakes : Endpoint.session.methods.contains r.method = true := by
    rw [hmethod]
    rfl
  have hserve : s.serve ambient .session r = .done (.ok
      (match Session.ofRequest s.service.authenticator ambient.now r with
        | .error refusal => refusal.response
        | .ok session => .ofData 200 session.toJson)) := by
    rw [serve]
    cases Session.ofRequest s.service.authenticator ambient.now r <;> rfl
  have hhandle := handle_of_done (by simp [hmethod]) hpath htakes hserve
  rwa [hmethod] at hhandle

end Server

/-- What is told about a session. -/
def sessionData (c : Token.Claims) (n : Int) : Json :=
  .object [("accountId", .text (toString n)),
    ("expiresAt", if Time.InCalendar c.expiresAt.toInt then
      .text ((Time.Instant.ofSeconds c.expiresAt.toInt).rfc3339 "Z") else .null)]

theorem toJson_session (c : Token.Claims) (n : Int) :
    Session.toJson ⟨⟨n⟩, Token.Claims.instantOf c.expiresAt⟩ = sessionData c n := by
  unfold Session.toJson sessionData Token.Claims.instantOf
  split <;> rfl

/-- A token as it stands after its scheme is what the header presents. -/
theorem Request.accessToken_bearer (htoken : IsUrlSafe token) (hne : token ≠ "")
    (hheader : r.header? "authorization" = some (Utf8.encode ("Bearer " ++ token))) :
    r.accessToken = .ok token := by
  have hvisible : ∀ c ∈ "Bearer ".toList ++ token.toList, 32 ≤ c.toNat ∧ c.toNat < 127 := by
    intro c hc
    rcases List.mem_append.1 hc with hc | hc
    · exact List.all_iff_forall_prop.1 (by decide : "Bearer ".toList.all
        fun c => decide (32 ≤ c.toNat ∧ c.toNat < 127)) c hc
    · exact ⟨Nat.le_of_lt (htoken.visible c hc).1, (htoken.visible c hc).2⟩
  have hvalue := visibleText?_encode hvisible
  rw [← String.toList_append, String.ofList_toList, String.toList_append] at hvalue
  have hpresents := Presents.bearer hheader hvalue
  rw [Text.trim_eq_self htoken.not_blank, String.ofList_toList] at hpresents
  exact accessToken_eq_ok.2 ⟨hpresents, hne⟩

/-- **Who is told about a session:** exactly those who present an access token that holds and that
is about an account, whatever the store holds. They are told the number of the account and the end
of the token; all others are refused. A token of URL-safe characters may be presented in either
way. -/
theorem session_told_iff (s : Server) (ambient : Ambient) :
    (∀ r : Request, r.method = "GET" → r.path = Endpoint.session.path →
      ∃ response, s.handle ambient r = .done (.ok response) ∧
        (response.status = 200 ↔
          ∃ c n, Session.Admits s.service.authenticator ambient.now r c n) ∧
        (∀ c n, Session.Admits s.service.authenticator ambient.now r c n →
          response = Server.finish "GET" (.ofData 200 (sessionData c n))) ∧
        (response.status ≠ 200 → response.status = 401 ∧ ∃ message,
          response = Server.finish "GET" (Refusal.unauthorized message).response)) ∧
    ∀ token, token ≠ "" → IsUrlSafe token → ∀ r r' : Request,
      r.method = "GET" → r.path = Endpoint.session.path →
      r'.method = "GET" → r'.path = Endpoint.session.path →
      r.header? "authorization" = some (Utf8.encode ("Bearer " ++ token)) →
      r'.header? "authorization" = none →
      r'.Carries accessCookie (accessCookie ++ "=" ++ token).toList →
      s.handle ambient r = s.handle ambient r' := by
  refine ⟨?_, ?_⟩
  · intro r hmethod hpath
    refine ⟨_, Server.handle_session hmethod hpath, ?_⟩
    cases hsession : Session.ofRequest s.service.authenticator ambient.now r with
    | error refusal =>
      obtain ⟨message, rfl⟩ := Session.ofRequest_eq_error hsession
      have hnone : ∀ c n, ¬ Session.Admits s.service.authenticator ambient.now r c n := fun c n h =>
        nomatch hsession.symm.trans (Session.ofRequest_eq_ok.2 ⟨c, n, h, rfl⟩)
      refine ⟨iff_of_false ?_ fun ⟨c, n, h⟩ => hnone c n h, fun c n h => absurd h (hnone c n), ?_⟩
      · rw [Server.status_finish]
        exact Server.status_refusal_ne (by decide) _
      · exact fun _ => ⟨Server.status_finish _ _, message, rfl⟩
    | ok session =>
      obtain ⟨c, n, hadmits, rfl⟩ := Session.ofRequest_eq_ok.1 hsession
      refine ⟨iff_of_true (Server.status_finish _ _) ⟨c, n, hadmits⟩, ?_, ?_⟩
      · intro c' n' hadmits'
        have hsame := hsession.symm.trans (Session.ofRequest_eq_ok.2 ⟨c', n', hadmits', rfl⟩)
        rw [Except.ok.inj hsame, ← toJson_session]
      · exact fun h => absurd (Server.status_finish _ _) h
  · intro token hne htoken r r' hmethod hpath hmethod' hpath' hheader hheader' hcarries
    rw [← Cookie.pair_eq isUrlSafe_accessCookie htoken] at hcarries
    have hcookie := Request.cookie?_of_carries (by decide) hcarries
    rw [Server.handle_session hmethod hpath, Server.handle_session hmethod' hpath',
      Session.ofRequest, Session.ofRequest, Request.accessToken_bearer htoken hne hheader,
      Request.accessToken_of_cookie hheader' hcookie hne]

/-- An access token that comes after its scheme, and in the second of two cookies. -/
theorem session_told_iff_presented :
    ∃ (s : Server) (ambient : Ambient) (r r' : Request) (token : String) (response : Response),
      r.headers = [("authorization", Utf8.encode ("Bearer " ++ token))] ∧
      r'.headers = [("cookie", Utf8.encode (String.ofList
        ("theme=dark".toList ++ ';' :: ' ' :: Cookie.pair accessCookie token)))] ∧
      s.handle ambient r = .done (.ok response) ∧ s.handle ambient r' = .done (.ok response) ∧
      response.status = 200 := by
  let settings : AuthSettings :=
    ⟨"access", "refresh", "cursor", "issuer", .ofSeconds 900, .ofSeconds 900, ⟨8, 1, 1, 32⟩⟩
  let stamp : Token.Stamp := ⟨⟨0⟩, ⟨0⟩, ⟨List.replicate 16 0, rfl⟩⟩
  let ambient : Ambient := ⟨0, ⟨List.replicate 16 0, rfl⟩, stamp, stamp, .wrapping⟩
  obtain ⟨a, ha⟩ : ∃ a, Authenticator.ofSettings settings = .ok a := ⟨_, rfl⟩
  obtain ⟨-, -, -, hlife, -⟩ := Authenticator.ofSettings_eq_ok.1 ha
  let s : Server := ⟨⟨a, 1⟩, true, 2⟩
  obtain ⟨t, ht⟩ : ∃ t, a.issueAccess stamp (AccountId.mk 1).text = .ok t :=
    ⟨_, Token.issue_eq_ok.2 ⟨⟨900 * Time.nanosPerSecond⟩, hlife ▸ rfl, rfl⟩⟩
  obtain ⟨c, hc, hsubject⟩ : ∃ c, a.codec.verify 0 t .access = .ok c ∧
      c.subject = (AccountId.mk 1).text := Token.verify_issue ht rfl (hlife ▸ by decide)
  have hnonempty : t ≠ "" := by
    rintro rfl
    cases Token.not_blank_of_verify hc
  have hsafe : IsUrlSafe t := by
    obtain ⟨_, _, -, hsign⟩ := Token.exists_sign_of_issue ht
    exact hsign ▸ isUrlSafe_sign _ _
  let target := "/api/v1/session"
  let r : Request := ⟨"GET", target, [("authorization", Utf8.encode ("Bearer " ++ t))], []⟩
  let r' : Request := ⟨"GET", target, [("cookie", Utf8.encode (String.ofList
    ("theme=dark".toList ++ ';' :: ' ' :: Cookie.pair accessCookie t)))], []⟩
  have hpath (r : Request) (h : r.target = target) : r.path = Endpoint.session.path := by
    rw [Request.path, h]
    decide
  have hheader : r.header? "authorization" = some (Utf8.encode ("Bearer " ++ t)) := by
    rw [Request.header?, Request.headerValues_single rfl, if_pos (by decide +kernel)]
    rfl
  have hheader' : r'.header? "authorization" = none := by
    rw [Request.header?, Request.headerValues_single rfl, if_neg (by decide +kernel)]
    rfl
  have hcarries : r'.Carries accessCookie (accessCookie ++ "=" ++ t).toList := by
    rw [← Cookie.pair_eq isUrlSafe_accessCookie hsafe]
    exact Request.carries_second rfl (List.all_iff_forall_prop.1 (by decide)) (by decide)
      (by decide +kernel)
  have hadmits : Session.Admits a 0 r c 1 := by
    have hpresents :=
      (Request.accessToken_eq_ok.1 (Request.accessToken_bearer hsafe hnonempty hheader)).1
    have hid := AccountId.ofText_text (n := 1) (by decide) (by decide)
    obtain ⟨hnumeral, hpos, hle⟩ := AccountId.ofText_eq_ok.1 hid
    exact ⟨⟨t, hpresents, hnonempty, hc⟩, hsubject ▸ hnumeral, hpos, hle⟩
  obtain ⟨htold, hsame⟩ := session_told_iff s ambient
  obtain ⟨response, hresponse, hstatus, -⟩ := htold r rfl (hpath r rfl)
  have hequal :=
    hsame t hnonempty hsafe r r' rfl (hpath r rfl) rfl (hpath r' rfl) hheader hheader' hcarries
  exact ⟨s, ambient, r, r', t, response, rfl, rfl, hresponse, hequal ▸ hresponse,
    hstatus.2 ⟨c, 1, hadmits⟩⟩

/-- **A cookie that is hidden** by a byte of another one, so that its token is not even looked
at. -/
theorem session_told_otherwise :
    let bearer : Request := ⟨"GET", "/api/v1/session",
      [("authorization", Utf8.encode "Bearer x.y.z")], []⟩
    let cookie : Request := ⟨"GET", "/api/v1/session",
      [("cookie", Utf8.encode "accessToken=x.y.z; theme=\u00e9")], []⟩
    Cookie.ofPiece? " theme=\u00e9".toList = some ("theme", "\u00e9") ∧
    ∃ (s : Server) (ambient : Ambient) (response response' : Response),
      s.handle ambient bearer = .done (.ok response) ∧
      s.handle ambient cookie = .done (.ok response') ∧
      response.body = some (envelope 401 (messageData "Invalid or expired token")) ∧
      response'.body = some (envelope 401 (messageData "Missing access token")) := by
  intro bearer cookie
  let settings : AuthSettings :=
    ⟨"access", "refresh", "cursor", "issuer", .ofSeconds 900, .ofSeconds 900, ⟨8, 1, 1, 32⟩⟩
  let a : Authenticator := (Authenticator.ofSettings settings).toOption.get (by decide)
  let stamp : Token.Stamp := ⟨⟨0⟩, ⟨0⟩, ⟨List.replicate 16 0, rfl⟩⟩
  let ambient : Ambient := ⟨0, ⟨List.replicate 16 0, rfl⟩, stamp, stamp, .wrapping⟩
  let s : Server := ⟨⟨a, 1⟩, true, 2⟩
  have hbearer : Session.ofRequest a 0 bearer =
      .error (.unauthorized "Invalid or expired token") := by decide +kernel
  have hcookie : Session.ofRequest a 0 cookie =
      .error (.unauthorized "Missing access token") := by decide +kernel
  refine ⟨by decide +kernel, s, ambient, _, _, Server.handle_session rfl (by decide),
    Server.handle_session rfl (by decide), ?_, ?_⟩
  · simp only [s, ambient, hbearer]
    rfl
  · simp only [s, ambient, hcookie]
    rfl

end Accounts.Http

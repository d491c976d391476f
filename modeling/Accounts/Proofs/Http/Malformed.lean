import Accounts.Proofs.Http.Requests
import Accounts.Proofs.Json.Soundness

/-!
# Bodies that are not JSON

A registration or a login with such a body is refused, without asking the store. A refresh is
handled as if it had no body: the token in its cookie counts, so that it may well succeed. All three
overlook what stands after a list or an object of the wanted form, and the encoding of what they
skip in it.

* `compound_of_reader` — a body that can be read has a list or an object at its front.
* `malformed_body` — what is answered to a body that is not JSON.
-/

namespace Accounts.Http

open Json.Reader
open Json.Grammar (Blank Compound IsJson)

/-! ## Bodies that can be read -/

theorem takesValue_bodyText : TakesValue bodyText := takesValue_string _

theorem takesValue_optionalText : TakesValue optionalText := takesValue_optional takesValue_bodyText

section

variable {input rest : List UInt8}

theorem RegisterBody.compound_of_reader {body : RegisterBody} (h : reader input = .ok body rest) :
    Compound input rest := by
  refine compound_of_record ?_ ?_ h
  · intro key d
    unfold member
    split
    · exact (takesMember_field takesValue_bodyText).map _
    · exact (takesMember_field takesValue_bodyText).map _
    · exact (takesMember_field takesValue_optionalText).map _
    · exact (takesMember_field takesValue_optionalText).map _
    · exact (takesMember_field takesValue_optionalText).map _
    · exact (takesMember_field takesValue_optionalText).map _
    · exact (takesMember_ignoredField key).map fun _ => d
  · refine takesElements_elementAt takesValue_bodyText fun _ => ?_
    refine takesElements_elementAt takesValue_bodyText fun _ => ?_
    refine takesElements_elementAt takesValue_optionalText fun _ => ?_
    refine takesElements_elementAt takesValue_optionalText fun _ => ?_
    refine takesElements_elementAt takesValue_optionalText fun _ => ?_
    refine takesElements_elementAt takesValue_optionalText fun _ => ?_
    exact takesElements_pure false _

theorem LoginBody.compound_of_reader {body : LoginBody} (h : reader input = .ok body rest) :
    Compound input rest := by
  refine compound_of_record ?_ ?_ h
  · intro key d
    unfold member
    split
    · exact (takesMember_field takesValue_bodyText).map _
    · exact (takesMember_field takesValue_bodyText).map _
    · exact (takesMember_ignoredField key).map fun _ => d
  · refine takesElements_elementAt takesValue_bodyText fun _ => ?_
    refine takesElements_elementAt takesValue_bodyText fun _ => ?_
    exact takesElements_pure false _

theorem RefreshBody.compound_of_reader {body : RefreshBody} (h : reader input = .ok body rest) :
    Compound input rest := by
  refine compound_of_record ?_ ?_ h
  · intro key d
    unfold member
    split
    · exact takesMember_field takesValue_optionalText
    · exact (takesMember_ignoredField key).map fun _ => d
  · intro input body rest h
    obtain ⟨more, mid, hnext, h⟩ := bind_eq_ok.1 h
    cases more with
    | false =>
      cases h
      exact ⟨input, .nil, (separator_of_nextElement hnext).2 rfl⟩
    | true =>
      obtain ⟨_, _, htoken, h⟩ := bind_eq_ok.1 h
      cases h
      obtain ⟨_, hseparator, hblank⟩ := (separator_of_nextElement hnext).1 rfl
      have hvalue := takesValue_optionalText _ _ _ (inField_eq_ok.1 htoken)
      exact ⟨_, .cons hseparator hblank .list hvalue .nil, .nil⟩

end

variable {s : Server} {ambient : Ambient} {r : Request}

/-- A list or an object of the wanted form is read off the front of a body, and what keeps the body
from being JSON is overlooked: that something stands after it, or that bytes in it are not UTF-8. -/
def Overlooked {α : Type} (reader : Json.Reader α) (body : List UInt8) : Prop :=
  ∃ a rest, reader body = .ok a rest ∧ Compound body rest ∧
    (¬ Blank rest [] ∨ Utf8.decode? body = none)

theorem not_overlooked {α : Type} {reader : Json.Reader α} {body : List UInt8}
    (h : ∀ rest, ¬ Compound body rest) : ¬ Overlooked reader body := by
  rintro ⟨_, rest, -, hcompound, -⟩
  exact h rest hcompound

/-- **A body that is not JSON** cannot be read, unless that is overlooked. -/
theorem exists_fault_of_readBody {α : Type} {reader : Json.Reader α}
    (hreader : ∀ {input a rest}, reader input = .ok a rest → Compound input rest)
    (hbody : ¬ IsJson r.body) (hseen : ¬ Overlooked reader r.body) :
    ∃ fault, r.readBody reader = .error fault := by
  unfold Request.readBody
  split
  · exact ⟨_, rfl⟩
  split
  · exact ⟨_, rfl⟩
  unfold runFront
  cases hread : reader r.body with
  | fault e rest => exact ⟨_, rfl⟩
  | ok a rest =>
    have hcompound := hreader hread
    refine absurd ⟨a, rest, hread, hcompound, ?_⟩ hseen
    cases hutf8 : Utf8.decode? r.body with
    | none => exact .inr rfl
    | some text =>
      exact .inl fun hblank => hbody ⟨hutf8 ▸ rfl, rest, .compound hcompound, hblank⟩

namespace Server

/-! ## What is answered -/

/-- The request is refused with status 400 and a message. The store is not asked, and no cookie is
set. -/
def RefusesBody (s : Server) (ambient : Ambient) (r : Request) : Prop :=
  ∃ message response, s.handle ambient r = .done (.ok response) ∧ response.status = 400 ∧
    response.body = some (envelope 400 (messageData message)) ∧ response.cookies = []

theorem refusesBody_of_serve {e : Endpoint} (message : String) (hmethod : r.method = "POST")
    (hpath : r.path = e.path) (hpost : e.methods = ["POST"])
    (hserve : s.serve ambient e r = .done (refuse (.badRequest message))) :
    RefusesBody s ambient r := by
  have hhandle := handle_of_done (by simp [hmethod]) hpath (by simp [hpost, hmethod]) hserve
  rw [hmethod] at hhandle
  exact ⟨message, _, hhandle, rfl, rfl, rfl⟩

theorem presentedToken_of_fault {fault : BodyFault}
    (hbody : r.readBody RefreshBody.reader = .error fault) :
    presentedToken r = (r.cookie? refreshCookie).getD "" := by
  rw [presentedToken, hbody]
  rfl

/-- A refresh looks at the token that is presented, and at nothing else of a body. -/
theorem handle_refresh_congr (body : List UInt8) (hmethod : r.method = "POST")
    (hpath : r.path = Endpoint.refresh.path)
    (htoken : presentedToken { r with body := body } = presentedToken r) :
    s.handle ambient { r with body := body } = s.handle ambient r := by
  have hendpoint : Endpoint.ofPath? r.path = some .refresh := hpath ▸ ofPath?_path .refresh
  have hmethods : Endpoint.refresh.methods.contains r.method = true := by
    rw [hmethod]
    rfl
  have hserve : s.serve ambient .refresh { r with body := body } = s.serve ambient .refresh r := by
    simp only [serve, refresh, htoken]
  have hroute : s.route ambient { r with body := body } = s.route ambient r := calc
    s.route ambient { r with body := body }
      = s.limit (s.serve ambient .refresh { r with body := body }) :=
        route_of_path hendpoint hmethods
    _ = s.limit (s.serve ambient .refresh r) := by rw [hserve]
    _ = s.route ambient r := (route_of_path hendpoint hmethods).symm
  have hoptions : r.method ≠ "OPTIONS" := by simp [hmethod]
  rw [handle, if_neg hoptions, hroute, handle, if_neg hoptions]

/-- **Bodies that are not JSON.** A registration or a login is refused, unless that is overlooked. A
refresh is handled as if it had no body, unless it is overlooked there; so it is refused if there is
no token in its cookie, and else it need not be. -/
theorem malformed_body (s : Server) (ambient : Ambient) (r : Request) (hmethod : r.method = "POST")
    (hbody : ¬ IsJson r.body) :
    (r.path = Endpoint.register.path →
      Overlooked RegisterBody.reader r.body ∨ RefusesBody s ambient r) ∧
    (r.path = Endpoint.login.path →
      Overlooked LoginBody.reader r.body ∨ RefusesBody s ambient r) ∧
    (r.path = Endpoint.refresh.path →
      Overlooked RefreshBody.reader r.body ∨
      (s.handle ambient r = s.handle ambient { r with body := [] } ∧
        (Text.isBlankText ((r.cookie? refreshCookie).getD "") = true →
          RefusesBody s ambient r))) := by
  refine ⟨?_, ?_, ?_⟩
  · intro hpath
    refine Classical.or_iff_not_imp_left.2 fun hseen => ?_
    obtain ⟨fault, hfault⟩ := exists_fault_of_readBody RegisterBody.compound_of_reader hbody hseen
    refine refusesBody_of_serve fault.message hmethod hpath rfl ?_
    simp only [serve, register, hfault]
    rfl
  · intro hpath
    refine Classical.or_iff_not_imp_left.2 fun hseen => ?_
    obtain ⟨fault, hfault⟩ := exists_fault_of_readBody LoginBody.compound_of_reader hbody hseen
    refine refusesBody_of_serve fault.message hmethod hpath rfl ?_
    simp only [serve, login, hfault]
    rfl
  · intro hpath
    refine Classical.or_iff_not_imp_left.2 fun hseen => ?_
    obtain ⟨fault, hfault⟩ := exists_fault_of_readBody RefreshBody.compound_of_reader hbody hseen
    obtain ⟨fault', hfault'⟩ := exists_fault_of_readBody (r := { r with body := [] })
      RefreshBody.compound_of_reader Json.Grammar.not_isJson_nil
      (not_overlooked fun _ => Json.Grammar.not_compound_nil)
    have htoken := presentedToken_of_fault hfault
    refine ⟨?_, ?_⟩
    · refine (handle_refresh_congr [] hmethod hpath ?_).symm
      rw [htoken, presentedToken_of_fault hfault']
      rfl
    · intro hblank
      refine refusesBody_of_serve "Refresh token is required" hmethod hpath rfl ?_
      rw [← htoken] at hblank
      simp only [serve, refresh, Service.refresh, hblank]
      rfl

/-- A letter alone. A login with it is refused; a refresh goes on to its cookie, and fails there
only because what the cookie holds is no token. -/
theorem malformed_body_letter :
    let login : Request := ⟨"POST", "/api/v1/login",
      [("content-type", Utf8.encode "application/json")], [byte 'x']⟩
    let refresh : Request := ⟨"POST", "/api/v1/refresh",
      [("content-type", Utf8.encode "application/json"),
        ("cookie", Utf8.encode "refreshToken=x")], [byte 'x']⟩
    ¬ IsJson [byte 'x'] ∧
    ∃ (s : Server) (ambient : Ambient) (response : Response), RefusesBody s ambient login ∧
      s.handle ambient refresh = .done (.ok response) ∧ response.status = 401 := by
  intro login refresh
  let settings : AuthSettings :=
    ⟨"access", "refresh", "cursor", "issuer", .ofSeconds 900, .ofSeconds 900, ⟨8, 1, 1, 32⟩⟩
  obtain ⟨a, -⟩ : ∃ a, Authenticator.ofSettings settings = .ok a := ⟨_, rfl⟩
  let stamp : Token.Stamp := ⟨⟨0⟩, ⟨0⟩, ⟨List.replicate 16 0, rfl⟩⟩
  let ambient : Ambient := ⟨0, ⟨List.replicate 16 0, rfl⟩, stamp, stamp, .wrapping⟩
  let s : Server := ⟨⟨a, 1⟩, true, 2⟩
  have hbody : ¬ IsJson [byte 'x'] := Json.Grammar.not_isJson_of_foreign (by decide)
  have hseen {α : Type} (reader : Json.Reader α) : ¬ Overlooked reader [byte 'x'] :=
    not_overlooked fun _ => Json.Grammar.not_compound_of_foreign (by decide)
  have hlogin := ((malformed_body s ambient login rfl hbody).2.1 (by decide)).resolve_left (hseen _)
  have hpath : refresh.path = Endpoint.refresh.path := by decide
  have hrefresh := ((malformed_body s ambient refresh rfl hbody).2.2 hpath).resolve_left (hseen _)
  let bodiless : Request := { refresh with body := [] }
  have htoken : presentedToken bodiless = "x" := by decide +kernel
  have hfault : s.service.refreshedAccount 0 "x" = .error (.malformed .segments) := rfl
  have hserve : s.serve ambient .refresh bodiless =
      .done (refuse (.ofAccountFault Service.rejectedRefresh)) := by
    simp only [serve, Server.refresh, Service.refresh, htoken, ambient, hfault]
    rfl
  have hbodiless : bodiless.path = Endpoint.refresh.path := hpath
  have hanswer := handle_of_done (show "POST" ≠ "OPTIONS" by decide) hbodiless rfl hserve
  exact ⟨hbody, s, ambient, _, hlogin, hrefresh.1.trans hanswer, status_finish _ _⟩

end Server

end Accounts.Http

import Accounts.Http.Router

/-!
# What requests lead to

An endpoint answers at once, or puts one question to the store and answers then. What it does is
said here once, by cases.

* `asking`, `runWith_limit_asking` — one question, and the answer that follows from it.
* `register_cases`, `login_cases`, `refresh_cases` — everything that an endpoint can do.
* `route_of_path`, `runWith_handle`, `handle_of_done` — from the endpoint to the request.
-/

namespace Accounts.Http.Server

variable {s : Server} {ambient : Ambient} {r : Request} {call : StoreCall}
  {f : Except StoreFault call.Result → Answer}

/-! ## One question -/

/-- Puts a question to the store and answers. -/
def asking (s : Server) (call : StoreCall) (f : Except StoreFault call.Result → Answer) :
    StoreDialogue Answer :=
  (s.service.consult call).bind fun found => .done (f found)

/-- What is answered when the store has answered, or has not in time. -/
def answered (s : Server) (f : Except StoreFault call.Result → Answer) : call.Answer → Answer
  | some found => f found
  | none =>
    if s.requestTimeout ≤ s.service.lookupTimeout then .ok timedOut
    else f (.error (.timeout s.service.lookupTimeout))

theorem runWith_limit_asking {σ : Type} (answer : (call : StoreCall) → σ → call.Answer × σ)
    (state : σ) :
    (s.limit (s.asking call f)).runWith answer state =
      (s.answered f (answer call state).1, (answer call state).2) := by
  simp only [asking, Service.consult, Dialogue.bind, limit, Dialogue.runWith]
  cases (answer call state).1 with
  | some found => rfl
  | none =>
    simp only [answered]
    split <;> rfl

/-! ## Endpoints -/

theorem register_of_ok {body : RegisterBody} {order : Registration} {passwordHash : String}
    (hbody : r.readBody RegisterBody.reader = .ok body) (horder : body.toRegistration = .ok order)
    (hhash : s.service.authenticator.hasher.hash ambient.salt order.password = .ok passwordHash) :
    s.register ambient r = s.asking (.register ⟨order.userName, passwordHash, order.profile⟩)
      fun stored => answerRegister (Service.confirm stored) := by
  simp only [register, hbody, horder, Service.register, hhash]
  rfl

/-- A registration is refused at once, or asks the store to keep what the body describes. -/
theorem register_cases (s : Server) (ambient : Ambient) (r : Request) :
    (∃ refusal, s.register ambient r = .done (refuse refusal)) ∨
    (∃ body order passwordHash, r.readBody RegisterBody.reader = .ok body ∧
      body.toRegistration = .ok order ∧
      s.service.authenticator.hasher.hash ambient.salt order.password = .ok passwordHash ∧
      s.register ambient r = s.asking (.register ⟨order.userName, passwordHash, order.profile⟩)
        fun stored => answerRegister (Service.confirm stored)) := by
  cases hbody : r.readBody RegisterBody.reader with
  | error fault =>
    refine .inl ⟨.badRequest fault.message, ?_⟩
    simp only [register, hbody]
    rfl
  | ok body =>
    cases horder : body.toRegistration with
    | error refusal =>
      refine .inl ⟨refusal, ?_⟩
      simp only [register, hbody, horder]
      rfl
    | ok order =>
      cases hhash : s.service.authenticator.hasher.hash ambient.salt order.password with
      | error fault =>
        refine .inl ⟨.internalError ("Password hashing failed: " ++ fault.message), ?_⟩
        simp only [register, hbody, horder, Service.register, hhash]
        rfl
      | ok passwordHash =>
        exact .inr
          ⟨body, order, passwordHash, rfl, horder, hhash, register_of_ok hbody horder hhash⟩

/-- A login is refused at once, or asks for the account with the name. -/
theorem login_cases (s : Server) (ambient : Ambient) (r : Request) :
    (∃ fault, r.readBody LoginBody.reader = .error fault ∧
      s.login ambient r = .done (refuse (.badRequest fault.message))) ∨
    (∃ body fault, r.readBody LoginBody.reader = .ok body ∧
      Credentials.ofTexts body.userName body.password = .error fault ∧
      s.login ambient r = .done (refuse (.ofAccountFault (.ofCredentials fault)))) ∨
    (∃ body credentials, r.readBody LoginBody.reader = .ok body ∧
      Credentials.ofTexts body.userName body.password = .ok credentials ∧
      s.login ambient r = s.asking (.findByName credentials.userName)
        fun found => (s.service.grant ambient credentials.password found).bind s.answerLogin) := by
  unfold login
  cases hbody : r.readBody LoginBody.reader with
  | error fault => exact .inl ⟨fault, rfl, rfl⟩
  | ok body =>
    simp only [Service.authenticate]
    cases hcredentials : Credentials.ofTexts body.userName body.password with
    | error fault => exact .inr (.inl ⟨body, fault, rfl, hcredentials, rfl⟩)
    | ok credentials => exact .inr (.inr ⟨body, credentials, rfl, hcredentials, rfl⟩)

/-- A refresh is refused at once, or asks for the account that the token is about. -/
theorem refresh_cases (s : Server) (ambient : Ambient) (r : Request) :
    (Text.isBlankText (presentedToken r) = true ∧
      s.refresh ambient r =
        .done (refuse (.ofAccountFault (.invalidRequest "Refresh token is required")))) ∨
    (Text.isBlankText (presentedToken r) = false ∧
      ((∃ fault, s.service.refreshedAccount ambient.now (presentedToken r) = .error fault ∧
        s.refresh ambient r = .done (refuse (.ofAccountFault Service.rejectedRefresh))) ∨
      (∃ id, s.service.refreshedAccount ambient.now (presentedToken r) = .ok id ∧
        s.refresh ambient r = s.asking (.findById id)
          fun found => (s.service.renew ambient found).bind s.answerRefresh))) := by
  unfold refresh
  simp only [Service.refresh]
  cases hblank : Text.isBlankText (presentedToken r) with
  | true => exact .inl ⟨rfl, rfl⟩
  | false =>
    refine .inr ⟨rfl, ?_⟩
    cases hid : s.service.refreshedAccount ambient.now (presentedToken r) with
    | error fault => exact .inl ⟨fault, rfl, rfl⟩
    | ok id => exact .inr ⟨id, rfl, rfl⟩

/-! ## Statuses -/

theorem status_refusal_ne {status : Nat} (h : status ∉ [400, 401, 500]) (refusal : Refusal) :
    refusal.response.status ≠ status := by
  rintro rfl
  cases refusal <;> simp [Refusal.response, Response.ofData, Refusal.status] at h

@[simp] theorem status_finish (method : String) (response : Response) :
    (finish method response).status = response.status := by
  unfold finish
  split <;> rfl

/-! ## Requests -/

theorem route_of_path {e : Endpoint} (hpath : Endpoint.ofPath? r.path = some e)
    (hmethod : e.methods.contains r.method = true) :
    s.route ambient r = s.limit (s.serve ambient e r) := by
  simp only [route, hpath, hmethod, if_true]

/-- What is routed is finished, unless it only asks what is permitted. -/
theorem runWith_handle {σ : Type} (h : r.method ≠ "OPTIONS")
    (answer : (call : StoreCall) → σ → call.Answer × σ) (state : σ) :
    (s.handle ambient r).runWith answer state =
      (((s.route ambient r).runWith answer state).1.map (finish r.method),
        ((s.route ambient r).runWith answer state).2) := by
  rw [handle, if_neg h]
  exact Dialogue.runWith_bind answer _ _ state

theorem ofPath?_path (e : Endpoint) : Endpoint.ofPath? e.path = some e := by
  cases e <;> rfl

theorem handle_of_done {e : Endpoint} {answer : Answer} (hoptions : r.method ≠ "OPTIONS")
    (hpath : r.path = e.path) (hmethod : e.methods.contains r.method = true)
    (hserve : s.serve ambient e r = .done answer) :
    s.handle ambient r = .done (answer.map (finish r.method)) := by
  rw [handle, if_neg hoptions, route_of_path (hpath ▸ ofPath?_path e) hmethod, hserve]
  rfl

end Accounts.Http.Server

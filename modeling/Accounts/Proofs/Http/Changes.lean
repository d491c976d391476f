import Accounts.Proofs.Except
import Accounts.Proofs.Http.Awaits
import Accounts.Proofs.Password.RoundTrip
import Accounts.Proofs.Store.Operations
import Accounts.Proofs.Token.Issue

/-!
# What requests change

Only a registration that succeeds changes a store, and it changes one account. Everything else
leaves the store as it is, whether it is answered or given up while it waits.

* `WritesBody`, `Registers` — what a registration that succeeds writes.
* `handle_cases` — a request leaves the store as it is, or registers.
* `Handles` — what a request does: it is handled to its end, or given up and answered with 408.
* `changed_by_registration` — the response tells whether the store has changed, and how.
-/

namespace Accounts

theorem Store.answer_register (now : Time.Instant) (new : NewAccount) (store : Store) :
    store.answer now (.register new) =
      (some (store.register now new).1, (store.register now new).2) := rfl

namespace Http

theorem Endpoint.path_of_ofPath? {path : String} {e : Endpoint} (h : ofPath? path = some e) :
    e.path = path := by
  simpa using List.find?_some h

/-! ## Details of a person -/

namespace RegisterBody

/-- Whether a registration tells anything about the person. -/
def hasDetail (b : RegisterBody) : Bool :=
  b.name.isSome || b.phone.isSome || b.email.isSome || b.gender.isSome

theorem isSome_of_mapM {α β ε : Type} {f : α → Except ε β} {x : Option α} {y : Option β}
    (h : x.mapM f = .ok y) : y.isSome = x.isSome := by
  cases x with
  | none =>
    cases h
    rfl
  | some a =>
    obtain ⟨b, -, h⟩ := Except.bind_eq_ok.1 h
    cases h
    rfl

/-- No detail is lost: a profile is without any only if none was given. -/
theorem isEmpty_profile {b : RegisterBody} {order : Registration}
    (h : b.toRegistration = .ok order) :
    order.profile.isEmpty = !b.hasDetail := by
  obtain ⟨userName, -, h⟩ := Except.bind_eq_ok.1 h
  obtain ⟨profile, hprofile, h⟩ := Except.bind_eq_ok.1 h
  obtain ⟨phone, hphone, hprofile⟩ := Except.bind_eq_ok.1 (Except.mapError_eq_ok.1 hprofile)
  obtain ⟨email, hemail, hprofile⟩ := Except.bind_eq_ok.1 hprofile
  obtain ⟨gender, hgender, hprofile⟩ := Except.bind_eq_ok.1 hprofile
  cases hprofile
  have horder : order.profile = ⟨b.name, phone, email, gender⟩ := by
    have h := Except.mapError_eq_ok.1 h
    unfold Registration.new at h
    split at h
    · cases h
    · cases h
      rfl
  simp only [horder, Profile.isEmpty, hasDetail, ← Option.not_isSome, isSome_of_mapM hphone,
    isSome_of_mapM hemail, isSome_of_mapM hgender, Bool.not_or]

end RegisterBody

/-- The account that the body of a request describes is written, with a fresh hash of the password,
and so is its profile if any detail is given. -/
def WritesBody (s : Server) (ambient : Ambient) (now : Time.Instant) (r : Request)
    (store store' : Store) : Prop :=
  ∃ body order passwordHash stored, r.readBody RegisterBody.reader = .ok body ∧
    body.toRegistration = .ok order ∧ order.profile.isEmpty = !body.hasDetail ∧
    s.service.authenticator.hasher.hash ambient.salt order.password = .ok passwordHash ∧
    store.Writes now ⟨order.userName, passwordHash, order.profile⟩ stored store'

/-- What a registration that succeeds does. -/
structure Registers (s : Server) (ambient : Ambient) (now : Time.Instant) (r : Request)
    (store store' : Store) : Prop where
  method : r.method = "POST"
  path : r.path = "/api/v1/register"
  writes : WritesBody s ambient now r store store'

namespace Server

variable {s : Server} {ambient : Ambient} {r : Request} {now : Time.Instant} {store store' : Store}

/-! ## What leaves the store as it is -/

/-- Whether an answer does not say that anything was created. -/
def Plain (answer : Answer) : Prop := ∀ response, answer = .ok response → response.status ≠ 201

theorem plain_ok {response : Response} (h : response.status ≠ 201) : Plain (.ok response) := by
  rintro _ ⟨⟩
  exact h

theorem plain_refuse (refusal : Refusal) : Plain (refuse refusal) :=
  plain_ok (status_refusal_ne (by decide) refusal)

theorem plain_answerLogin (result : Except AccountFault TokenPair) :
    Plain (s.answerLogin result) := by
  cases result with
  | error fault => exact plain_refuse _
  | ok pair => exact plain_ok (show 200 ≠ 201 by decide)

theorem plain_answerRefresh (result : Except AccountFault String) :
    Plain (s.answerRefresh result) := by
  cases result with
  | error fault => exact plain_refuse _
  | ok token => exact plain_ok (show 200 ≠ 201 by decide)

theorem plain_bind {α : Type} {x : Except Time.Overflow α} {f : α → Answer}
    (h : ∀ a, Plain (f a)) : Plain (x.bind f) := by
  intro response hresponse
  obtain ⟨a, -, ha⟩ := Except.bind_eq_ok.1 hresponse
  exact h a response ha

theorem status_refuseMethod_ne (s : Server) (ambient : Ambient) (e : Endpoint) (r : Request) :
    (s.refuseMethod ambient e r).status ≠ 201 := by
  unfold refuseMethod
  split
  · next refusal _ => exact status_refusal_ne (by decide) refusal
  · exact show 405 ≠ 201 by decide

theorem Plain.finish {answer : Answer} (h : Plain answer) (method : String) :
    Plain (answer.map (finish method)) := by
  intro response hresponse
  obtain ⟨before, hbefore, rfl⟩ := Except.map_eq_ok.1 hresponse
  rw [status_finish]
  exact h before hbefore

/-! ## One request -/

/-- **An endpoint** leaves the store as it is, or it is the one for registrations. -/
theorem serve_cases (hk : store.WellKept) (s : Server) (ambient : Ambient) (now : Time.Instant)
    (e : Endpoint) (r : Request) :
    let run := (s.limit (s.serve ambient e r)).runWith (Store.answer now) store
    (run.2 = store ∧ Plain run.1) ∨
    ((∃ response, run.1 = .ok response ∧ response.status = 201) ∧ e = .register ∧
      WritesBody s ambient now r store run.2) := by
  cases e with
  | health => exact .inl ⟨rfl, plain_ok (show 200 ≠ 201 by decide)⟩
  | session =>
    simp only [serve]
    split
    · next refusal _ => exact .inl ⟨rfl, plain_refuse refusal⟩
    · exact .inl ⟨rfl, plain_ok (show 200 ≠ 201 by decide)⟩
  | login =>
    simp only [serve]
    rcases login_cases s ambient r with
      ⟨_, -, hlogin⟩ | ⟨_, _, -, -, hlogin⟩ | ⟨_, _, -, -, hlogin⟩ <;> rw [hlogin]
    · exact .inl ⟨rfl, plain_refuse _⟩
    · exact .inl ⟨rfl, plain_refuse _⟩
    · rw [runWith_limit_asking]
      exact .inl ⟨rfl, plain_bind plain_answerLogin⟩
  | refresh =>
    simp only [serve]
    rcases refresh_cases s ambient r with ⟨-, hrefresh⟩ |
      ⟨-, ⟨_, -, hrefresh⟩ | ⟨_, -, hrefresh⟩⟩ <;>
      rw [hrefresh]
    · exact .inl ⟨rfl, plain_refuse _⟩
    · exact .inl ⟨rfl, plain_refuse _⟩
    · rw [runWith_limit_asking]
      exact .inl ⟨rfl, plain_bind plain_answerRefresh⟩
  | register =>
    simp only [serve]
    rcases register_cases s ambient r with
      ⟨refusal, hregister⟩ | ⟨body, order, passwordHash, hbody, horder, hhash, hregister⟩ <;>
      rw [hregister]
    · exact .inl ⟨rfl, plain_refuse refusal⟩
    · rw [runWith_limit_asking, Store.answer_register]
      rcases Store.register_writes hk now ⟨order.userName, passwordHash, order.profile⟩ with
        ⟨fault, heq⟩ | ⟨stored, store', heq, hwrites⟩ <;> rw [heq]
      · refine .inl ⟨rfl, ?_⟩
        cases fault <;> exact plain_refuse _
      · exact .inr ⟨⟨_, rfl, rfl⟩, trivial, body, order, passwordHash, stored, hbody, horder,
          body.isEmpty_profile horder, hhash, hwrites⟩

/-- **A request** leaves the store as it is, or it is a registration that succeeds. -/
theorem handle_cases (hk : store.WellKept) (s : Server) (ambient : Ambient) (now : Time.Instant)
    (r : Request) :
    let run := (s.handle ambient r).runWith (Store.answer now) store
    (run.2 = store ∧ Plain run.1) ∨
    ((∃ response, run.1 = .ok response ∧ response.status = 201) ∧
      Registers s ambient now r store run.2) := by
  by_cases hoptions : r.method = "OPTIONS"
  · rw [handle, if_pos hoptions]
    exact .inl ⟨rfl, plain_ok (show 200 ≠ 201 by decide)⟩
  rw [runWith_handle hoptions]
  cases hpath : Endpoint.ofPath? r.path with
  | none =>
    simp only [route, hpath]
    exact .inl ⟨rfl, Plain.finish (plain_ok (show 404 ≠ 201 by decide)) _⟩
  | some e =>
    cases hmethod : e.methods.contains r.method with
    | false =>
      simp only [route, hpath, hmethod, Bool.false_eq_true, if_false]
      exact .inl ⟨rfl, Plain.finish (plain_ok (status_refuseMethod_ne s ambient e r)) _⟩
    | true =>
      rw [route_of_path hpath hmethod]
      rcases serve_cases hk s ambient now e r with
        ⟨hstore, hplain⟩ | ⟨⟨response, hresponse, hstatus⟩, rfl, hwrites⟩
      · exact .inl ⟨hstore, hplain.finish _⟩
      · refine .inr ⟨⟨_, by rw [hresponse]; rfl, by rw [status_finish, hstatus]⟩, ?_⟩
        exact ⟨by simpa [Endpoint.methods] using hmethod, (Endpoint.path_of_ofPath? hpath).symm,
          hwrites⟩

end Server

/-- What a request does to a store in memory, and how it is answered. It is handled to its end; or,
as long as it is waited for, it may be given up and answered with 408. -/
inductive Handles (s : Server) (ambient : Ambient) (now : Time.Instant) (r : Request)
    (store : Store) : Answer → Store → Prop where
  | handled : Handles s ambient now r store
      ((s.handle ambient r).runWith (Store.answer now) store).1
      ((s.handle ambient r).runWith (Store.answer now) store).2
  | givenUp {store' : Store} (h : Handler.GivenUp now (s.awaiting ambient r) store store') :
      Handles s ambient now r store (.ok (Server.finish r.method Server.timedOut)) store'

/-- **Only a registration that succeeds changes the store.** However the store came about: unless
the answer is 201, it is as it was, also if the request was given up while it was waited for. If the
answer is 201, the request was posted as a registration, and what changed is the one account that
its body describes. -/
theorem changed_by_registration {ops : List Store.Operation} {outcomes : List Store.Outcome}
    {store store' : Store} {s : Server} {ambient : Ambient} {now : Time.Instant} {r : Request}
    {answer : Answer} (hreaches : Store.Reaches .empty ops outcomes store)
    (h : Handles s ambient now r store answer store') :
    ((∀ response, answer = .ok response → response.status ≠ 201) → store' = store) ∧
    ∀ response, answer = .ok response → response.status = 201 →
      Registers s ambient now r store store' := by
  have hk : store.WellKept := hreaches.wellKept Store.wellKept_empty
  cases h with
  | handled =>
    rcases Server.handle_cases hk s ambient now r with
      ⟨hstore, hplain⟩ | ⟨⟨response, hresponse, hstatus⟩, hregisters⟩
    · exact ⟨fun _ => hstore, fun response hresponse hstatus =>
        absurd hstatus (hplain response hresponse)⟩
    · exact ⟨fun hnot => absurd hstatus (hnot response hresponse), fun _ _ _ => hregisters⟩
  | givenUp hgiven =>
    refine ⟨fun _ => hgiven.store_eq (Server.writesLast_awaiting s ambient r), ?_⟩
    rintro _ ⟨⟩ hstatus
    rw [Server.status_finish] at hstatus
    cases hstatus

/-- A deactivated account is registered again, and the person now tells their phone number. -/
theorem changed_by_registration_again :
    ∃ ops outcomes store s ambient r response store', Store.Reaches .empty ops outcomes store ∧
      Handles s ambient ⟨3⟩ r store (.ok response) store' ∧ response.status = 201 ∧
      Registers s ambient ⟨3⟩ r store store' := by
  let settings : AuthSettings :=
    ⟨"access", "refresh", "cursor", "issuer", .ofSeconds 900, .ofSeconds 900, ⟨8, 1, 1, 32⟩⟩
  obtain ⟨a, ha⟩ : ∃ a, Authenticator.ofSettings settings = .ok a := ⟨_, rfl⟩
  obtain ⟨-, hhasher, -⟩ := Authenticator.ofSettings_eq_ok.1 ha
  obtain ⟨-, -, hcost⟩ := Password.Hasher.ofCost_eq_ok.1 hhasher
  let stamp : Token.Stamp := ⟨⟨0⟩, ⟨0⟩, ⟨List.replicate 16 0, rfl⟩⟩
  let ambient : Ambient := ⟨0, ⟨List.replicate 16 0, rfl⟩, stamp, stamp, .wrapping⟩
  let s : Server := ⟨⟨a, 1⟩, true, 2⟩
  let r : Request :=
    ⟨"POST", "/api/v1/register", [("content-type", Utf8.encode "application/json")],
      Utf8.encode "[\"a@b\",\"secret\",null,\"555\",null,null]"⟩
  let body : RegisterBody := ⟨"a@b", "secret", none, some "555", none, none⟩
  let old : NewAccount := ⟨⟨⟨"a@b", rfl⟩⟩, "old", .empty⟩
  let ops : List Store.Operation := [.register ⟨1⟩ old, .deactivate ⟨2⟩ ⟨1⟩]
  have hbody : r.readBody RegisterBody.reader = .ok body :=
    Except.toOption_eq_some.1 (by decide +kernel)
  obtain ⟨order, horder, hfields⟩ : ∃ order, body.toRegistration.toOption = some order ∧
      (order.userName, order.password) = (old.userName, "secret") :=
    Option.map_eq_some_iff.1 (by decide +kernel)
  obtain ⟨hname, hpassword⟩ := Prod.mk.injEq .. ▸ hfields
  have horder := Except.toOption_eq_some.1 horder
  obtain ⟨text, htext⟩ : ∃ text, a.hasher.hash ambient.salt order.password = .ok text :=
    Password.Hasher.exists_hash (hcost ▸ rfl) (hpassword ▸ by decide) _
  let store := (Store.performAll .empty ops).2
  have hreaches : Store.Reaches .empty ops _ store :=
    .step (.refl _) (.step (.refl _) (.done (.refl _)))
  have hpath : Endpoint.ofPath? r.path = some .register := by decide
  obtain ⟨response, hresponse, hstatus⟩ : ∃ response,
      ((s.handle ambient r).runWith (Store.answer ⟨3⟩) store).1 = .ok response ∧
        response.status = 201 := by
    rw [Server.runWith_handle (by decide), Server.route_of_path hpath (by decide), Server.serve,
      Server.register_of_ok hbody horder htext, Server.runWith_limit_asking, Store.answer_register,
      hname]
    exact ⟨_, rfl, rfl⟩
  have hhandled : Handles s ambient ⟨3⟩ r store _ _ := .handled
  rw [hresponse] at hhandled
  exact ⟨ops, _, store, s, ambient, r, response, _, hreaches, hhandled, hstatus,
    (changed_by_registration hreaches hhandled).2 response rfl hstatus⟩

end Http

end Accounts

import Accounts.Proofs.Http.Requests
import Accounts.Store.Memory

/-!
# Where handlers wait

A handler does not run in one piece. It waits for its turn, for the body of the request, for hashes
that are computed elsewhere, and for the store; and at each of these points it may be given up when
the request is out of time. So the points have to be told apart: `awaiting` is the handler with all
of them.

* `carryOut_serving`, `runWith_awaiting` — but for the waiting, a handler is what it was.
* `writesLast_awaiting` — nothing is waited for after a write.
* `GivenUp.store_eq` — such a handler, given up anywhere, has not written.
-/

namespace Accounts.Http

/-- What a handler waits for. -/
inductive Await where
  /-- That it is run at all. -/
  | turn
  /-- The body of the request. -/
  | body
  /-- A computation on another thread. -/
  | work
  | store (call : StoreCall)

namespace Await

/-- What comes back when the waiting is over. -/
abbrev Answer : Await → Type
  | turn => Unit
  | body => Unit
  | work => Unit
  | store call => call.Answer

/-- What of the waiting is a question to the store. -/
def consult : (q : Await) → StoreDialogue q.Answer
  | turn => pure ()
  | body => pure ()
  | work => pure ()
  | store call => .question call

/-- The end of the waiting over a store in memory, at a time. -/
def answer (now : Time.Instant) : (q : Await) → Store → q.Answer × Store
  | turn, kept => ((), kept)
  | body, kept => ((), kept)
  | work, kept => ((), kept)
  | store call, kept => kept.answer now call

/-- Whether the store stays as it is. -/
def reads : Await → Bool
  | store (.register _) => false
  | _ => true

theorem store_of_reads {q : Await} (h : q.reads = true) (now : Time.Instant) (kept : Store) :
    (q.answer now kept).2 = kept := by
  cases q with
  | turn => rfl
  | body => rfl
  | work => rfl
  | store call =>
    cases call with
    | findByName userName => rfl
    | findById id => rfl
    | register new => cases h

end Await

/-- A handler with all points at which it waits. -/
abbrev Handler (α : Type) : Type := Dialogue Await Await.Answer α

namespace Handler

open Dialogue

variable {α : Type}

/-- A handler that ends as soon as a write is answered. -/
inductive WritesLast : Handler α → Prop where
  | done (a : α) : WritesLast (.done a)
  | read {q : Await} {next : q.Answer → Handler α} (hq : q.reads = true)
      (h : ∀ answer, WritesLast (next answer)) : WritesLast (.ask q next)
  | write {q : Await} (f : q.Answer → α) : WritesLast (.ask q fun answer => .done (f answer))

theorem WritesLast.question_bind {q : Await} {next : q.Answer → Handler α} (hq : q.reads = true)
    (h : ∀ answer, WritesLast (next answer)) : WritesLast (question q >>= next) := .read hq h

/-- The stores that a handler leaves behind if it is given up where it waits. -/
inductive GivenUp (now : Time.Instant) : Handler α → Store → Store → Prop where
  | here {q : Await} {next : q.Answer → Handler α} {store : Store} :
      GivenUp now (.ask q next) store store
  | later {q : Await} {next : q.Answer → Handler α} {store store' : Store}
      (h : GivenUp now (next (q.answer now store).1) (q.answer now store).2 store') :
      GivenUp now (.ask q next) store store'

/-- **A handler that is given up** while it waits has not written. -/
theorem GivenUp.store_eq {now : Time.Instant} {handler : Handler α} {store store' : Store}
    (h : GivenUp now handler store store') (hlast : WritesLast handler) : store' = store := by
  induction h with
  | here => rfl
  | later h ih =>
    cases hlast with
    | read hq hnext => exact (ih (hnext _)).trans (Await.store_of_reads hq now _)
    | write f => cases h

end Handler

namespace Server

open Dialogue Handler

variable {s : Server} {ambient : Ambient} {r : Request}

/-! ## Handlers -/

/-- Asks the store and waits for it. -/
def consulting (s : Server) (call : StoreCall) : Handler (Except StoreFault call.Result) := do
  let answer ← question (Await.store call)
  pure (answer.getD (.error (.timeout s.service.lookupTimeout)))

/-- Registers. The hash is computed before the store is asked. -/
def registering (s : Server) (ambient : Ambient) (r : Request) : Handler Answer := do
  let _ ← question Await.body
  match r.readBody RegisterBody.reader with
  | .error fault => pure (refuse (.badRequest fault.message))
  | .ok body =>
    match body.toRegistration with
    | .error refusal => pure (refuse refusal)
    | .ok order => do
      let _ ← question Await.work
      match s.service.authenticator.hasher.hash ambient.salt order.password with
      | .error fault =>
        pure (answerRegister (.error (.internal ("Password hashing failed: " ++ fault.message))))
      | .ok passwordHash => do
        let stored ← s.consulting (.register ⟨order.userName, passwordHash, order.profile⟩)
        pure (answerRegister (Service.confirm stored))

/-- Waits for a password to be tried, if there is an account to try it on. -/
def trying : Except StoreFault (Option Account) → Handler Unit
  | .ok (some account) => if account.isUsable then question Await.work else pure ()
  | _ => pure ()

/-- Logs in. The password is tried after the store was asked. -/
def loggingIn (s : Server) (ambient : Ambient) (r : Request) : Handler Answer := do
  let _ ← question Await.body
  match r.readBody LoginBody.reader with
  | .error fault => pure (refuse (.badRequest fault.message))
  | .ok body =>
    match Credentials.ofTexts body.userName body.password with
    | .error fault => pure (refuse (.ofAccountFault (.ofCredentials fault)))
    | .ok credentials => do
      let found ← s.consulting (.findByName credentials.userName)
      let _ ← trying found
      pure ((s.service.grant ambient credentials.password found).bind s.answerLogin)

/-- Exchanges a refresh token. -/
def refreshing (s : Server) (ambient : Ambient) (r : Request) : Handler Answer := do
  let _ ← question Await.body
  if Text.isBlankText (presentedToken r) then
    pure (refuse (.ofAccountFault (.invalidRequest "Refresh token is required")))
  else
    match s.service.refreshedAccount ambient.now (presentedToken r) with
    | .error _ => pure (refuse (.ofAccountFault Service.rejectedRefresh))
    | .ok id => do
      let found ← s.consulting (.findById id)
      pure ((s.service.renew ambient found).bind s.answerRefresh)

/-- Serves a request. What needs neither the body nor the store is not waited for. -/
def serving (s : Server) (ambient : Ambient) (e : Endpoint) (r : Request) : Handler Answer :=
  match e with
  | .register => s.registering ambient r
  | .login => s.loggingIn ambient r
  | .refresh => s.refreshing ambient r
  | .health | .session => (s.serve ambient e r).carryOut fun call => question (Await.store call)

/-- Answers a request, whatever its origin. -/
def routing (s : Server) (ambient : Ambient) (r : Request) : Handler Answer :=
  match Endpoint.ofPath? r.path with
  | none => pure (.ok { status := 404 })
  | some e =>
    if e.methods.contains r.method then s.serving ambient e r
    else pure (.ok (s.refuseMethod ambient e r))

/-- Answers a request once it is its turn. -/
def awaiting (s : Server) (ambient : Ambient) (r : Request) : Handler Answer := do
  let _ ← question Await.turn
  s.routing ambient r

theorem carryOut_trying (found : Except StoreFault (Option Account)) (answer : Answer) :
    carryOut Await.consult (trying found >>= fun _ => pure answer) = .done answer := by
  unfold trying
  split
  · split <;> rfl
  · rfl

/-- **But for the waiting** a handler asks and answers as it did. -/
theorem carryOut_serving (s : Server) (ambient : Ambient) (e : Endpoint) (r : Request) :
    (s.serving ambient e r).carryOut Await.consult = s.serve ambient e r := by
  cases e with
  | health => rfl
  | session =>
    simp only [serving, serve]
    cases Session.ofRequest s.service.authenticator ambient.now r <;> rfl
  | register =>
    simp only [serving, serve, registering, register]
    cases r.readBody RegisterBody.reader with
    | error fault => rfl
    | ok body =>
      cases horder : body.toRegistration with
      | error refusal =>
        simp only [horder]
        rfl
      | ok order =>
        simp only [horder, Service.register]
        cases s.service.authenticator.hasher.hash ambient.salt order.password <;> rfl
  | login =>
    simp only [serving, serve, loggingIn, login]
    cases r.readBody LoginBody.reader with
    | error fault => rfl
    | ok body =>
      simp only [Service.authenticate]
      cases Credentials.ofTexts body.userName body.password with
      | error fault => rfl
      | ok credentials => exact congrArg (ask _) (funext fun _ => carryOut_trying _ _)
  | refresh =>
    simp only [serving, serve, refreshing, refresh, Service.refresh]
    cases Text.isBlankText (presentedToken r) with
    | true => rfl
    | false => cases s.service.refreshedAccount ambient.now (presentedToken r) <;> rfl

theorem runWith_carryOut {α : Type} (handler : Handler α) (now : Time.Instant) (store : Store) :
    (handler.carryOut Await.consult).runWith (Store.answer now) store =
      handler.runWith (Await.answer now) store := by
  induction handler generalizing store with
  | done a => rfl
  | ask q next ih => cases q <;> exact ih _ _

/-- A store in memory always answers, so nothing is cut off. -/
theorem runWith_limit (d : StoreDialogue Answer) (now : Time.Instant) (store : Store) :
    (s.limit d).runWith (Store.answer now) store = d.runWith (Store.answer now) store := by
  induction d generalizing store with
  | done answer => rfl
  | ask call next ih =>
    rw [limit]
    cases call <;> exact ih _ _

/-- **A handler that is not given up** answers over a store in memory as the request is answered. -/
theorem runWith_awaiting (s : Server) (ambient : Ambient) (now : Time.Instant) (r : Request)
    (store : Store) :
    (s.awaiting ambient r).runWith (Await.answer now) store =
      (s.route ambient r).runWith (Store.answer now) store := by
  show runWith _ (s.routing ambient r) store = _
  cases hpath : Endpoint.ofPath? r.path with
  | none =>
    simp only [routing, route, hpath]
    rfl
  | some e =>
    simp only [routing, route, hpath]
    split
    · rw [runWith_limit, ← carryOut_serving, runWith_carryOut]
    · rfl

/-! ## Nothing is waited for after a write -/

theorem writesLast_trying (found : Except StoreFault (Option Account)) (answer : Answer) :
    WritesLast (trying found >>= fun _ => pure answer) := by
  unfold trying
  split
  · split
    · exact .question_bind rfl fun _ => .done answer
    · exact .done answer
  · exact .done answer

/-- **Nothing is waited for after a write.** -/
theorem writesLast_serving (s : Server) (ambient : Ambient) (e : Endpoint) (r : Request) :
    WritesLast (s.serving ambient e r) := by
  cases e with
  | health => exact .done _
  | session =>
    simp only [serving, serve]
    split <;> exact .done _
  | register =>
    refine .question_bind rfl fun _ => ?_
    split
    · exact .done _
    · split
      · exact .done _
      · refine .question_bind rfl fun _ => ?_
        split
        · exact .done _
        · exact .write _
  | login =>
    refine .question_bind rfl fun _ => ?_
    split
    · exact .done _
    · split
      · exact .done _
      · exact .read rfl fun _ => writesLast_trying _ _
  | refresh =>
    refine .question_bind rfl fun _ => ?_
    split
    · exact .done _
    · split
      · exact .done _
      · exact .read rfl fun _ => .done _

theorem writesLast_awaiting (s : Server) (ambient : Ambient) (r : Request) :
    WritesLast (s.awaiting ambient r) := by
  refine .question_bind rfl fun _ => ?_
  rw [routing]
  split
  · exact .done _
  · split
    · exact writesLast_serving s ambient _ r
    · exact .done _

end Server

end Accounts.Http

import Accounts.Proofs.Store.Invariant
import Accounts.Service
import Mathlib.Data.List.Induction

/-!
# Runs of the service

Any number of callers use one service over one store in memory. A caller's operation runs up to its
question to the store, waits there while others go on, and is answered in one piece. In between,
accounts are deactivated.

* `step_cases` — an operation returns what it would return if it ran alone at that moment.
* `step_serve` — a caller who is alone.
* `run_induction` — what one operation keeps, every run keeps.
* `wellKept_run` — the invariant of the store.
-/

namespace Accounts

/-- What a caller asks of the service. -/
inductive Request where
  | register (order : Registration)
  | login (userName password : String)
  | refresh (token : String)

/-- What a caller gets. -/
abbrev Request.Response : Request → Type
  | register _ => Except AccountFault Account
  | login _ _ => Except Time.Overflow (Except AccountFault TokenPair)
  | refresh _ => Except Time.Overflow (Except AccountFault String)

/-- The operation that a caller asks for. -/
def Service.perform (s : Service) (ambient : Ambient) :
    (request : Request) → StoreDialogue request.Response
  | .register order => s.register ambient order
  | .login userName password => s.authenticate ambient userName password
  | .refresh token => s.refresh ambient token

/-- What happens in a run, as seen from outside. -/
inductive Event where
  | returned (ambient : Ambient) (request : Request) (response : request.Response)
  | deactivated (id : AccountId) (found : Bool)

/-- An operation that waits for the store. -/
structure Waiting where
  ambient : Ambient
  request : Request
  call : StoreCall
  next : call.Answer → StoreDialogue request.Response

/-- A store in use. -/
structure System where
  store : Store
  waiting : List Waiting
  history : List Event

/-- What may happen next. -/
inductive Act where
  /-- A caller comes. -/
  | enter (ambient : Ambient) (request : Request)
  /-- The store answers one of those who wait, at a time. -/
  | serve (place : Nat) (now : Time.Instant)
  | deactivate (now : Time.Instant) (id : AccountId)

namespace System

/-- The store before anything happens. -/
def start : System := ⟨.empty, [], []⟩

/-- An operation goes on: it has ended, or it has a question. -/
def proceed (y : System) (ambient : Ambient) (request : Request) :
    StoreDialogue request.Response → System
  | .done response => { y with history := y.history ++ [.returned ambient request response] }
  | .ask call next => { y with waiting := y.waiting ++ [⟨ambient, request, call, next⟩] }

/-- One thing happens. -/
def step (s : Service) (y : System) : Act → System
  | .enter ambient request => y.proceed ambient request (s.perform ambient request)
  | .serve place now =>
    match y.waiting[place]? with
    | none => y
    | some w =>
      let (answer, store) := y.store.answer now w.call
      ({ y with store, waiting := y.waiting.eraseIdx place } : System).proceed w.ambient w.request
        (w.next answer)
  | .deactivate now id =>
    let (found, store) := y.store.deactivate now id
    { y with store, history := y.history ++ [.deactivated id found] }

/-- Things happen one after the other, from the beginning. -/
def run (s : Service) (acts : List Act) : System := acts.foldl (step s) start

end System

/-! ## Operations ask at most once -/

/-- A dialogue with at most one question. -/
def Dialogue.Brief {Q : Type} {A : Q → Type} {α : Type} : Dialogue Q A α → Prop
  | .done _ => True
  | .ask _ next => ∀ answer, ∃ value, next answer = .done value

namespace Service

variable {s : Service}

theorem brief_consult {α : Type} (call : StoreCall)
    (f : Except StoreFault call.Result → α) :
    Dialogue.Brief (Dialogue.bind (s.consult call) fun answer => .done (f answer)) :=
  fun _ => ⟨_, rfl⟩

theorem brief_perform (s : Service) (ambient : Ambient) (request : Request) :
    (s.perform ambient request).Brief := by
  cases request with
  | register order =>
    show (s.register ambient order).Brief
    unfold register
    cases s.authenticator.hasher.hash ambient.salt order.password with
    | error fault => trivial
    | ok passwordHash => exact brief_consult _ _
  | login userName password =>
    show (s.authenticate ambient userName password).Brief
    unfold authenticate
    split
    · trivial
    · exact brief_consult _ _
  | refresh token =>
    show (s.refresh ambient token).Brief
    unfold refresh
    split
    · trivial
    split
    · trivial
    · exact brief_consult _ _

/-- An operation that runs alone, over a store at a time. -/
def alone (s : Service) (ambient : Ambient) (now : Time.Instant) (request : Request)
    (store : Store) : request.Response × Store :=
  (s.perform ambient request).runWith (Store.answer now) store

/-! ## Operations that run alone -/

theorem alone_register_of_error {ambient : Ambient} {order : Registration}
    {fault : Password.Fault}
    (h : s.authenticator.hasher.hash ambient.salt order.password = .error fault)
    (now : Time.Instant) (store : Store) :
    s.alone ambient now (.register order) store =
      (.error (.internal ("Password hashing failed: " ++ fault.message)), store) := by
  show Dialogue.runWith _ (s.register ambient order) store = _
  rw [register, h]
  rfl

theorem alone_register_of_ok {ambient : Ambient} {order : Registration} {passwordHash : String}
    (h : s.authenticator.hasher.hash ambient.salt order.password = .ok passwordHash)
    (now : Time.Instant) (store : Store) :
    s.alone ambient now (.register order) store =
      (confirm (store.register now ⟨order.userName, passwordHash, order.profile⟩).1,
        (store.register now ⟨order.userName, passwordHash, order.profile⟩).2) := by
  show Dialogue.runWith _ (s.register ambient order) store = _
  rw [register, h]
  rfl

/-- A login only looks. -/
theorem alone_login (s : Service) (ambient : Ambient) (now : Time.Instant)
    (userName password : String) (store : Store) :
    s.alone ambient now (.login userName password) store =
      (match Credentials.ofTexts userName password with
        | .error fault => .ok (.error (.ofCredentials fault))
        | .ok c => s.grant ambient c.password (.ok (store.findByName c.userName)), store) := by
  show Dialogue.runWith _ (s.authenticate ambient userName password) store = _
  rw [authenticate]
  cases Credentials.ofTexts userName password <;> rfl

/-- A refresh only looks. -/
theorem alone_refresh (s : Service) (ambient : Ambient) (now : Time.Instant) (token : String)
    (store : Store) :
    s.alone ambient now (.refresh token) store =
      (if Text.isBlankText token then .ok (.error (.invalidRequest "Refresh token is required"))
        else match s.refreshedAccount ambient.now token with
        | .error _ => .ok (.error rejectedRefresh)
        | .ok id => s.renew ambient (.ok (store.findById id)), store) := by
  show Dialogue.runWith _ (s.refresh ambient token) store = _
  rw [refresh]
  split
  · rfl
  · cases s.refreshedAccount ambient.now token <;> rfl

end Service

namespace System

variable {s : Service} {y : System}

/-- What holds of every system: the invariant of the store, and that those who wait have asked what
their operations ask. -/
structure Sound (s : Service) (y : System) : Prop where
  wellKept : y.store.WellKept
  asked : ∀ w ∈ y.waiting, s.perform w.ambient w.request = .ask w.call w.next

theorem sound_start (s : Service) : start.Sound s :=
  ⟨Store.wellKept_empty, fun _ hw => absurd hw List.not_mem_nil⟩

/-! ## One step -/

theorem sound_proceed (h : y.Sound s) {ambient : Ambient} {request : Request}
    {d : StoreDialogue request.Response}
    (hd : ∀ call next, d = .ask call next → s.perform ambient request = d) :
    (y.proceed ambient request d).Sound s := by
  cases d with
  | done response => exact ⟨h.wellKept, h.asked⟩
  | ask call next =>
    refine ⟨h.wellKept, ?_⟩
    intro w hw
    rcases List.mem_append.1 hw with hw | hw
    · exact h.asked w hw
    · cases List.mem_singleton.1 hw
      exact hd call next rfl

theorem sound_step (h : y.Sound s) (act : Act) : (y.step s act).Sound s := by
  cases act with
  | enter ambient request => exact sound_proceed h fun _ _ _ => rfl
  | deactivate now id => exact ⟨Store.wellKept_deactivate h.wellKept now id, h.asked⟩
  | serve place now =>
    simp only [step]
    cases hw : y.waiting[place]? with
    | none => exact h
    | some w =>
      have hasked := h.asked w (List.mem_of_getElem? hw)
      have hbrief := hasked ▸ s.brief_perform w.ambient w.request
      refine sound_proceed ⟨Store.wellKept_answer h.wellKept now w.call,
        fun v hv => h.asked v (List.mem_of_mem_eraseIdx hv)⟩ ?_
      intro call next hnext
      obtain ⟨value, hvalue⟩ := hbrief (y.store.answer now w.call).1
      rw [hvalue] at hnext
      cases hnext

/-- Whether a step leaves no trace. -/
def Idle (y y' : System) : Prop := y'.store = y.store ∧ y'.history = y.history

/-- Whether a step is the return of an operation, which does what it would do alone. -/
def Returns (s : Service) (y y' : System) : Prop :=
  ∃ now ambient request response, s.alone ambient now request y.store = (response, y'.store) ∧
    y'.history = y.history ++ [.returned ambient request response]

/-- Whether a step is a deactivation. -/
def Deactivates (y y' : System) : Prop :=
  ∃ now id found, y.store.deactivate now id = (found, y'.store) ∧
    y'.history = y.history ++ [.deactivated id found]

/-- **An operation returns what it would return alone**, over the store as it is at that moment. -/
theorem step_cases (h : y.Sound s) (act : Act) :
    y.Idle (y.step s act) ∨ Returns s y (y.step s act) ∨ y.Deactivates (y.step s act) := by
  cases act with
  | deactivate now id => exact .inr (.inr ⟨now, id, _, rfl, rfl⟩)
  | enter ambient request =>
    cases hperform : s.perform ambient request with
    | ask call next =>
      refine .inl ?_
      simp only [step, hperform]
      exact ⟨rfl, rfl⟩
    | done response =>
      refine .inr (.inl ⟨⟨0⟩, ambient, request, response, ?_, ?_⟩)
      · simp only [step, Service.alone, hperform]
        rfl
      · simp only [step, hperform]
        rfl
  | serve place now =>
    cases hw : y.waiting[place]? with
    | none =>
      refine .inl ?_
      simp only [step, hw]
      exact ⟨rfl, rfl⟩
    | some w =>
      have hasked := h.asked w (List.mem_of_getElem? hw)
      have hbrief := hasked ▸ s.brief_perform w.ambient w.request
      obtain ⟨response, hresponse⟩ := hbrief (y.store.answer now w.call).1
      refine .inr (.inl ⟨now, w.ambient, w.request, response, ?_, ?_⟩)
      · simp only [step, Service.alone, hw, hasked, Dialogue.runWith, hresponse]
        rfl
      · simp only [step, hw, hresponse]
        rfl

/-! ## Whole runs -/

theorem run_append (s : Service) (acts : List Act) (act : Act) :
    run s (acts ++ [act]) = (run s acts).step s act := by
  rw [run, List.foldl_append]
  rfl

theorem sound_run (s : Service) (acts : List Act) : (run s acts).Sound s := by
  induction acts using List.reverseRecOn with
  | nil => exact sound_start s
  | append_singleton acts act ih =>
    rw [run_append]
    exact sound_step ih act

/-- **The invariant of the store** holds after every run. -/
theorem wellKept_run (s : Service) (acts : List Act) : (run s acts).store.WellKept :=
  (sound_run s acts).wellKept

/-- A caller who comes when nobody waits, and is answered at once. -/
theorem step_serve {ambient : Ambient} {request : Request} {response : request.Response}
    {now : Time.Instant} {store store' : Store} {history : List Event}
    (halone : s.alone ambient now request store = (response, store')) :
    step s (step s ⟨store, [], history⟩ (.enter ambient request)) (.serve 0 now) =
      ⟨store', [], history ++ [.returned ambient request response]⟩ := by
  have hbrief := s.brief_perform ambient request
  simp only [Service.alone] at halone
  simp only [step]
  cases hperform : s.perform ambient request with
  | done value =>
    rw [hperform] at halone
    cases halone
    rfl
  | ask call next =>
    obtain ⟨value, hvalue⟩ := (hperform ▸ hbrief) (store.answer now call).1
    rw [hperform, Dialogue.runWith, hvalue] at halone
    cases halone
    simp only [proceed, List.nil_append, List.getElem?_cons_zero, hvalue]
    rfl

/-- A caller who is first to register. -/
theorem run_register {ambient : Ambient} {order : Registration} {passwordHash : String}
    (hhash : s.authenticator.hasher.hash ambient.salt order.password = .ok passwordHash)
    (now : Time.Instant) :
    let answer := Store.empty.register now ⟨order.userName, passwordHash, order.profile⟩
    run s [.enter ambient (.register order), .serve 0 now] =
      ⟨answer.2, [], [.returned ambient (.register order) (Service.confirm answer.1)]⟩ :=
  step_serve (Service.alone_register_of_ok hhash now .empty)

/-- **What one operation keeps, every run keeps**: what is true of the empty store, and stays true
when an operation runs alone and when an account is deactivated. -/
theorem run_induction {P : Store → List Event → Prop} (s : Service) (hstart : P .empty [])
    (hreturned : ∀ store history ambient now request, store.WellKept → P store history →
      P (s.alone ambient now request store).2
        (history ++ [.returned ambient request (s.alone ambient now request store).1]))
    (hdeactivated : ∀ store history now id, store.WellKept → P store history →
      P (store.deactivate now id).2
        (history ++ [.deactivated id (store.deactivate now id).1]))
    (acts : List Act) : P (run s acts).store (run s acts).history := by
  induction acts using List.reverseRecOn with
  | nil => exact hstart
  | append_singleton acts act ih =>
    have hsound := sound_run s acts
    rw [run_append]
    rcases step_cases hsound act with
      ⟨hstore, hhistory⟩ | ⟨now, ambient, request, response, halone, hhistory⟩ |
      ⟨now, id, found, hdeactivate, hhistory⟩
    · rw [hstore, hhistory]
      exact ih
    · have hnext := hreturned _ _ ambient now request hsound.wellKept ih
      rw [halone] at hnext
      rw [hhistory]
      exact hnext
    · have hnext := hdeactivated _ _ now id hsound.wellKept ih
      rw [hdeactivate] at hnext
      rw [hhistory]
      exact hnext

end System

end Accounts

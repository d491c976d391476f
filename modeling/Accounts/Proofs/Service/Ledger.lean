import Accounts.Proofs.Service.Runs

/-!
# What a history says about a name

From the registrations and deactivations in a history follows, for every name, which account has it
and what the account was registered with last. `ledger` keeps account of this event by event;
`Last` says it of the whole history.

* `ledger_of_last`, `exists_last_of_ledger` — both say the same.
* `firstId?` — the number that a name got first.
-/

namespace Accounts

/-- What a history says about a name. -/
structure Entry where
  /-- The number of the account. -/
  id : AccountId
  /-- The salt of the last registration. -/
  salt : Password.Salt
  /-- The password of the last registration. -/
  password : String
  /-- Whether the account has not been deactivated since. -/
  isActive : Bool

namespace Event

/-- The entry that an event makes for a name, if it is a registration of the name that was
accepted. -/
def entry? (name : UserName) : Event → Option Entry
  | .returned ambient (.register order) (.ok account) =>
    if order.userName = name then some ⟨account.id, ambient.salt, order.password, true⟩ else none
  | _ => none

/-- Whether an event is a deactivation of an account. -/
def deactivates (id : AccountId) : Event → Bool
  | .deactivated other _ => other = id
  | _ => false

/-- An entry after an event. -/
def touch (event : Event) (entry : Entry) : Entry :=
  if event.deactivates entry.id then { entry with isActive := false } else entry

@[simp] theorem touch_id (event : Event) (entry : Entry) :
    (event.touch entry).id = entry.id := by
  unfold touch
  split <;> rfl

theorem touch_eq_id {event : Event} (h : ∀ id, event.deactivates id = false) :
    event.touch = id := by
  funext entry
  rw [touch, h]
  rfl

end Event

/-- What a history says about a name, event by event. -/
def ledger (name : UserName) (history : List Event) : Option Entry :=
  history.foldl (fun entry event => (event.entry? name).or (entry.map event.touch)) none

/-- The number that a name got when it was first registered. -/
def firstId? (name : UserName) (history : List Event) : Option AccountId :=
  history.findSome? fun event => (event.entry? name).map (·.id)

/-- The last registration of a name in a history that was accepted: its salt, its password, the
number of the account, and what happened after it. -/
def Last (history : List Event) (name : UserName) (salt : Password.Salt) (password : String)
    (id : AccountId) (after : List Event) : Prop :=
  ∃ before ambient order account,
    history = before ++ .returned ambient (.register order) (.ok account) :: after ∧
    order.userName = name ∧ ambient.salt = salt ∧ order.password = password ∧ account.id = id ∧
    ∀ event ∈ after, event.entry? name = none

variable {history after : List Event} {name : UserName} {salt : Password.Salt} {password : String}
  {id : AccountId} {entry : Entry}

/-! ## Event by event -/

theorem ledger_append (name : UserName) (history : List Event) (event : Event) :
    ledger name (history ++ [event]) =
      (event.entry? name).or ((ledger name history).map event.touch) := by
  rw [ledger, List.foldl_append]
  rfl

theorem firstId?_append (name : UserName) (history : List Event) (event : Event) :
    firstId? name (history ++ [event]) =
      (firstId? name history).or ((event.entry? name).map (·.id)) := by
  rw [firstId?, List.findSome?_append]
  cases hentry : event.entry? name <;> simp [firstId?, hentry]

theorem entry?_eq_some {event : Event} (h : event.entry? name = some entry) :
    ∃ ambient order account, event = .returned ambient (.register order) (.ok account) ∧
      order.userName = name ∧ entry = ⟨account.id, ambient.salt, order.password, true⟩ := by
  unfold Event.entry? at h
  split at h
  · next ambient order account =>
    split at h
    · next hname =>
      cases h
      exact ⟨ambient, order, account, rfl, hname, rfl⟩
    · cases h
  · cases h

/-! ## The whole history -/

/-- **What the ledger says** about a name that was registered. -/
theorem ledger_of_last (h : Last history name salt password id after) :
    ledger name history = some ⟨id, salt, password, !after.any (·.deactivates id)⟩ := by
  obtain ⟨before, ambient, order, account, rfl, rfl, rfl, rfl, rfl, hafter⟩ := h
  induction after using List.reverseRecOn with
  | nil =>
    rw [ledger_append]
    simp [Event.entry?]
  | append_singleton after event ih =>
    have hnone := hafter event (List.mem_append_right _ List.mem_cons_self)
    have hsplit : ∀ e : Event,
        before ++ e :: (after ++ [event]) = (before ++ e :: after) ++ [event] := fun e => by simp
    rw [hsplit, ledger_append, hnone, Option.none_or,
      ih fun e he => hafter e (List.mem_append_left _ he), Option.map_some, Event.touch]
    cases hdeactivates : event.deactivates account.id <;> simp [hdeactivates]

/-- The ledger speaks of the last registration. -/
theorem exists_last_of_ledger (h : ledger name history = some entry) :
    ∃ after, Last history name entry.salt entry.password entry.id after ∧
      entry.isActive = !after.any (·.deactivates entry.id) := by
  induction history using List.reverseRecOn generalizing entry with
  | nil => cases h
  | append_singleton history event ih =>
    rw [ledger_append] at h
    cases hentry : event.entry? name with
    | some made =>
      rw [hentry] at h
      cases h
      obtain ⟨ambient, order, account, rfl, hname, rfl⟩ := entry?_eq_some hentry
      exact ⟨[], ⟨history, ambient, order, account, rfl, hname, rfl, rfl, rfl,
        fun _ he => absurd he List.not_mem_nil⟩, rfl⟩
    | none =>
      rw [hentry, Option.none_or, Option.map_eq_some_iff] at h
      obtain ⟨earlier, hearlier, rfl⟩ := h
      obtain ⟨after, ⟨before, ambient, order, account, rfl, hname, hsalt, hpassword, hid, hafter⟩,
        hactive⟩ := ih hearlier
      have hsame : (event.touch earlier).salt = earlier.salt ∧
          (event.touch earlier).password = earlier.password := by
        unfold Event.touch
        split <;> exact ⟨rfl, rfl⟩
      refine ⟨after ++ [event], ⟨before, ambient, order, account, by simp, hname,
        hsalt.trans hsame.1.symm, hpassword.trans hsame.2.symm, hid.trans (by simp), ?_⟩, ?_⟩
      · intro e he
        rcases List.mem_append.1 he with he | he
        · exact hafter e he
        · rw [List.mem_singleton.1 he, hentry]
      · rw [List.any_append, Event.touch_id]
        cases hdeactivates : event.deactivates earlier.id <;>
          simp [Event.touch, hdeactivates, hactive]

/-! ## Active entries -/

/-- The last registration of a name, if its account has not been deactivated since. -/
theorem ledger_of_last_active (h : Last history name salt password id after)
    (hafter : ∀ event ∈ after, event.deactivates id = false) :
    ledger name history = some ⟨id, salt, password, true⟩ := by
  have hnone : after.any (·.deactivates id) = false := by
    rw [List.any_eq_false]
    intro event he
    exact Bool.eq_false_iff.1 (hafter event he)
  rw [ledger_of_last h, hnone, Bool.not_false]

theorem exists_last_of_active (h : ledger name history = some entry)
    (hactive : entry.isActive = true) :
    ∃ after, Last history name entry.salt entry.password entry.id after ∧
      ∀ event ∈ after, event.deactivates entry.id = false := by
  obtain ⟨after, hlast, hafter⟩ := exists_last_of_ledger h
  rw [hactive, eq_comm, Bool.not_eq_true', List.any_eq_false] at hafter
  refine ⟨after, hlast, ?_⟩
  intro event he
  exact Bool.eq_false_iff.2 (hafter event he)

end Accounts

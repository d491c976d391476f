import Accounts.Proofs.Store.Invariant

/-!
# What operations on a store leave as it is

A registration that is accepted writes one account, and its profile if any detail of it was given. A
deactivation changes one account. Under every other number a store holds what it held before.

* `account?_update`, `account?_added`, `profile?_setProfile` — looking up after one change.
* `Writes` — what an accepted registration writes.
* `register_writes` — every registration writes that, or nothing.
* `Continues` — every account is still there, under its number and with its name.
-/

namespace Accounts.Store

variable {s s' t : Store} {id : AccountId} {a : Account} {new : NewAccount} {now : Time.Instant}

/-! ## Looking up after one change -/

theorem account?_update (s : Store) (id : AccountId) (f : Account → Account) (other : AccountId) :
    (s.update id f).account? other =
      if other = id then (s.account? other).map f else s.account? other := by
  simp only [account?, update]
  induction s.accounts with
  | nil => simp
  | cons e es ih =>
    obtain ⟨key, b⟩ := e
    rw [List.map_cons, changed]
    by_cases hother : other = key
    · subst hother
      by_cases hid : other = id <;> simp [hid]
    · have hne : (other == key) = false := beq_false_of_ne hother
      split <;> simp only [List.lookup_cons, hne, ih]

theorem account?_added (h : s.WellKept) (a : Account) (other : AccountId) :
    (s.added a).account? other =
      if other = ⟨s.lastId + 1⟩ then some a else s.account? other := by
  rw [account?, accounts_added h, List.lookup_append]
  by_cases hother : other = ⟨s.lastId + 1⟩
  · have hnone : s.account? other = none := by
      cases hfound : s.account? other with
      | none => rfl
      | some b => exact absurd (hother ▸ mem_keys_of_mem (mem_of_account? hfound)) (fresh_not_mem h)
    rw [account?] at hnone
    rw [if_pos hother, hnone, hother]
    simp
  · have hne : (other == (⟨s.lastId + 1⟩ : AccountId)) = false := beq_false_of_ne hother
    rw [if_neg hother, List.lookup_cons, hne, account?]
    simp

@[simp] theorem account?_setProfile (s : Store) (id : AccountId) (profile : Profile)
    (other : AccountId) : (s.setProfile id profile).account? other = s.account? other := by
  simp [account?]

/-- A profile without any detail is not kept. -/
theorem profile?_setProfile (s : Store) (id : AccountId) (profile : Profile) (other : AccountId) :
    (s.setProfile id profile).profile? other =
      if other = id ∧ profile.isEmpty = false then some profile else s.profile? other := by
  unfold setProfile
  cases hempty : profile.isEmpty with
  | true => simp
  | false =>
    simp only [profile?, Bool.false_eq_true, if_false, and_true]
    by_cases hother : other = id
    · simp [hother]
    · have hne : (other == id) = false := beq_false_of_ne hother
      rw [if_neg hother, List.lookup_cons, hne]
      induction s.profiles with
      | nil => rfl
      | cons e es ih =>
        obtain ⟨key, p⟩ := e
        by_cases hkey : key = id
        · subst hkey
          simpa [List.lookup_cons, hne] using ih
        · simp [List.lookup_cons, hkey, ih]

@[simp] theorem lastId_setProfile (s : Store) (id : AccountId) (profile : Profile) :
    (s.setProfile id profile).lastId = s.lastId := by
  unfold setProfile
  split <;> rfl

/-! ## Registering -/

/-- What an accepted registration writes: a new account under the next number, or new credentials
into an account of the name that cannot be used, which keeps its number, its name and its time of
creation; and the profile, if it has any detail. -/
structure Writes (s : Store) (now : Time.Instant) (new : NewAccount) (stored : Account)
    (s' : Store) : Prop where
  origin :
    (s.named? new.userName = none ∧ s.account? stored.id = none ∧ s'.lastId = s.lastId + 1 ∧
      stored =
        { id := ⟨s.lastId + 1⟩, userName := new.userName, passwordHash := new.passwordHash,
          isActive := true, isDeleted := false, createdAt := now, updatedAt := now }) ∨
    (∃ a, s.account? stored.id = some a ∧ a.userName = new.userName ∧ a.isUsable = false ∧
      s'.lastId = s.lastId ∧
      stored =
        { id := a.id, userName := a.userName, passwordHash := new.passwordHash,
          isActive := true, isDeleted := false, createdAt := a.createdAt, updatedAt := now })
  account? : ∀ id, s'.account? id = if id = stored.id then some stored else s.account? id
  profile? : ∀ id, s'.profile? id =
    if id = stored.id ∧ new.profile.isEmpty = false then some new.profile else s.profile? id

/-- **Every registration** is refused and writes nothing, or writes one account. -/
theorem register_writes (h : s.WellKept) (now : Time.Instant) (new : NewAccount) :
    (∃ fault, s.register now new = (.error fault, s)) ∨
    (∃ stored s', s.register now new = (.ok stored, s') ∧ s.Writes now new stored s') := by
  cases hnamed : s.named? new.userName with
  | none =>
    refine .inr ⟨_, _, by simp only [register, hnamed]; rfl, ?_⟩
    let stored := created ⟨s.lastId + 1⟩ new now
    have hadded := account?_added h stored
    refine ⟨.inl ⟨hnamed, ?_, lastId_setProfile _ _ _, rfl⟩, ?_, ?_⟩
    · cases hfound : s.account? stored.id with
      | none => rfl
      | some b => exact absurd (mem_keys_of_mem (mem_of_account? hfound)) (fresh_not_mem h)
    · intro id
      rw [account?_setProfile]
      exact hadded id
    · intro id
      rw [profile?_setProfile]
      rfl
  | some e =>
    obtain ⟨id, a⟩ := e
    obtain ⟨ha, hname⟩ := mem_of_named? hnamed
    have hid : a.id = id := h.id_eq _ ha
    subst hid
    cases husable : a.isUsable with
    | true => exact .inl ⟨_, by simp only [register, hnamed, husable, if_true]; rfl⟩
    | false =>
      refine .inr ⟨_, _,
        by simp only [register, hnamed, husable, Bool.false_eq_true, if_false]; rfl, ?_⟩
      have hfound : s.account? a.id = some a := (account?_eq_some h).2 ha
      refine ⟨.inr ⟨a, hfound, hname, husable, lastId_setProfile _ _ _, rfl⟩, ?_, ?_⟩
      · intro id
        rw [account?_setProfile, account?_update]
        show _ = if id = a.id then _ else _
        by_cases hother : id = a.id
        · rw [if_pos hother, if_pos hother, hother, hfound]
          rfl
        · rw [if_neg hother, if_neg hother]
      · intro id
        rw [profile?_setProfile]
        rfl

/-! ## Accounts that stay -/

/-- Every account of one store is in the other, under the same number, with the same name and time
of creation. -/
def Continues (s t : Store) : Prop :=
  ∀ id a, s.account? id = some a → ∃ b, t.account? id = some b ∧
    b.id = a.id ∧ b.userName = a.userName ∧ b.createdAt = a.createdAt

theorem Continues.refl (s : Store) : s.Continues s := fun _ a ha => ⟨a, ha, rfl, rfl, rfl⟩

theorem Continues.trans {u : Store} (h : s.Continues t) (h' : t.Continues u) : s.Continues u := by
  intro id a ha
  obtain ⟨b, hb, hid, hname, hcreated⟩ := h id a ha
  obtain ⟨c, hc, hid', hname', hcreated'⟩ := h' id b hb
  exact ⟨c, hc, hid'.trans hid, hname'.trans hname, hcreated'.trans hcreated⟩

theorem Writes.continues {stored : Account} (h : s.Writes now new stored s') : s.Continues s' := by
  intro id a ha
  rw [h.account? id]
  by_cases hid : id = stored.id
  · rw [if_pos hid]
    rw [hid] at ha
    rcases h.origin with ⟨-, hnone, -, -⟩ | ⟨b, hb, -, -, -, hstored⟩
    · rw [hnone] at ha
      cases ha
    · rw [hb] at ha
      cases ha
      exact ⟨stored, rfl, by rw [hstored], by rw [hstored], by rw [hstored]⟩
  · rw [if_neg hid]
    exact ⟨a, ha, rfl, rfl, rfl⟩

theorem continues_register (h : s.WellKept) (now : Time.Instant) (new : NewAccount) :
    s.Continues (s.register now new).2 := by
  rcases register_writes h now new with ⟨_, heq⟩ | ⟨_, _, heq, hwrites⟩
  · rw [heq]
    exact .refl s
  · rw [heq]
    exact hwrites.continues

theorem continues_deactivate (s : Store) (now : Time.Instant) (id : AccountId) :
    s.Continues (s.deactivate now id).2 := by
  intro other a ha
  rw [deactivate_eq, account?_update, ha]
  split
  · exact ⟨_, rfl, rfl, rfl, rfl⟩
  · exact ⟨a, rfl, rfl, rfl, rfl⟩

end Accounts.Store

import Accounts.Store.Memory
import Mathlib.Data.List.Find
import Mathlib.Data.List.Nodup

/-!
# What holds of every store

In a store that came about by registering and deactivating, accounts are kept under their own
numbers, which run from one to the number given last, and no two accounts share a name.

* `WellKept` — the invariant.
* `register_cases` — everything that a registration can do.
* `wellKept_register`, `wellKept_deactivate` — no question to a store breaks the invariant.
-/

namespace Accounts.Store

variable {s : Store} {id : AccountId} {a : Account} {name : UserName} {f : Account → Account}

/-- The numbers under which accounts are kept. -/
def keys (s : Store) : List AccountId := s.accounts.map (·.1)

/-- The names of all accounts. -/
def names (s : Store) : List UserName := s.accounts.map (·.2.userName)

/-- The invariant of a store. -/
structure WellKept (s : Store) : Prop where
  id_eq : ∀ e ∈ s.accounts, e.2.id = e.1
  mem_keys : ∀ id, id ∈ s.keys ↔ 0 < id.value ∧ id.value ≤ s.lastId
  keys_nodup : s.keys.Nodup
  names_nodup : s.names.Nodup
  not_deleted : ∀ e ∈ s.accounts, e.2.isDeleted = false
  profile_keys : ∀ e ∈ s.profiles, e.1 ∈ s.keys

theorem wellKept_empty : empty.WellKept where
  id_eq := nofun
  mem_keys _ := ⟨nofun, fun h => absurd h.2 (Int.not_le.2 h.1)⟩
  keys_nodup := .nil
  names_nodup := .nil
  not_deleted := nofun
  profile_keys := nofun

/-! ## Looking up -/

theorem mem_keys_of_mem {e : AccountId × Account} (h : e ∈ s.accounts) : e.1 ∈ s.keys :=
  List.mem_map_of_mem h

namespace WellKept

theorem eq_of_id {d e : AccountId × Account} (h : s.WellKept) (hd : d ∈ s.accounts)
    (he : e ∈ s.accounts) (hid : d.1 = e.1) : d = e :=
  List.inj_on_of_nodup_map h.keys_nodup hd he hid

theorem eq_of_name {d e : AccountId × Account} (h : s.WellKept) (hd : d ∈ s.accounts)
    (he : e ∈ s.accounts) (hname : d.2.userName = e.2.userName) : d = e :=
  List.inj_on_of_nodup_map h.names_nodup hd he hname

end WellKept

theorem mem_of_named? {e : AccountId × Account} (h : s.named? name = some e) :
    e ∈ s.accounts ∧ e.2.userName = name :=
  ⟨List.mem_of_find?_eq_some h, by simpa using List.find?_some h⟩

theorem named?_eq_some (h : s.WellKept) {e : AccountId × Account} :
    s.named? name = some e ↔ e ∈ s.accounts ∧ e.2.userName = name := by
  refine ⟨mem_of_named?, ?_⟩
  rintro ⟨he, hname⟩
  cases hfound : s.named? name with
  | none =>
    have hnone := List.find?_eq_none.1 hfound e he
    simp [hname] at hnone
  | some d =>
    obtain ⟨hd, hdname⟩ := mem_of_named? hfound
    rw [h.eq_of_name hd he (hdname.trans hname.symm)]

theorem mem_of_account? (h : s.account? id = some a) : (id, a) ∈ s.accounts := by
  obtain ⟨before, after, haccounts, -⟩ := List.lookup_eq_some_iff.1 h
  rw [haccounts]
  exact List.mem_append_right _ List.mem_cons_self

theorem account?_eq_some (h : s.WellKept) : s.account? id = some a ↔ (id, a) ∈ s.accounts := by
  refine ⟨mem_of_account?, ?_⟩
  intro ha
  cases hfound : s.account? id with
  | none =>
    have hnone := List.lookup_eq_none_iff.1 hfound (id, a) ha
    simp at hnone
  | some b =>
    have hb := h.eq_of_id (mem_of_account? hfound) ha rfl
    cases hb
    rfl

/-- The usable account with a name is the account with this name, if that is usable. -/
theorem findByName_eq (h : s.WellKept) (name : UserName) :
    s.findByName name = ((s.named? name).map (·.2)).filter (·.isUsable) := by
  ext a
  simp only [findByName, Option.map_eq_some_iff, Option.filter_eq_some_iff]
  constructor
  · rintro ⟨e, hfind, rfl⟩
    have he := List.mem_of_find?_eq_some hfind
    have hboth := List.find?_some hfind
    simp only [Bool.and_eq_true, beq_iff_eq] at hboth
    exact ⟨⟨e, (named?_eq_some h).2 ⟨he, hboth.1⟩, rfl⟩, hboth.2⟩
  · rintro ⟨⟨e, hnamed, rfl⟩, husable⟩
    obtain ⟨he, hname⟩ := mem_of_named? hnamed
    refine ⟨e, ?_, rfl⟩
    cases hfind : s.accounts.find? fun e => e.2.userName == name && e.2.isUsable with
    | none =>
      have hnone := List.find?_eq_none.1 hfind e he
      simp [hname, husable] at hnone
    | some d =>
      have hd := List.mem_of_find?_eq_some hfind
      have hboth := List.find?_some hfind
      simp only [Bool.and_eq_true, beq_iff_eq] at hboth
      rw [h.eq_of_name hd he (hboth.1.trans hname.symm)]

/-! ## Changing an account -/

@[simp] theorem changed_fst (id : AccountId) (f : Account → Account) (e : AccountId × Account) :
    (changed id f e).1 = e.1 := by
  unfold changed
  split <;> rfl

theorem changed_of_ne {e : AccountId × Account} (h : e.1 ≠ id) : changed id f e = e := if_neg h

@[simp] theorem keys_update (s : Store) (id : AccountId) (f : Account → Account) :
    (s.update id f).keys = s.keys := by
  simp [keys, update, Function.comp_def]

/-- Changes that keep what the invariant is about. -/
def Keeps (s : Store) (id : AccountId) (f : Account → Account) : Prop :=
  ∀ a, (id, a) ∈ s.accounts →
    (f a).id = a.id ∧ (f a).userName = a.userName ∧ (f a).isDeleted = a.isDeleted

theorem Keeps.changed {e : AccountId × Account} (hf : s.Keeps id f) (he : e ∈ s.accounts) :
    (changed id f e).2.id = e.2.id ∧ (changed id f e).2.userName = e.2.userName ∧
      (changed id f e).2.isDeleted = e.2.isDeleted := by
  by_cases hid : e.1 = id
  · rw [Store.changed, if_pos hid]
    exact hf e.2 (hid ▸ he)
  · rw [changed_of_ne hid]
    exact ⟨rfl, rfl, rfl⟩

theorem names_update (hf : s.Keeps id f) : (s.update id f).names = s.names := by
  simp only [names, update, List.map_map]
  exact List.map_congr_left fun e he => (hf.changed he).2.1

theorem WellKept.update (h : s.WellKept) (hf : s.Keeps id f) : (s.update id f).WellKept where
  id_eq e he := by
    obtain ⟨d, hd, rfl⟩ := List.mem_map.1 he
    rw [(hf.changed hd).1, changed_fst, h.id_eq d hd]
  mem_keys := by rw [keys_update]; exact h.mem_keys
  keys_nodup := by rw [keys_update]; exact h.keys_nodup
  names_nodup := by rw [names_update hf]; exact h.names_nodup
  not_deleted e he := by
    obtain ⟨d, hd, rfl⟩ := List.mem_map.1 he
    rw [(hf.changed hd).2.2, h.not_deleted d hd]
  profile_keys := by rw [keys_update]; exact h.profile_keys

theorem named?_update (hf : s.Keeps id f) (name : UserName) :
    (s.update id f).named? name = (s.named? name).map (changed id f) := by
  unfold named? update
  rw [List.find?_map]
  refine congrArg _ (List.find?_congr fun e he => ?_)
  simp only [Function.comp_apply, (hf.changed he).2.1]

/-! ## Adding an account -/

theorem fresh_not_mem (h : s.WellKept) : (⟨s.lastId + 1⟩ : AccountId) ∉ s.keys := by
  intro hid
  exact absurd ((h.mem_keys _).1 hid).2 (Int.not_le.2 (Int.lt_succ _))

theorem accounts_put (hid : id ∉ s.accounts.map (·.1)) (a : Account) :
    (s.put id a).accounts = s.accounts ++ [(id, a)] := by
  have hall : ∀ e ∈ s.accounts, (e.1 != id) = true := by
    intro e he
    have hne : e.1 ≠ id := fun h => hid (h ▸ List.mem_map_of_mem he)
    simpa using hne
  rw [put, List.filter_eq_self.2 hall]

/-- The store after an account is added. -/
def added (s : Store) (a : Account) : Store :=
  ({ s with lastId := s.lastId + 1 } : Store).put ⟨s.lastId + 1⟩ a

theorem accounts_added (h : s.WellKept) (a : Account) :
    (s.added a).accounts = s.accounts ++ [(⟨s.lastId + 1⟩, a)] :=
  accounts_put (fresh_not_mem h) a

theorem keys_added (h : s.WellKept) (a : Account) :
    (s.added a).keys = s.keys ++ [⟨s.lastId + 1⟩] := by
  rw [keys, accounts_added h, List.map_append]
  rfl

theorem named?_added (h : s.WellKept) (hnamed : s.named? a.userName = none) (name : UserName) :
    (s.added a).named? name =
      if name = a.userName then some (⟨s.lastId + 1⟩, a) else s.named? name := by
  rw [named?, accounts_added h, List.find?_append]
  show (s.named? name).or _ = _
  by_cases hname : name = a.userName
  · subst hname
    simp [hnamed]
  · have hne : a.userName ≠ name := Ne.symm hname
    simp [hname, hne]

theorem not_mem_names (hnamed : s.named? name = none) : name ∉ s.names := by
  intro hmem
  obtain ⟨e, he, rfl⟩ := List.mem_map.1 hmem
  have hnone := List.find?_eq_none.1 hnamed e he
  simp at hnone

theorem WellKept.added (h : s.WellKept) (hnamed : s.named? a.userName = none)
    (hid : a.id = ⟨s.lastId + 1⟩) (hdeleted : a.isDeleted = false) : (s.added a).WellKept where
  id_eq e he := by
    rw [accounts_added h, List.mem_append, List.mem_singleton] at he
    rcases he with he | rfl
    · exact h.id_eq e he
    · exact hid
  mem_keys id := by
    have hlast : (s.added a).lastId = s.lastId + 1 := rfl
    have hid : id = ⟨s.lastId + 1⟩ ↔ id.value = s.lastId + 1 := by
      cases id
      simp
    rw [keys_added h, List.mem_append, List.mem_singleton, h.mem_keys, hlast, hid]
    omega
  keys_nodup := by
    rw [keys_added h, List.nodup_append_comm]
    exact List.nodup_cons.2 ⟨fresh_not_mem h, h.keys_nodup⟩
  names_nodup := by
    rw [names, accounts_added h, List.map_append, List.nodup_append_comm]
    exact List.nodup_cons.2 ⟨not_mem_names hnamed, h.names_nodup⟩
  not_deleted e he := by
    rw [accounts_added h, List.mem_append, List.mem_singleton] at he
    rcases he with he | rfl
    · exact h.not_deleted e he
    · exact hdeleted
  profile_keys e he := by
    rw [keys_added h]
    exact List.mem_append_left _ (h.profile_keys e he)

/-! ## Keeping a profile -/

@[simp] theorem accounts_setProfile (s : Store) (id : AccountId) (profile : Profile) :
    (s.setProfile id profile).accounts = s.accounts := by
  unfold setProfile
  split <;> rfl

@[simp] theorem named?_setProfile (s : Store) (id : AccountId) (profile : Profile)
    (name : UserName) : (s.setProfile id profile).named? name = s.named? name := by
  simp [named?]

theorem WellKept.setProfile (h : s.WellKept) (hid : id ∈ s.keys) (profile : Profile) :
    (s.setProfile id profile).WellKept := by
  unfold Store.setProfile
  split
  · exact h
  · refine { h with profile_keys := fun e he => ?_ }
    rcases List.mem_cons.1 he with rfl | he
    · exact hid
    · exact h.profile_keys e (List.mem_filter.1 he).1

/-! ## Registering and deactivating -/

/-- What is true after a registration that was accepted: the name has a usable account with the new
password, under the number of its earlier account if there was one. -/
structure Accepted (s : Store) (new : NewAccount) (stored : Account) (s' : Store) : Prop where
  wellKept : s'.WellKept
  passwordHash : stored.passwordHash = new.passwordHash
  isUsable : stored.isUsable = true
  earlier : ∀ e, s.named? new.userName = some e → e.1 = stored.id ∧ e.2.isUsable = false
  named? : ∀ name, s'.named? name =
    if name = new.userName then some (stored.id, stored) else s.named? name

theorem accepted_reactivated {new : NewAccount} (h : s.WellKept)
    (hnamed : s.named? new.userName = some (id, a)) (husable : a.isUsable = false)
    (now : Time.Instant) :
    let stored := reactivated a new.passwordHash now
    s.Accepted new stored ((s.update id fun _ => stored).setProfile stored.id new.profile) := by
  intro stored
  obtain ⟨ha, hname⟩ := mem_of_named? hnamed
  have hid : a.id = id := h.id_eq _ ha
  have hdeleted : a.isDeleted = false := h.not_deleted _ ha
  have hkeeps : s.Keeps id fun _ => stored := by
    intro b hb
    cases h.eq_of_id hb ha rfl
    exact ⟨rfl, rfl, hdeleted.symm⟩
  have hkey : stored.id ∈ (s.update id fun _ => stored).keys := by
    rw [keys_update]
    exact hid ▸ mem_keys_of_mem ha
  refine ⟨(h.update hkeeps).setProfile hkey _, rfl, rfl, ?_, ?_⟩
  · intro e he
    cases hnamed.symm.trans he
    exact ⟨hid.symm, husable⟩
  · intro name
    rw [named?_setProfile, named?_update hkeeps]
    by_cases hother : name = new.userName
    · rw [if_pos hother, hother, hnamed, Option.map_some, changed, if_pos rfl]
      exact congrArg (fun i => some (i, stored)) hid.symm
    · rw [if_neg hother]
      cases hfound : s.named? name with
      | none => rfl
      | some e =>
        obtain ⟨he, hename⟩ := mem_of_named? hfound
        have hne : e.1 ≠ id := by
          intro heid
          cases h.eq_of_id he ha heid
          exact hother (hename.symm.trans hname)
        rw [Option.map_some, changed_of_ne hne]

theorem accepted_created {new : NewAccount} (h : s.WellKept)
    (hnamed : s.named? new.userName = none) (now : Time.Instant) :
    let stored := created ⟨s.lastId + 1⟩ new now
    s.Accepted new stored ((s.added stored).setProfile stored.id new.profile) := by
  intro stored
  have hkey : stored.id ∈ (s.added stored).keys := by
    rw [keys_added h]
    exact List.mem_append_right _ List.mem_cons_self
  refine ⟨(h.added hnamed rfl rfl).setProfile hkey _, rfl, rfl, ?_, ?_⟩
  · intro e he
    cases hnamed.symm.trans he
  · intro name
    rw [named?_setProfile, named?_added h hnamed]
    rfl

/-- **Everything that a registration can do**: it is refused because the name has a usable account,
and changes nothing, or it is accepted. -/
theorem register_cases (h : s.WellKept) (now : Time.Instant) (new : NewAccount) :
    (∃ e, s.named? new.userName = some e ∧ e.2.isUsable = true ∧
      s.register now new = (.error (.alreadyExists new.userName.text), s)) ∨
    (∃ stored s', s.register now new = (.ok stored, s') ∧ s.Accepted new stored s') := by
  cases hnamed : s.named? new.userName with
  | none =>
    refine .inr ⟨_, _, ?_, accepted_created h hnamed now⟩
    simp only [register, hnamed]
    rfl
  | some e =>
    obtain ⟨id, a⟩ := e
    cases husable : a.isUsable with
    | true => exact .inl ⟨_, rfl, husable, by simp only [register, hnamed, husable, if_true]⟩
    | false =>
      refine .inr ⟨_, _, ?_, accepted_reactivated h hnamed husable now⟩
      simp only [register, hnamed, husable, Bool.false_eq_true, if_false]

theorem wellKept_register (h : s.WellKept) (now : Time.Instant) (new : NewAccount) :
    (s.register now new).2.WellKept := by
  rcases register_cases h now new with ⟨_, -, -, heq⟩ | ⟨_, _, heq, haccepted⟩
  · rw [heq]
    exact h
  · rw [heq]
    exact haccepted.wellKept

theorem keeps_deactivated (s : Store) (id : AccountId) (now : Time.Instant) :
    s.Keeps id (deactivated · now) := fun _ _ => ⟨rfl, rfl, rfl⟩

/-- A deactivation changes the account with the number, if there is one. -/
theorem deactivate_eq (s : Store) (now : Time.Instant) (id : AccountId) :
    s.deactivate now id = ((s.account? id).isSome, s.update id (deactivated · now)) := by
  unfold deactivate
  cases hfound : s.account? id with
  | some a => rfl
  | none =>
    have hsame : s.accounts.map (changed id (deactivated · now)) = s.accounts := by
      refine (List.map_congr_left ?_).trans s.accounts.map_id
      intro e he
      apply changed_of_ne
      intro hid
      have hne := List.lookup_eq_none_iff.1 hfound e he
      simp [hid] at hne
    simp only [update, hsame, Option.isSome_none]

theorem wellKept_deactivate (h : s.WellKept) (now : Time.Instant) (id : AccountId) :
    (s.deactivate now id).2.WellKept := by
  rw [deactivate_eq]
  exact h.update (keeps_deactivated s id now)

/-- **No question breaks the invariant.** -/
theorem wellKept_answer (h : s.WellKept) (now : Time.Instant) (call : StoreCall) :
    (answer now call s).2.WellKept := by
  cases call with
  | findByName _ => exact h
  | findById _ => exact h
  | register new => exact wellKept_register h now new

end Accounts.Store

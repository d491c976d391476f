import Accounts.Proofs.Store.Frame

/-!
# Operations on a store, one after the other

Any number of callers use one store, and their operations take turns. The entries of the store are
gone through in an order that nobody controls and that may change between any two operations.

**Theorem (`kept_over_operations`).** However the order changes, the operations give back the same,
the invariant holds, no account is lost, renamed or replaced, and no account was changed before it
was created unless the clock was set back.

The order does not matter because the invariant determines an entry by its number and by its name.
Stores that differ in their order only are `Alike`, and `perform_alike` keeps them so.
-/

namespace Accounts.Store

/-- Operations on a store. -/
inductive Operation where
  | register (now : Time.Instant) (new : NewAccount)
  | deactivate (now : Time.Instant) (id : AccountId)
  | findByName (userName : UserName)
  | findById (id : AccountId)

/-- What an operation gives back. -/
inductive Outcome where
  | registered (result : Except StoreFault Account)
  | deactivated (isFound : Bool)
  | found (account : Option Account)

namespace Operation

def perform (s : Store) : Operation → Outcome × Store
  | register now new => (.registered (s.register now new).1, (s.register now new).2)
  | deactivate now id => (.deactivated (s.deactivate now id).1, (s.deactivate now id).2)
  | findByName userName => (.found (s.findByName userName), s)
  | findById id => (.found (s.findById id), s)

/-- The reading of the clock that an operation takes. -/
def reading? : Operation → Option Time.Instant
  | register now _ => some now
  | deactivate now _ => some now
  | findByName _ => none
  | findById _ => none

end Operation

/-- Carries out operations in turn, with the order of entries as it comes. -/
def performAll (s : Store) : List Operation → List Outcome × Store
  | [] => ([], s)
  | op :: ops =>
    ((op.perform s).1 :: (performAll (op.perform s).2 ops).1, (performAll (op.perform s).2 ops).2)

/-- Stores that differ in the order of their entries only. -/
structure Alike (s t : Store) : Prop where
  lastId : t.lastId = s.lastId
  accounts : t.accounts.Perm s.accounts
  profiles : t.profiles.Perm s.profiles

/-- Operations carried out in turn. Before and after each of them the order of entries may
change. -/
inductive Reaches : Store → List Operation → List Outcome → Store → Prop where
  | done {s t : Store} (h : s.Alike t) : Reaches s [] [] t
  | step {s t u : Store} {op : Operation} {ops : List Operation} {outcomes : List Outcome}
      (h : s.Alike t) (rest : Reaches (op.perform t).2 ops outcomes u) :
      Reaches s (op :: ops) ((op.perform t).1 :: outcomes) u

variable {s t u : Store} {id : AccountId} {name : UserName} {now : Time.Instant} {new : NewAccount}
  {op : Operation} {ops : List Operation} {outcomes : List Outcome}

/-! ## Stores in another order -/

namespace Alike

theorem refl (s : Store) : s.Alike s := ⟨rfl, .refl _, .refl _⟩

theorem trans (h : s.Alike t) (h' : t.Alike u) : s.Alike u :=
  ⟨h'.lastId.trans h.lastId, h'.accounts.trans h.accounts, h'.profiles.trans h.profiles⟩

theorem keys (h : s.Alike t) : t.keys.Perm s.keys := h.accounts.map _

theorem names (h : s.Alike t) : t.names.Perm s.names := h.accounts.map _

theorem wellKept (h : s.Alike t) (hk : s.WellKept) : t.WellKept where
  id_eq e he := hk.id_eq e (h.accounts.subset he)
  mem_keys id := by rw [h.keys.mem_iff, h.lastId, hk.mem_keys]
  keys_nodup := h.keys.nodup_iff.2 hk.keys_nodup
  names_nodup := h.names.nodup_iff.2 hk.names_nodup
  not_deleted e he := hk.not_deleted e (h.accounts.subset he)
  profile_keys e he := h.keys.mem_iff.2 (hk.profile_keys e (h.profiles.subset he))

theorem account? (h : s.Alike t) (hk : s.WellKept) (id : AccountId) :
    t.account? id = s.account? id := by
  ext a
  rw [account?_eq_some (h.wellKept hk), account?_eq_some hk, h.accounts.mem_iff]

theorem named? (h : s.Alike t) (hk : s.WellKept) (name : UserName) :
    t.named? name = s.named? name := by
  ext e
  rw [named?_eq_some (h.wellKept hk), named?_eq_some hk, h.accounts.mem_iff]

theorem findByName (h : s.Alike t) (hk : s.WellKept) (name : UserName) :
    t.findByName name = s.findByName name := by
  rw [findByName_eq (h.wellKept hk), findByName_eq hk, h.named? hk]

theorem findById (h : s.Alike t) (hk : s.WellKept) (id : AccountId) :
    t.findById id = s.findById id := by
  rw [Store.findById, Store.findById, h.account? hk]

theorem update (h : s.Alike t) (id : AccountId) (f : Account → Account) :
    (s.update id f).Alike (t.update id f) :=
  ⟨h.lastId, h.accounts.map _, h.profiles⟩

theorem put (h : s.Alike t) (lastId : Nat) (id : AccountId) (a : Account) :
    (({ s with lastId } : Store).put id a).Alike (({ t with lastId } : Store).put id a) :=
  ⟨rfl, (h.accounts.filter _).append_right _, h.profiles⟩

theorem setProfile (h : s.Alike t) (id : AccountId) (profile : Profile) :
    (s.setProfile id profile).Alike (t.setProfile id profile) := by
  unfold Store.setProfile
  split
  · exact h
  · exact ⟨h.lastId, h.accounts, (h.profiles.filter _).cons _⟩

theorem continues (h : s.Alike t) (hk : s.WellKept) : s.Continues t :=
  fun id a ha => ⟨a, (h.account? hk id).trans ha, rfl, rfl, rfl⟩

/-! ## Operations in another order -/

/-- A registration finds the same account among those of the name, if there is one. -/
theorem register (h : s.Alike t) (hk : s.WellKept) (now : Time.Instant) (new : NewAccount) :
    (t.register now new).1 = (s.register now new).1 ∧
      (s.register now new).2.Alike (t.register now new).2 := by
  unfold Store.register
  rw [h.named? hk]
  cases s.named? new.userName with
  | none =>
    simp only [h.lastId]
    exact ⟨trivial, (h.put _ _ _).setProfile _ _⟩
  | some e =>
    obtain ⟨id, a⟩ := e
    simp only
    split
    · exact ⟨rfl, h⟩
    · exact ⟨rfl, (h.update _ _).setProfile _ _⟩

theorem deactivate (h : s.Alike t) (hk : s.WellKept) (now : Time.Instant) (id : AccountId) :
    (t.deactivate now id).1 = (s.deactivate now id).1 ∧
      (s.deactivate now id).2.Alike (t.deactivate now id).2 := by
  rw [deactivate_eq, deactivate_eq, h.account? hk]
  exact ⟨rfl, h.update _ _⟩

/-- **The order of entries does not matter** to any operation. -/
theorem perform (h : s.Alike t) (hk : s.WellKept) (op : Operation) :
    (op.perform t).1 = (op.perform s).1 ∧ (op.perform s).2.Alike (op.perform t).2 := by
  cases op with
  | register now new =>
    obtain ⟨houtcome, hstore⟩ := h.register hk now new
    exact ⟨congrArg Outcome.registered houtcome, hstore⟩
  | deactivate now id =>
    obtain ⟨houtcome, hstore⟩ := h.deactivate hk now id
    exact ⟨congrArg Outcome.deactivated houtcome, hstore⟩
  | findByName userName => exact ⟨congrArg Outcome.found (h.findByName hk userName), h⟩
  | findById id => exact ⟨congrArg Outcome.found (h.findById hk id), h⟩

end Alike

/-! ## One operation -/

theorem wellKept_perform (hk : s.WellKept) (op : Operation) : (op.perform s).2.WellKept := by
  cases op with
  | register now new => exact wellKept_register hk now new
  | deactivate now id => exact wellKept_deactivate hk now id
  | findByName _ => exact hk
  | findById _ => exact hk

theorem continues_perform (hk : s.WellKept) (op : Operation) : s.Continues (op.perform s).2 := by
  cases op with
  | register now new => exact continues_register hk now new
  | deactivate now id => exact continues_deactivate s now id
  | findByName _ => exact .refl s
  | findById _ => exact .refl s

/-- Every account was created by the given time, and not changed before it was created. -/
def Dated (clock : Int) (s : Store) : Prop :=
  ∀ id a, s.account? id = some a →
    a.createdAt.nanoseconds ≤ clock ∧ a.createdAt.nanoseconds ≤ a.updatedAt.nanoseconds

theorem Dated.mono {clock later : Int} (h : s.Dated clock) (hle : clock ≤ later) : s.Dated later :=
  fun id a ha => ⟨Int.le_trans (h id a ha).1 hle, (h id a ha).2⟩

theorem Dated.register (h : s.Dated now.nanoseconds) (hk : s.WellKept) (new : NewAccount) :
    (s.register now new).2.Dated now.nanoseconds := by
  rcases register_writes hk now new with ⟨_, heq⟩ | ⟨stored, s', heq, hwrites⟩
  · rw [heq]
    exact h
  · rw [heq]
    intro id a ha
    rw [hwrites.account? id] at ha
    split at ha
    · cases ha
      rcases hwrites.origin with ⟨-, -, -, hstored⟩ | ⟨b, hb, -, -, -, hstored⟩
      · rw [hstored]
        exact ⟨Int.le_refl _, Int.le_refl _⟩
      · rw [hstored]
        exact ⟨(h _ b hb).1, (h _ b hb).1⟩
    · exact h id a ha

theorem Dated.deactivate (h : s.Dated now.nanoseconds) (id : AccountId) :
    (s.deactivate now id).2.Dated now.nanoseconds := by
  rw [deactivate_eq]
  intro other a ha
  rw [account?_update] at ha
  split at ha
  · obtain ⟨b, hb, rfl⟩ := Option.map_eq_some_iff.1 ha
    exact ⟨(h other b hb).1, (h other b hb).1⟩
  · exact h other a ha

theorem Dated.perform {clock : Int} (h : s.Dated clock) (hk : s.WellKept)
    (hlater : ∀ reading, op.reading? = some reading → clock ≤ reading.nanoseconds) :
    (op.perform s).2.Dated ((op.reading?.map (·.nanoseconds)).getD clock) := by
  cases op with
  | register now new => exact (h.mono (hlater now rfl)).register hk new
  | deactivate now id => exact (h.mono (hlater now rfl)).deactivate id
  | findByName _ => exact h
  | findById _ => exact h

/-! ## Whole runs -/

theorem Reaches.wellKept (h : Reaches s ops outcomes u) (hk : s.WellKept) : u.WellKept := by
  induction h with
  | done h => exact h.wellKept hk
  | step h _ ih => exact ih (wellKept_perform (h.wellKept hk) _)

theorem Reaches.continues (h : Reaches s ops outcomes u) (hk : s.WellKept) : s.Continues u := by
  induction h with
  | done h => exact h.continues hk
  | step h _ ih =>
    have hkt := h.wellKept hk
    exact ((h.continues hk).trans (continues_perform hkt _)).trans (ih (wellKept_perform hkt _))

/-- **Whatever the order of entries**, operations give back the same. -/
theorem Reaches.eq_performAll (h : Reaches s ops outcomes u) (hk : s.WellKept) {r : Store}
    (hr : r.Alike s) (hkr : r.WellKept) :
    outcomes = (r.performAll ops).1 ∧ (r.performAll ops).2.Alike u := by
  induction h generalizing r with
  | done h => exact ⟨rfl, hr.trans h⟩
  | step h _ ih =>
    obtain ⟨houtcome, hstore⟩ := (hr.trans h).perform hkr _
    obtain ⟨houtcomes, hlast⟩ :=
      ih (wellKept_perform (h.wellKept hk) _) hstore (wellKept_perform hkr _)
    refine ⟨?_, hlast⟩
    rw [houtcome, houtcomes]
    rfl

/-- Whether the readings of the clock that operations take never go back. -/
def Forward (ops : List Operation) : Prop :=
  (ops.filterMap Operation.reading?).Pairwise fun earlier later =>
    earlier.nanoseconds ≤ later.nanoseconds

instance (ops : List Operation) : Decidable (Forward ops) :=
  inferInstanceAs (Decidable (List.Pairwise _ _))

/-- The induction carries the last reading: no account was created after it, and no further reading
lies before it. -/
theorem Reaches.dated (h : Reaches s ops outcomes u) (hk : s.WellKept) {clock : Int}
    (hdated : s.Dated clock) (hforward : Forward ops)
    (hlater : ∀ reading ∈ ops.filterMap Operation.reading?, clock ≤ reading.nanoseconds) :
    ∃ last, u.Dated last := by
  induction h generalizing clock with
  | done h => exact ⟨clock, fun id a ha => hdated id a ((h.account? hk id).symm.trans ha)⟩
  | @step s t u op ops outcomes h _ ih =>
    have hkt := h.wellKept hk
    have hdated : t.Dated clock := fun id a ha => hdated id a ((h.account? hk id).symm.trans ha)
    have hnow : ∀ reading, op.reading? = some reading → clock ≤ reading.nanoseconds := by
      intro reading hreading
      exact hlater reading (List.mem_filterMap.2 ⟨op, List.mem_cons_self, hreading⟩)
    refine ih (wellKept_perform hkt op) (hdated.perform hkt hnow) ?_ ?_
    · cases hreading : op.reading? with
      | none => rwa [Forward, List.filterMap_cons_none hreading] at hforward
      | some reading =>
        rw [Forward, List.filterMap_cons_some hreading] at hforward
        exact hforward.of_cons
    · cases hreading : op.reading? with
      | none =>
        rw [List.filterMap_cons_none hreading] at hlater
        exact hlater
      | some reading =>
        rw [Forward, List.filterMap_cons_some hreading] at hforward
        exact (List.pairwise_cons.1 hforward).1

/-- **However operations follow each other** and whatever the order of entries: the invariant holds,
no account is ever lost, renamed or replaced, none was changed before it was created as long as the
clock does not go back, and every operation gives back what it gives back in any other order. -/
theorem kept_over_operations (h : Reaches .empty ops outcomes s) :
    s.WellKept ∧
    (∀ more outcomes' t, Reaches s more outcomes' t → s.Continues t) ∧
    (Forward ops → ∀ id a, s.account? id = some a →
      a.createdAt.nanoseconds ≤ a.updatedAt.nanoseconds) ∧
    outcomes = (performAll .empty ops).1 ∧
    ∀ t, s.Alike t → ∀ name,
      t.findByName name = s.findByName name ∧ t.named? name = s.named? name := by
  have hk : s.WellKept := h.wellKept wellKept_empty
  refine ⟨hk, fun _ _ _ hmore => hmore.continues hk, ?_,
    (h.eq_performAll wellKept_empty (.refl _) wellKept_empty).1,
    fun t ht name => ⟨ht.findByName hk name, ht.named? hk name⟩⟩
  intro hforward id a ha
  -- The empty store is dated at any time, so also before the first reading.
  obtain ⟨clock, hclock⟩ : ∃ clock : Int,
      ∀ reading ∈ ops.filterMap Operation.reading?, clock ≤ reading.nanoseconds := by
    cases hreadings : ops.filterMap Operation.reading? with
    | nil => exact ⟨0, nofun⟩
    | cons reading later =>
      rw [Forward, hreadings] at hforward
      refine ⟨reading.nanoseconds, fun other hother => ?_⟩
      rcases List.mem_cons.1 hother with rfl | hother
      · exact Int.le_refl _
      · exact (List.pairwise_cons.1 hforward).1 other hother
  obtain ⟨last, hlast⟩ := h.dated wellKept_empty (fun _ _ h => nomatch h) hforward hclock
  exact (hlast id a ha).2

/-- Two people register, the order of their accounts changes, the first account is deactivated, and
its name is registered again. -/
theorem kept_over_operations_swapped :
    ∃ ops outcomes s a, Reaches .empty ops outcomes s ∧ Forward ops ∧ ops.length = 4 ∧
      s.WellKept ∧ outcomes = (performAll .empty ops).1 ∧ s.lastId = 2 ∧
      s.account? ⟨1⟩ = some a ∧ a.passwordHash = "new" ∧
      a.createdAt.nanoseconds ≤ a.updatedAt.nanoseconds := by
  let anna : NewAccount := ⟨⟨⟨"a@b", rfl⟩⟩, "old", .empty⟩
  let berta : NewAccount := ⟨⟨⟨"b@b", rfl⟩⟩, "other", .empty⟩
  let again : NewAccount := { anna with passwordHash := "new" }
  let ops : List Operation := [.register ⟨1⟩ anna, .register ⟨2⟩ berta, .deactivate ⟨3⟩ ⟨1⟩,
    .register ⟨4⟩ again]
  let s₂ : Store := ⟨2, [(⟨2⟩, created ⟨2⟩ berta ⟨2⟩), (⟨1⟩, created ⟨1⟩ anna ⟨1⟩)], []⟩
  have hswap : (performAll .empty [.register ⟨1⟩ anna, .register ⟨2⟩ berta]).2.Alike s₂ :=
    ⟨rfl, .swap _ _ _, .refl _⟩
  have hreaches : Reaches .empty ops _ _ :=
    .step (.refl _) (.step (.refl _) (.step hswap (.step (.refl _) (.done (.refl _)))))
  have hforward : Forward ops := by decide
  obtain ⟨hk, -, hdated, houtcomes, -⟩ := kept_over_operations hreaches
  exact ⟨ops, _, _, reactivated (deactivated (created ⟨1⟩ anna ⟨1⟩) ⟨3⟩) "new" ⟨4⟩, hreaches,
    hforward, rfl, hk, houtcomes, rfl, rfl, rfl, hdated hforward ⟨1⟩ _ rfl⟩

end Accounts.Store

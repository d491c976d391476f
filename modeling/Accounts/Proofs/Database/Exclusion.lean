import Accounts.Proofs.Database.Contention
import Mathlib.Algebra.Order.BigOperators.Group.Finset
import Mathlib.Data.Fintype.BigOperators

/-!
# One registration of a name succeeds

Several callers register the same name at the same time, and the name is not taken.

**Theorem (`one_registration_succeeds`).** However their statements are served, the race ends. Then
one caller has registered the name, all others are told that it is taken, and the name has one row,
which holds the password of the one who succeeded.

The race has three phases. At first nobody has locked or written the row with the name (`Open`).
Then one caller leads, and all others have done nothing yet (`Led`). When the leader has committed,
all others find the name taken (`Decided`). Each statement brings its caller closer to the end.
-/

namespace Accounts.Database

/-- Tables whose rows differ in their numbers and in their names. -/
structure Tables.Keyed (t : Tables) : Prop where
  ids_nodup : (t.accounts.map (·.id)).Nodup
  names_nodup : (t.accounts.map (·.userName)).Nodup

variable {t t' : Tables} {name : UserName} {new : NewAccount} {row : AccountRow} {x y : Transaction}
  {others : Transaction → Prop} {stage after : Stage}

theorem mem_named : row ∈ t.named name ↔ row ∈ t.accounts ∧ row.userName = name.text := by
  simp [Tables.named]

theorem isTaken_eq_false {rows : List AccountRow} (h : ∀ row ∈ rows, row.isUsable = false) :
    isTaken rows = false := by
  cases rows with
  | nil => rfl
  | cons row rows => exact h row List.mem_cons_self

/-! ## Before anybody commits -/

/-- The row that a registration writes: the one with the name gets it, or a new one. -/
structure Fills (t : Tables) (new : NewAccount) (row : AccountRow) : Prop where
  userName : row.userName = new.userName.text
  password : row.password = new.passwordHash
  isUsable : row.isUsable = true
  id_iff : ∀ old ∈ t.accounts, old.id = row.id ↔ old.userName = new.userName.text

theorem fills_inserted {id : AccountId}
    (hname : ∀ row ∈ t.accounts, row.userName ≠ new.userName.text)
    (hid : ∀ row ∈ t.accounts, row.id ≠ id) (now : Time.Instant) :
    Fills t new (.inserted id new.userName new.passwordHash now) where
  userName := rfl
  password := rfl
  isUsable := rfl
  id_iff old hold := iff_of_false (hid old hold) (hname old hold)

theorem fills_restored (ht : t.Keyed) (hrow : row ∈ t.named new.userName) (now : Time.Instant) :
    Fills t new (row.restored new.passwordHash now) where
  userName := (mem_named.1 hrow).2
  password := rfl
  isUsable := rfl
  id_iff old hold := by
    obtain ⟨hmem, hname⟩ := mem_named.1 hrow
    constructor
    · intro hid
      rw [List.inj_on_of_nodup_map ht.ids_nodup hold hmem hid, hname]
    · intro hold'
      rw [List.inj_on_of_nodup_map ht.names_nodup hold hmem (hold'.trans hname.symm)]
      rfl

/-- When the row is committed, it is the only one with the name. -/
theorem Fills.named_applied (h : Fills t new row) (hwritten : x.written = [row]) :
    (x.applied t).named new.userName = [row] := by
  have hothers : (t.accounts.filter fun old => row.id != old.id).filter
      (fun old => old.userName == new.userName.text) = [] := by
    rw [List.filter_filter, List.filter_eq_nil_iff]
    intro old hold
    have hid := h.id_iff old hold
    simp only [Bool.and_eq_true, beq_iff_eq, bne_iff_ne, ne_eq, not_and, not_not]
    exact fun hname => (hid.2 hname).symm
  simp [Transaction.applied, Tables.named, Transaction.sees, hwritten, hothers, h.userName]

/-- A registration that has locked and written nothing. If it has found that no row has the name,
there is none. -/
inductive Stage.Waits (t : Tables) (name : UserName) : Stage → Prop where
  | fresh : Waits t name .fresh
  | begun : Waits t name .begun
  | ready (hnone : t.named name = []) : Waits t name (.ready [])

/-- A registration that has locked the row with the name, or has written it. -/
inductive Stage.Leads (t : Tables) (new : NewAccount) : Stage → Prop where
  | ready {row : AccountRow} {rows : List AccountRow}
      (hnamed : t.named new.userName = row :: rows) :
      Leads t new (.ready (row :: rows))
  | written {x : Transaction} {row : AccountRow} (hwritten : x.written = [row])
      (hheld : row.id ∈ x.held) (hfills : Fills t new row) : Leads t new (.written x row)
  | kept {x : Transaction} {row : AccountRow} (hwritten : x.written = [row])
      (hheld : row.id ∈ x.held) (hfills : Fills t new row) : Leads t new (.kept x row)

namespace Stage

theorem Waits.idle (h : stage.Waits t name) (hy : stage.transaction = some y) :
    y.held = [] ∧ y.written = [] := by
  cases h <;> cases hy <;> exact ⟨rfl, rfl⟩

theorem leads_wrote (hwritten : x.written = [row]) (hheld : row.id ∈ x.held) (h : Fills t new row) :
    (wrote new x row).Leads t new := by
  unfold wrote
  split
  · exact .kept hwritten hheld h
  · exact .written hwritten hheld h

/-- Who leads holds the row with the name, if there is one. -/
theorem Leads.held (h : stage.Leads t new) :
    ∃ y, stage.transaction = some y ∧ ∀ row ∈ t.named new.userName, row.id ∈ y.held := by
  have hfills : ∀ {x : Transaction} {row : AccountRow}, row.id ∈ x.held → Fills t new row →
      ∀ old ∈ t.named new.userName, old.id ∈ x.held := by
    intro x row hheld hfills old hold
    obtain ⟨hmem, hname⟩ := mem_named.1 hold
    exact (hfills.id_iff old hmem).2 hname ▸ hheld
  cases h with
  | ready hnamed =>
    exact ⟨_, rfl, fun row hrow => List.mem_append_left _ (List.mem_map_of_mem (hnamed ▸ hrow))⟩
  | written _ hheld h => exact ⟨_, rfl, hfills hheld h⟩
  | kept _ hheld h => exact ⟨_, rfl, hfills hheld h⟩

/-- Who leads though no row has the name has written one. -/
theorem Leads.written_of_named (h : stage.Leads t new) (hnone : t.named new.userName = []) :
    ∃ y, stage.transaction = some y ∧ ∃ row ∈ y.written, row.userName = new.userName.text := by
  cases h with
  | ready hnamed => cases hnone.symm.trans hnamed
  | written hwritten _ h => exact ⟨_, rfl, _, hwritten ▸ List.mem_cons_self, h.userName⟩
  | kept hwritten _ h => exact ⟨_, rfl, _, hwritten ▸ List.mem_cons_self, h.userName⟩

end Stage

/-! ## After somebody has committed -/

/-- A registration that cannot succeed any more. -/
inductive Stage.IsLate (name : UserName) : Stage → Prop where
  | fresh : IsLate name .fresh
  | begun : IsLate name .begun
  | ready : IsLate name (.ready [])
  | refused {x : Transaction} (hwritten : x.written = []) : IsLate name (.refused x)
  | returned : IsLate name (.returned (.error (.alreadyExists name.text)))

theorem Stage.Waits.isLate (h : stage.Waits t name) : stage.IsLate name := by
  cases h with
  | fresh => exact .fresh
  | begun => exact .begun
  | ready => exact .ready

theorem Stage.IsLate.written_eq_nil (h : stage.IsLate name) (hy : stage.transaction = some y) :
    y.written = [] := by
  cases h <;> cases hy <;> first | rfl | assumption

/-- Who is late and not refused holds nothing. -/
theorem Stage.IsLate.held_eq_nil (h : stage.IsLate name) (hrefused : ∀ x, stage ≠ .refused x)
    (hy : stage.transaction = some y) : y.held = [] := by
  cases h with
  | refused => exact absurd rfl (hrefused _)
  | _ => cases hy <;> rfl

/-! ## The phases of a race -/

variable {ι : Type} {news : ι → NewAccount} {stages : ι → Stage} {i leader winner : ι}
  {account : Account}

/-- Nobody has locked or written the row with the name. -/
def Open (t : Tables) (name : UserName) (stages : ι → Stage) : Prop := ∀ i, (stages i).Waits t name

/-- One caller leads. -/
structure Led (t : Tables) (name : UserName) (news : ι → NewAccount) (stages : ι → Stage)
    (leader : ι) : Prop where
  leads : (stages leader).Leads t (news leader)
  waits : ∀ i, i ≠ leader → (stages i).Waits t name

/-- Somebody has committed. -/
structure Decided (t : Tables) (name : UserName) (news : ι → NewAccount) (stages : ι → Stage)
    (winner : ι) (account : Account) : Prop where
  returned : stages winner = .returned (.ok account)
  late : ∀ i, i ≠ winner → (stages i).IsLate name
  named : t.named name = [.ofAccount account]
  isUsable : account.isUsable = true
  passwordHash : account.passwordHash = (news winner).passwordHash

/-! ## There is always something to do -/

section

variable (hnews : ∀ i, (news i).userName = name)
include hnews

theorem Open.exists_moves (h : Open t name stages)
    (hunusable : ∀ row ∈ t.named name, row.isUsable = false) (i : ι) :
    ∃ t' after, Moves (news i) t (Race.OfOthers stages i) (stages i) t' after := by
  have hothers : ∀ y, Race.OfOthers stages i y → y.held = [] ∧ y.written = [] := by
    rintro y ⟨j, -, hy⟩
    exact (h j).idle hy
  have hi := h i
  generalize stages i = stage at hi
  cases hi with
  | fresh => exact ⟨_, _, .begins⟩
  | begun =>
    refine ⟨_, _, .locks ?_ (by rw [hnews i, isTaken_eq_false hunusable])⟩
    intro y hy row _
    rw [(hothers y hy).1]
    exact List.not_mem_nil
  | ready hnone =>
    obtain ⟨id, hid⟩ := Infinite.exists_notMem_finset (t.accounts.map (·.id.value)).toFinset
    refine ⟨_, _, @Moves.inserts _ _ _ ⟨id⟩ ⟨0⟩ _ rfl ?_ ?_ ?_⟩
    · intro row hrow hname
      have hmem := mem_named.2 ⟨hrow, hname⟩
      rw [hnews i, hnone] at hmem
      cases hmem
    · intro row hrow hrowid
      refine hid (List.mem_toFinset.2 (List.mem_map.2 ⟨row, hrow, ?_⟩))
      rw [hrowid]
    · intro y hy row hrow
      rw [(hothers y hy).2] at hrow
      cases hrow

omit hnews in
theorem Led.exists_moves (h : Led t name news stages leader) :
    ∃ t' after, Moves (news leader) t (Race.OfOthers stages leader) (stages leader) t' after := by
  have hleads := h.leads
  generalize stages leader = stage at hleads
  cases hleads with
  | @ready row rows hnamed =>
    have hrow : row ∈ t.named (news leader).userName := hnamed ▸ List.mem_cons_self
    refine ⟨_, _, @Moves.restores _ _ _ row row _ rows ⟨0⟩ rfl (mem_named.1 hrow).1 rfl ?_⟩
    rintro y ⟨j, hj, hy⟩
    rw [((h.waits j hj).idle hy).1]
    exact List.not_mem_nil
  | @written x row hwritten =>
    have hrow : row ∈ x.sees t.accounts := List.mem_append_right _ (hwritten ▸ List.mem_cons_self)
    exact ⟨_, _, .keeps hrow rfl⟩
  | kept => exact ⟨_, _, .commits⟩

/-- Once somebody has committed, who is refused can leave. If nobody is refused, everybody can go on
who has not returned. -/
theorem Decided.exists_moves (h : Decided t name news stages winner account) :
    (∃ i t' after, Moves (news i) t (Race.OfOthers stages i) (stages i) t' after) ∨
      ∀ i, i ≠ winner → stages i = .returned (.error (.alreadyExists name.text)) := by
  by_cases hrefused : ∃ i x, stages i = .refused x
  · obtain ⟨i, x, hx⟩ := hrefused
    refine .inl ⟨i, ?_⟩
    rw [hx]
    exact ⟨_, _, .leaves⟩
  refine or_iff_not_imp_right.2 fun hopen => ?_
  push Not at hopen
  obtain ⟨i, hi, hopen⟩ := hopen
  have hothers : ∀ y, Race.OfOthers stages i y → y.held = [] ∧ y.written = [] := by
    rintro y ⟨j, -, hy⟩
    by_cases hj : j = winner
    · rw [hj, h.returned] at hy
      cases hy
    · exact ⟨(h.late j hj).held_eq_nil (fun x hx => hrefused ⟨j, x, hx⟩) hy,
        (h.late j hj).written_eq_nil hy⟩
  have hlate := h.late i hi
  refine ⟨i, ?_⟩
  generalize hstage : stages i = stage at hlate hopen
  cases hlate with
  | fresh => exact ⟨_, _, .begins⟩
  | begun =>
    refine ⟨_, _, .finds ?_ (by rw [hnews i, h.named]; exact h.isUsable)⟩
    intro y hy row _
    rw [(hothers y hy).1]
    exact List.not_mem_nil
  | ready =>
    obtain ⟨hmem, hrow⟩ := mem_named.1 (h.named ▸ List.mem_cons_self)
    refine ⟨_, _, .collides hmem (hrow.trans (by rw [hnews i])) ?_⟩
    intro y hy row hrow
    rw [(hothers y hy).2] at hrow
    cases hrow
  | refused => exact absurd ⟨i, _, hstage⟩ hrefused
  | returned => exact absurd rfl hopen

end

/-! ## One statement -/

variable [DecidableEq ι]

theorem Open.update (h : Open t name stages) (hafter : after.Waits t name) :
    Open t name (Function.update stages i after) :=
  (Function.forall_update_iff stages fun _ stage => stage.Waits t name).2
    ⟨hafter, fun j _ => h j⟩

theorem Open.led (h : Open t name stages) (hafter : after.Leads t (news i)) :
    Led t name news (Function.update stages i after) i :=
  ⟨by rwa [Function.update_self], fun j hj => by rw [Function.update_of_ne hj]; exact h j⟩

theorem Led.update_leader (h : Led t name news stages leader)
    (hafter : after.Leads t (news leader)) :
    Led t name news (Function.update stages leader after) leader :=
  ⟨by rwa [Function.update_self], fun j hj => by rw [Function.update_of_ne hj]; exact h.waits j hj⟩

theorem Led.update_other (h : Led t name news stages leader) (hi : i ≠ leader)
    (hafter : after.Waits t name) : Led t name news (Function.update stages i after) leader := by
  refine ⟨by rw [Function.update_of_ne hi.symm]; exact h.leads, ?_⟩
  exact (Function.forall_update_iff stages fun j stage => j ≠ leader → stage.Waits t name).2
    ⟨fun _ => hafter, fun j _ => h.waits j⟩

theorem Decided.update (h : Decided t name news stages winner account) (hi : i ≠ winner)
    (hafter : after.IsLate name) :
    Decided t name news (Function.update stages i after) winner account := by
  refine { h with
    returned := by rw [Function.update_of_ne hi.symm]; exact h.returned
    late := ?_ }
  exact (Function.forall_update_iff stages fun j stage => j ≠ winner → stage.IsLate name).2
    ⟨fun _ => hafter, fun j _ => h.late j⟩

section

variable (hnews : ∀ i, (news i).userName = name)
include hnews

/-- The leader goes on, or commits. -/
theorem Led.moves_leader (h : Led t name news stages leader) (ht : t.Keyed)
    (hmoves : Moves (news leader) t others (stages leader) t' after) :
    (t' = t ∧ Led t name news (Function.update stages leader after) leader) ∨
      ∃ account, Decided t' name news (Function.update stages leader after) leader account := by
  have hleads := h.leads
  generalize stages leader = stage at hmoves hleads
  cases hleads with
  | @ready row rows hnamed =>
    cases hmoves with
    | @restores _ found _ _ now hrestored hfound hid =>
      have hrow : row ∈ t.named (news leader).userName := hnamed ▸ List.mem_cons_self
      cases List.inj_on_of_nodup_map ht.ids_nodup hfound (mem_named.1 hrow).1 hid
      have hfills := hrestored ▸ fills_restored ht hrow now
      exact .inl ⟨rfl, h.update_leader (Stage.leads_wrote rfl List.mem_cons_self hfills)⟩
  | written hwritten hheld hfills =>
    cases hmoves
    exact .inl ⟨rfl, h.update_leader (.kept hwritten hheld hfills)⟩
  | @kept x row hwritten hheld hfills =>
    cases hmoves
    obtain ⟨account, haccount⟩ : ∃ account, row.toAccount = .ok account := by
      simp [AccountRow.toAccount, hfills.userName, UserName.ofText_text]
    obtain rfl := toAccount_eq_ok haccount
    refine .inr ⟨account, ?_, ?_, ?_, hfills.isUsable, hfills.password⟩
    · rw [Function.update_self, haccount]
    · intro i hi
      rw [Function.update_of_ne hi]
      exact (h.waits i hi).isLate
    · rw [← hnews leader]
      exact hfills.named_applied hwritten

/-- **Once somebody has committed**, a statement changes nothing but how far its caller is. -/
theorem Decided.moves (h : Decided t name news stages winner account)
    (hmoves : Moves (news i) t others (stages i) t' after) :
    t' = t ∧ Decided t name news (Function.update stages i after) winner account := by
  have hi : i ≠ winner := by
    rintro rfl
    rw [h.returned] at hmoves
    cases hmoves
  have htaken : isTaken (t.named (news i).userName) = true := by
    rw [hnews i, h.named]
    exact h.isUsable
  have hlate := h.late i hi
  generalize stages i = stage at hmoves hlate
  cases hlate with
  | fresh =>
    cases hmoves
    exact ⟨rfl, h.update hi .begun⟩
  | begun =>
    cases hmoves with
    | locks _ hfree => cases hfree.symm.trans htaken
    | finds => exact ⟨rfl, h.update hi (.refused rfl)⟩
  | ready =>
    cases hmoves with
    | inserts _ hname =>
      obtain ⟨hmem, hrow⟩ := mem_named.1 (h.named ▸ List.mem_cons_self)
      exact absurd (hrow.trans (by rw [hnews i])) (hname _ hmem)
    | collides => exact ⟨rfl, h.update hi (.refused rfl)⟩
  | refused =>
    cases hmoves
    rw [hnews i]
    exact ⟨rfl, h.update hi .returned⟩
  | returned => cases hmoves

variable (hunusable : ∀ row ∈ t.named name, row.isUsable = false)
include hunusable

/-- As long as nobody leads, a statement makes nobody lead but its caller. -/
theorem Open.moves (h : Open t name stages)
    (hmoves : Moves (news i) t (Race.OfOthers stages i) (stages i) t' after) :
    t' = t ∧ (Open t name (Function.update stages i after) ∨
      Led t name news (Function.update stages i after) i) := by
  have hi := h i
  generalize stages i = stage at hmoves hi
  cases hi with
  | fresh =>
    cases hmoves
    exact ⟨rfl, .inl (h.update .begun)⟩
  | begun =>
    cases hmoves with
    | locks =>
      refine ⟨rfl, ?_⟩
      cases hnamed : t.named (news i).userName with
      | nil => exact .inl (h.update (.ready (hnews i ▸ hnamed)))
      | cons row rows => exact .inr (h.led (.ready hnamed))
    | finds _ htaken =>
      rw [hnews i, isTaken_eq_false hunusable] at htaken
      cases htaken
  | ready hnone =>
    cases hmoves with
    | inserts hrow hname hid =>
      have hfills := hrow ▸ fills_inserted hname hid _
      exact ⟨rfl, .inr (h.led (Stage.leads_wrote rfl List.mem_cons_self hfills))⟩
    | collides hrow hname =>
      have hmem := mem_named.2 ⟨hrow, hname⟩
      rw [hnews i, hnone] at hmem
      cases hmem

/-- The others cannot come near the row that the leader holds or has written. -/
theorem Led.moves_other (h : Led t name news stages leader) (hi : i ≠ leader)
    (hmoves : Moves (news i) t (Race.OfOthers stages i) (stages i) t' after) :
    t' = t ∧ Led t name news (Function.update stages i after) leader := by
  have hwaits := h.waits i hi
  generalize stages i = stage at hmoves hwaits
  cases hwaits with
  | fresh =>
    cases hmoves
    exact ⟨rfl, h.update_other hi .begun⟩
  | begun =>
    cases hmoves with
    | locks hfree =>
      refine ⟨rfl, h.update_other hi ?_⟩
      rw [hnews i] at hfree ⊢
      cases hnamed : t.named name with
      | nil => exact .ready hnamed
      | cons row rows =>
        obtain ⟨y, hy, hheld⟩ := h.leads.held
        rw [hnews leader] at hheld
        have hrow : row ∈ t.named name := hnamed ▸ List.mem_cons_self
        exact absurd (hheld row hrow) (hfree y ⟨leader, hi.symm, hy⟩ row hrow)
    | finds _ htaken =>
      rw [hnews i, isTaken_eq_false hunusable] at htaken
      cases htaken
  | ready hnone =>
    cases hmoves with
    | inserts _ _ _ hfree =>
      obtain ⟨y, hy, row, hrow, hname⟩ := h.leads.written_of_named (by rw [hnews leader, hnone])
      refine absurd ?_ (hfree y ⟨leader, hi.symm, hy⟩ row hrow).1
      rw [hname, hnews leader, hnews i]
    | collides hrow hname =>
      have hmem := mem_named.2 ⟨hrow, hname⟩
      rw [hnews i, hnone] at hmem
      cases hmem

end

/-! ## Whole races -/

/-- How many statements a registration still sends at most. -/
def Stage.left : Stage → Nat
  | fresh => 5
  | begun => 4
  | ready _ => 3
  | written _ _ => 2
  | kept _ _ => 1
  | refused _ => 1
  | returned _ => 0

theorem Moves.left_lt (h : Moves new t others stage t' after) : after.left < stage.left := by
  have hwrote : ∀ x row, (Stage.wrote new x row).left < 3 := by
    intro x row
    unfold Stage.wrote
    split <;> simp [Stage.left]
  cases h <;> first | exact hwrote _ _ | simp [Stage.left]

theorem sum_left_lt [Fintype ι] (h : Moves new t others (stages i) t' after) :
    ∑ j, (Function.update stages i after j).left < ∑ j, (stages j).left := by
  refine Finset.sum_lt_sum ?_ ⟨i, Finset.mem_univ i, by simpa using h.left_lt⟩
  intro j _
  by_cases hj : j = i
  · subst hj
    simpa using h.left_lt.le
  · simp [hj]

/-- A race over tables in one of its phases. -/
def Phase (t₀ : Tables) (name : UserName) (news : ι → NewAccount) (t : Tables)
    (stages : ι → Stage) : Prop :=
  (t = t₀ ∧ (Open t name stages ∨ ∃ leader, Led t name news stages leader)) ∨
    ∃ winner account, Decided t name news stages winner account

section

variable {t₀ : Tables} (ht : t₀.Keyed) (hnews : ∀ i, (news i).userName = name)
  (hunusable : ∀ row ∈ t₀.named name, row.isUsable = false)
include ht hnews hunusable

theorem Phase.moves (h : Phase t₀ name news t stages)
    (hmoves : Moves (news i) t (Race.OfOthers stages i) (stages i) t' after) :
    Phase t₀ name news t' (Function.update stages i after) := by
  rcases h with ⟨rfl, hopen | ⟨leader, hled⟩⟩ | ⟨winner, account, hdecided⟩
  · obtain ⟨rfl, hopen | hled⟩ := hopen.moves hnews hunusable hmoves
    · exact .inl ⟨rfl, .inl hopen⟩
    · exact .inl ⟨rfl, .inr ⟨i, hled⟩⟩
  · by_cases hi : i = leader
    · subst hi
      rcases hled.moves_leader hnews ht hmoves with ⟨rfl, hled⟩ | ⟨account, hdecided⟩
      · exact .inl ⟨rfl, .inr ⟨i, hled⟩⟩
      · exact .inr ⟨i, account, hdecided⟩
    · obtain ⟨rfl, hled⟩ := hled.moves_other hnews hunusable hi hmoves
      exact .inl ⟨rfl, .inr ⟨leader, hled⟩⟩
  · obtain ⟨rfl, hdecided⟩ := hdecided.moves hnews hmoves
    exact .inr ⟨winner, account, hdecided⟩

/-- The race after so many statements: each of them has brought its caller closer to the end. -/
theorem Phase.runs [Fintype ι] {n : Nat} {r : Race ι} (h : (Race.start t₀ news).Runs n r) :
    ∃ t stages, r = .ofStages t news stages ∧ Phase t₀ name news t stages ∧
      n + ∑ i, (stages i).left ≤ 5 * Fintype.card ι := by
  induction h with
  | done =>
    refine ⟨t₀, fun _ => .fresh, rfl, .inl ⟨rfl, .inl fun _ => .fresh⟩, ?_⟩
    simp [Stage.left, Nat.mul_comm]
  | step _ hstep ih =>
    obtain ⟨t, stages, rfl, hphase, hleft⟩ := ih
    obtain ⟨i, t', after, hmoves, rfl⟩ := Race.step_ofStages_iff.1 hstep
    refine ⟨t', _, rfl, hphase.moves ht hnews hunusable hmoves, ?_⟩
    have hlt := sum_left_lt hmoves
    omega

end

theorem Stage.eq_returned {result : Except StoreFault Account}
    (h : stage.script new = .done result) : stage = .returned result := by
  cases stage with
  | fresh =>
    rw [Stage.script, register_eq] at h
    cases h
  | begun =>
    rw [Stage.script, conclude_registration] at h
    cases h
  | returned result =>
    cases h
    rfl
  | _ => cases h

/-! ## Two callers -/

/-- Two stages. -/
def pair (a b : Stage) : Fin 2 → Stage := fun i => if i = 0 then a else b

theorem pair_first {t t' : Tables} {news : Fin 2 → NewAccount} {a a' b : Stage}
    (h : Moves (news 0) t (fun y => b.transaction = some y) a t' a') :
    (Race.ofStages t news (pair a b)).Step (.ofStages t' news (pair a' b)) := by
  have hothers : Race.OfOthers (pair a b) 0 = fun y => b.transaction = some y := by
    funext y
    simp [Race.OfOthers, pair, Fin.exists_fin_two]
  have hupdate : Function.update (pair a b) 0 a' = pair a' b :=
    funext (Fin.forall_fin_two.2 ⟨rfl, rfl⟩)
  exact Race.step_ofStages_iff.2 ⟨0, t', a', hothers ▸ h, by rw [hupdate]⟩

theorem pair_second {t t' : Tables} {news : Fin 2 → NewAccount} {a b b' : Stage}
    (h : Moves (news 1) t (fun y => a.transaction = some y) b t' b') :
    (Race.ofStages t news (pair a b)).Step (.ofStages t' news (pair a b')) := by
  have hothers : Race.OfOthers (pair a b) 1 = fun y => a.transaction = some y := by
    funext y
    simp [Race.OfOthers, pair, Fin.exists_fin_two]
  have hupdate : Function.update (pair a b) 1 b' = pair a b' :=
    funext (Fin.forall_fin_two.2 ⟨rfl, rfl⟩)
  exact Race.step_ofStages_iff.2 ⟨1, t', b', hothers ▸ h, by rw [hupdate]⟩

theorem pair_returned {t : Tables} {news : Fin 2 → NewAccount} {a b : Except StoreFault Account}
    (r : Race (Fin 2)) : ¬ (Race.ofStages t news (pair (.returned a) (.returned b))).Step r := by
  intro hstep
  obtain ⟨i, _, _, hmoves, -⟩ := Race.step_ofStages_iff.1 hstep
  obtain rfl | rfl : i = 0 ∨ i = 1 := by omega
  · cases hmoves
  · cases hmoves

/-- Two callers find that nobody has the name, and both go on to insert it. -/
theorem runs_two (news : Fin 2 → NewAccount) (hprofile : (news 0).profile.isEmpty = true)
    (hname : (news 1).userName = (news 0).userName) :
    let row := AccountRow.inserted ⟨1⟩ (news 0).userName (news 0).passwordHash ⟨0⟩
    (Race.start .empty news).Runs 8 (.ofStages ⟨[row], []⟩ news (pair (.returned row.toAccount)
      (.returned (.error (.alreadyExists (news 1).userName.text))))) := by
  intro row
  have hstart : Race.start .empty news = .ofStages .empty news (pair .fresh .fresh) :=
    congrArg (Race.mk _) (funext (Fin.forall_fin_two.2 ⟨rfl, rfl⟩))
  have hwrote : ∀ x, Stage.wrote (news 0) x row = .kept x row := fun x => if_pos hprofile
  rw [hstart]
  have h0 : (Race.ofStages .empty news (pair .fresh .fresh)).Runs 0 _ := .done
  have h1 := h0.step (pair_first .begins)
  have h2 := h1.step (pair_second .begins)
  have h3 := h2.step (pair_first (.locks nofun rfl))
  have h4 := h3.step (pair_second (.locks nofun rfl))
  have h5 := h4.step (pair_first (@Moves.inserts _ _ _ ⟨1⟩ ⟨0⟩ row rfl nofun nofun
    (by rintro y ⟨⟩ row ⟨⟩)))
  rw [hwrote] at h5
  have h6 := h5.step (pair_first .commits)
  have h7 := h6.step (pair_second (@Moves.collides _ _ _ row List.mem_cons_self
    (congrArg UserName.text hname.symm) nofun))
  exact h7.step (pair_second .leaves)

/-! ## One succeeds -/

/-- **Registrations of one name at the same time**, over tables in which the name has no row, or one
that cannot be used, and however the statements of the callers are served: no more than five
statements of each are served, and at no time has more than one caller succeeded. When no statement
is left, one caller has succeeded, all others are told that the name is taken, and the name has one
row. It is the account of the one who succeeded, can be used, and holds the password that this
caller gave. -/
theorem one_registration_succeeds {n k : Nat} {news : Fin (n + 1) → NewAccount} {t : Tables}
    {name : UserName} {r : Race (Fin (n + 1))} (hnews : ∀ i, (news i).userName = name)
    (ht : t.Keyed)
    (hunusable : ∀ row ∈ t.named name, row.isUsable = false)
    (hruns : (Race.start t news).Runs k r) :
    k ≤ 5 * (n + 1) ∧
    (∀ i j a b, (r.callers i).script = .done (.ok a) → (r.callers j).script = .done (.ok b) →
      i = j) ∧
    ((∀ r', ¬ r.Step r') → ∃ winner account,
      (r.callers winner).script = .done (.ok account) ∧
      (∀ i, i ≠ winner → (r.callers i).script = .done (.error (.alreadyExists name.text))) ∧
      r.tables.named name = [.ofAccount account] ∧ account.isUsable = true ∧
      account.passwordHash = (news winner).passwordHash) := by
  obtain ⟨t', stages, rfl, hphase, hleft⟩ := Phase.runs ht hnews hunusable hruns
  rw [Fintype.card_fin] at hleft
  have hstep : ∀ {i t'' after}, Moves (news i) t' (Race.OfOthers stages i) (stages i) t'' after →
      ∃ r', (Race.ofStages t' news stages).Step r' :=
    fun hmoves => ⟨_, Race.step_ofStages_iff.2 ⟨_, _, _, hmoves, rfl⟩⟩
  refine ⟨by omega, ?_, ?_⟩
  · intro i j a b hi hj
    have hi := Stage.eq_returned hi
    have hj := Stage.eq_returned hj
    rcases hphase with ⟨-, hopen | ⟨leader, hled⟩⟩ | ⟨winner, account, hdecided⟩
    · cases hi ▸ hopen i
    · have hnone : ∀ i a, stages i = .returned (.ok a) → i = leader := by
        intro i a hi
        by_contra hne
        cases hi ▸ hled.waits i hne
      rw [hnone i a hi, hnone j b hj]
    · have hnone : ∀ i a, stages i = .returned (.ok a) → i = winner := by
        intro i a hi
        by_contra hne
        cases hi ▸ hdecided.late i hne
      rw [hnone i a hi, hnone j b hj]
  · intro hend
    rcases hphase with ⟨rfl, hopen | ⟨leader, hled⟩⟩ | ⟨winner, account, hdecided⟩
    · obtain ⟨_, _, hmoves⟩ := hopen.exists_moves hnews hunusable 0
      obtain ⟨r', hr'⟩ := hstep hmoves
      exact absurd hr' (hend r')
    · obtain ⟨_, _, hmoves⟩ := hled.exists_moves
      obtain ⟨r', hr'⟩ := hstep hmoves
      exact absurd hr' (hend r')
    · rcases hdecided.exists_moves hnews with ⟨_, _, _, hmoves⟩ | hall
      · obtain ⟨r', hr'⟩ := hstep hmoves
        exact absurd hr' (hend r')
      · refine ⟨winner, account, ?_, ?_, hdecided.named, hdecided.isUsable, hdecided.passwordHash⟩
        · show (stages winner).script _ = _
          rw [hdecided.returned]
          rfl
        · intro i hi
          show (stages i).script _ = _
          rw [hall i hi]
          rfl

/-- Two callers find that nobody has the name, and both go on to insert it. -/
theorem one_registration_succeeds_two :
    ∃ (news : Fin 2 → NewAccount) (name : UserName) (r : Race (Fin 2)) (account : Account),
      (∀ i, (news i).userName = name) ∧ Tables.empty.Keyed ∧ (Race.start .empty news).Runs 8 r ∧
      (∀ r', ¬ r.Step r') ∧ (r.callers 0).script = .done (.ok account) ∧
      (r.callers 1).script = .done (.error (.alreadyExists name.text)) ∧
      r.tables.named name = [.ofAccount account] ∧ account.passwordHash = "first" := by
  let name : UserName := ⟨⟨"a@b", rfl⟩⟩
  let news : Fin 2 → NewAccount := fun i => ⟨name, if i = 0 then "first" else "second", .empty⟩
  have hruns := runs_two news rfl rfl
  have hempty : Tables.empty.Keyed := ⟨.nil, .nil⟩
  have hname : ∀ i, (news i).userName = name := fun _ => rfl
  obtain ⟨-, -, hresult⟩ := one_registration_succeeds hname hempty nofun hruns
  obtain ⟨account, hwinner, hlosers, hnamed, -, hpassword⟩ | ⟨account, hwinner, -⟩ :=
    Fin.exists_fin_two.1 (hresult pair_returned)
  swap
  · cases hwinner
  exact ⟨news, name, _, account, hname, hempty, hruns, pair_returned, hwinner,
    hlosers 1 (by decide), hnamed, hpassword⟩

end Accounts.Database

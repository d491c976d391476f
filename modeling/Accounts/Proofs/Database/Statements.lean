import Accounts.Proofs.Database.Registration

/-!
# The course of a registration

Which statements a registration sends, in which order and with which parameters, where it stops, and
what it reports. There is one course of statements. A registration goes along it until a statement
fails or the name turns out to belong to a usable account, and no further.

* `places_sql_perm` — a statement has a parameter for each place in its text.
* `map_wire_course` — the texts and parameters of the course.
* `plays_register_course` — how far a registration goes, and that its last statement decides the
  result.
* `register_statements` — the statements of a registration, whatever the database answers.
-/

namespace Accounts.Database

open Dialogue

/-- A statement and what came back from it. -/
abbrev Sent : Type := Exchange fun _ : Statement => Reply

/-- The statements of a registration that is not stopped, given the rows with the name and the
number of the account that was written. -/
def course (new : NewAccount) (existing : List AccountRow) (id : AccountId) : List Statement :=
  .begin :: .lockByName new.userName :: accountWrite new existing ::
    ((if new.profile.isEmpty then [] else [.insertProfile id new.profile]) ++ [.commit])

/-- The failure of a statement. One that writes an account fails also if no row comes back. -/
def failure? (e : Sent) : Option Failure :=
  match e.2 with
  | .error failure => some failure
  | .ok [] => if e.1.writesAccount then some .noRow else none
  | .ok (_ :: _) => none

/-- The statement found that a usable account has the name. -/
def FindsUsable (new : NewAccount) (e : Sent) : Prop :=
  ∃ row rows, e = ⟨.lockByName new.userName, .ok (row :: rows)⟩ ∧ row.isUsable = true

/-- The statement was to insert the account, and its name was there already. -/
def FindsDuplicate (new : NewAccount) (e : Sent) : Prop :=
  ∃ failure, e = ⟨.insertAccount new.userName new.passwordHash, .error failure⟩ ∧
    failure.isDuplicate = true

/-- Nothing is sent after the statement. -/
def Stops (new : NewAccount) (e : Sent) : Prop := failure? e ≠ none ∨ FindsUsable new e

variable {new : NewAccount} {existing : List AccountRow} {e : Sent} {log middle : Log}
  {statement : Statement}

/-! ## Single statements -/

@[simp] theorem failure?_error {failure : Failure} :
    failure? ⟨statement, .error failure⟩ = some failure := rfl

@[simp] theorem failure?_ok_cons {row : AccountRow} {rows : List AccountRow} :
    failure? ⟨statement, .ok (row :: rows)⟩ = none := rfl

theorem failure?_ok {rows : List AccountRow} (h : statement.writesAccount = false) :
    failure? ⟨statement, .ok rows⟩ = none := by
  cases rows <;> simp [failure?, h]

@[simp] theorem failure?_accountWrite_nil :
    failure? ⟨accountWrite new existing, .ok []⟩ = some .noRow := by
  simp [failure?]

theorem FindsUsable.failure?_eq_none (h : FindsUsable new e) : failure? e = none := by
  obtain ⟨row, rows, rfl, -⟩ := h
  rfl

theorem FindsDuplicate.failure?_ne_none (h : FindsDuplicate new e) : failure? e ≠ none := by
  obtain ⟨failure, rfl, -⟩ := h
  exact nofun

theorem accountWrite_ne_rollback (new : NewAccount) (existing : List AccountRow) :
    accountWrite new existing ≠ .rollback := by
  cases existing <;> exact nofun

theorem accountWrite_ne_lockByName (new : NewAccount) (existing : List AccountRow)
    (name : UserName) : accountWrite new existing ≠ .lockByName name := by
  cases existing <;> exact nofun

/-- The rows with the name show a usable account exactly if the first one is usable. -/
theorem findsUsable_lock : FindsUsable new ⟨.lockByName new.userName, .ok existing⟩ ↔
    isTaken existing = true := by
  constructor
  · rintro ⟨row, rows, h, husable⟩
    cases h
    exact husable
  · intro h
    cases existing with
    | nil => cases h
    | cons row rows => exact ⟨row, rows, rfl, h⟩

theorem writeFault_eq (failure : Failure) :
    (FindsDuplicate new ⟨accountWrite new existing, .error failure⟩ ∧
      writeFault new existing failure = .alreadyExists new.userName.text) ∨
    (¬ FindsDuplicate new ⟨accountWrite new existing, .error failure⟩ ∧
      writeFault new existing failure = failure.toStoreFault) := by
  cases existing with
  | nil =>
    by_cases hduplicate : failure.isDuplicate = true
    · exact .inl ⟨⟨failure, rfl, hduplicate⟩, if_pos hduplicate⟩
    · refine .inr ⟨?_, if_neg hduplicate⟩
      rintro ⟨other, h, hother⟩
      cases h
      exact hduplicate hother
  | cons row rows =>
    refine .inr ⟨?_, rfl⟩
    rintro ⟨other, h, -⟩
    cases h

/-! ## Texts and parameters -/

/-- The numbers of the places in a text that parameters are bound to. -/
def places (text : String) : List Nat :=
  -- Bytes, for the kernel would have to decode the characters of each text below.
  let bytes := text.toByteArray.data.toList
  (bytes.zip bytes.tail).filterMap fun (mark, digit) =>
    if mark = '$'.toUInt8 then Integer.digit? (Char.ofNat digit.toNat) else none

/-- **Every place has a parameter**, and every parameter a place. -/
theorem places_sql_perm (statement : Statement) :
    (places statement.sql).Perm (List.range' 1 (statement.parameters.getD []).length) := by
  -- The text does not depend on the parameters, so any of them will do.
  cases statement with
  | begin => exact .nil
  | commit => exact .nil
  | rollback => exact .nil
  | selectByName _ =>
    exact (by decide +kernel : (places (Statement.selectByName ⟨⟨"a@b", rfl⟩⟩).sql).Perm [1])
  | selectById _ => exact (by decide +kernel : (places (Statement.selectById ⟨0⟩).sql).Perm [1])
  | lockByName _ =>
    exact (by decide +kernel : (places (Statement.lockByName ⟨⟨"a@b", rfl⟩⟩).sql).Perm [1])
  | restore _ _ => exact (by decide +kernel : (places (Statement.restore ⟨0⟩ "").sql).Perm [1, 2])
  | insertAccount _ _ =>
    exact (by decide +kernel : (places (Statement.insertAccount ⟨⟨"a@b", rfl⟩⟩ "").sql).Perm [1, 2])
  | insertProfile _ _ =>
    exact (by decide +kernel :
      (places (Statement.insertProfile ⟨0⟩ .empty).sql).Perm [1, 2, 3, 4, 5])

/-- A statement as the database gets it. -/
def Statement.wire (statement : Statement) : String × Option (List Parameter) :=
  (statement.sql, statement.parameters)

/-- An optional text as it is bound. -/
def bound : Option String → Parameter
  | none => .null
  | some text => .text text

/-- What the database gets for the insertion of a profile. -/
def wireProfile (id : AccountId) (profile : Profile) : String × Option (List Parameter) :=
  ("INSERT INTO user_infos (user_account_id, name, phone, email, gender) " ++
      "VALUES ($1, $2, $3, $4, $5)",
    some [.integer id.value, bound profile.name, bound (profile.phone.map (·.text)),
      bound (profile.email.map (·.text)), bound (profile.gender.map (·.text))])

/-- What the database gets for the statement that writes the account. -/
def wireWrite (new : NewAccount) (existing : List AccountRow) : String × Option (List Parameter) :=
  let row := "id, user_name, password, is_active, is_deleted, created_at, updated_at"
  match existing with
  | found :: _ =>
    ("UPDATE user_accounts SET password = $2, is_active = TRUE, is_deleted = FALSE, " ++
        "deleted_at = NULL, updated_at = NOW() WHERE id = $1 RETURNING " ++ row,
      some [.integer found.id.value, .text new.passwordHash])
  | [] =>
    ("INSERT INTO user_accounts (user_name, password) VALUES ($1, $2) RETURNING " ++ row,
      some [.text new.userName.text, .text new.passwordHash])

/-- The course of a registration as the database gets it. -/
def wireCourse (new : NewAccount) (existing : List AccountRow) (id : AccountId) :
    List (String × Option (List Parameter)) :=
  let row := "id, user_name, password, is_active, is_deleted, created_at, updated_at"
  ("BEGIN", none) ::
    ("SELECT " ++ row ++ " FROM user_accounts WHERE user_name = $1 FOR UPDATE",
      some [.text new.userName.text]) ::
    wireWrite new existing ::
    ((if new.profile = ⟨none, none, none, none⟩ then [] else [wireProfile id new.profile]) ++
      [("COMMIT", none)])

theorem isEmpty_iff {profile : Profile} :
    profile.isEmpty = true ↔ profile = ⟨none, none, none, none⟩ := by
  obtain ⟨name, phone, email, gender⟩ := profile
  simp [Profile.isEmpty, and_assoc]

theorem wire_insertProfile (id : AccountId) (profile : Profile) :
    (Statement.insertProfile id profile).wire = wireProfile id profile := by
  have hbound : ∀ text, Statement.optional text = bound text := fun text => by cases text <;> rfl
  simp only [Statement.wire, Statement.parameters, hbound]
  rfl

theorem wire_accountWrite (new : NewAccount) (existing : List AccountRow) :
    (accountWrite new existing).wire = wireWrite new existing := by
  cases existing <;> rfl

/-- **What is bound in the course**: the name, the number of the row that was found or the one that
came back, the new hash and the four details of the profile. -/
theorem map_wire_course (new : NewAccount) (existing : List AccountRow) (id : AccountId) :
    (course new existing id).map Statement.wire = wireCourse new existing id := by
  have hkeep : ((if new.profile.isEmpty then [] else [Statement.insertProfile id new.profile]) ++
      [Statement.commit]).map Statement.wire =
      (if new.profile = ⟨none, none, none, none⟩ then [] else [wireProfile id new.profile]) ++
        [("COMMIT", none)] := by
    simp only [← isEmpty_iff, ← wire_insertProfile]
    split <;> rfl
  simp only [course, List.map_cons, hkeep, wire_accountWrite]
  rfl

/-! ## How a registration ends -/

/-- What is reported, given the last statement. -/
inductive Ends (new : NewAccount) (e : Sent) : Except StoreFault Account → Prop where
  | taken (h : FindsUsable new e ∨ FindsDuplicate new e) :
      Ends new e (.error (.alreadyExists new.userName.text))
  | fails {failure : Failure} (h : failure? e = some failure) (hnew : ¬ FindsDuplicate new e) :
      Ends new e (.error failure.toStoreFault)
  | commits (h : e.1 = .commit) (hok : failure? e = none) (row : AccountRow) :
      Ends new e row.toAccount

/-- How far a registration gets: the statements that it has sent, one of them the last, and what it
reports. -/
structure Goes (new : NewAccount) (log : Log) (result : Except StoreFault Account) : Prop where
  /-- Only the last statement stops it, and decides what is reported. -/
  last : ∃ before e, log = before ++ [e] ∧ (∀ other ∈ before, ¬ Stops new other) ∧ Ends new e result
  /-- It stays on its course. The parameters are what came back earlier. -/
  onCourse : ∃ existing id,
    (∀ rows, (⟨.lockByName new.userName, .ok rows⟩ : Sent) ∈ log → rows = existing) ∧
    (∀ row, Returned log row → row.id = id) ∧
    log.map (·.1) <+: course new existing id ∧
    ((∀ e ∈ log, ¬ Stops new e) → log.map (·.1) = course new existing id)

theorem not_stops_begin (begun : List AccountRow) : ¬ Stops new ⟨.begin, .ok begun⟩ := by
  rintro (h | ⟨row, rows, h, -⟩)
  · exact h (failure?_ok rfl)
  · cases h

theorem not_stops_lock (h : isTaken existing = false) :
    ¬ Stops new ⟨.lockByName new.userName, .ok existing⟩ := by
  rintro (hfailure | husable)
  · exact hfailure (failure?_ok rfl)
  · simp [findsUsable_lock.1 husable] at h

theorem not_stops_accountWrite {row : AccountRow} {rows : List AccountRow} :
    ¬ Stops new ⟨accountWrite new existing, .ok (row :: rows)⟩ := by
  rintro (h | ⟨row, rows, h, -⟩)
  · exact h rfl
  · exact accountWrite_ne_lockByName new existing _ (congrArg Sigma.fst h)

theorem not_stops_insertProfile {id : AccountId} {rows : List AccountRow} :
    ¬ Stops new ⟨.insertProfile id new.profile, .ok rows⟩ := by
  rintro (h | ⟨row, rows, h, -⟩)
  · exact h (failure?_ok rfl)
  · cases h

/-- A statement that fails ends a registration with the failure, unless it is the insertion of the
account. -/
theorem ends_failure {failure : Failure} (h : failure? e = some failure)
    (hwrite : ∀ name hash, e.1 ≠ .insertAccount name hash) :
    Ends new e (.error failure.toStoreFault) := by
  refine .fails h ?_
  rintro ⟨other, rfl, -⟩
  exact hwrite _ _ rfl

namespace Registers

theorem ne_rollback {result : Except StoreFault AccountRow} (h : Registers new middle result) :
    ∀ e ∈ middle, e.1 ≠ .rollback := by
  cases h <;> simp [accountWrite_ne_rollback]

/-- All that a registration sends after its begin, up to the statement that stops it. -/
theorem stopped {fault : StoreFault} (h : Registers new middle (.error fault)) :
    ∃ before e, middle = before ++ [e] ∧ (∀ other ∈ before, ¬ Stops new other) ∧
      Ends new e (.error fault) ∧ Stops new e ∧ ∃ existing id,
        (∀ rows, (⟨.lockByName new.userName, .ok rows⟩ : Sent) ∈ middle → rows = existing) ∧
        (∀ row, Returned middle row → row.id = id) ∧
        Statement.begin :: middle.map (·.1) <+: course new existing id := by
  cases h with
  | lockFails failure =>
    refine ⟨[], _, rfl, List.forall_mem_nil _, ends_failure rfl nofun, .inl nofun, [], ⟨0⟩,
      ?_, ?_, ?_⟩
    · simp
    · simp
    · simp [course]
  | @taken existing h =>
    have husable : FindsUsable new ⟨.lockByName new.userName, .ok existing⟩ :=
      findsUsable_lock.2 h
    refine ⟨[], _, rfl, List.forall_mem_nil _, .taken (.inl husable), .inr husable, existing, ⟨0⟩,
      ?_, ?_, ?_⟩
    · simp
    · simp
    · simp [course]
  | @writeFails existing h failure =>
    refine ⟨[_], _, rfl, ?_, ?_, .inl nofun, existing, ⟨0⟩, ?_, ?_, ?_⟩
    · simpa using not_stops_lock h
    · rcases writeFault_eq failure with ⟨hnew, hfault⟩ | ⟨hnew, hfault⟩
      · exact hfault ▸ .taken (.inr hnew)
      · exact hfault ▸ .fails rfl hnew
    · simp [(accountWrite_ne_lockByName new existing _).symm]
    · simp
    · simp [course]
  | @noRow existing h =>
    refine ⟨[_], _, rfl, ?_, .fails failure?_accountWrite_nil ?_, .inl (by simp), existing, ⟨0⟩,
      ?_, ?_, ?_⟩
    · simpa using not_stops_lock h
    · rintro ⟨failure, h, -⟩
      cases existing <;> cases h
    · simp [(accountWrite_ne_lockByName new existing _).symm]
    · simp
    · simp [course]
  | @profileFails existing h hprofile row rows failure =>
    refine ⟨[_, _], _, rfl, ?_, ends_failure rfl nofun, .inl nofun, existing, row.id, ?_, ?_, ?_⟩
    · simpa using ⟨not_stops_lock h, not_stops_accountWrite⟩
    · simp [(accountWrite_ne_lockByName new existing _).symm]
    · simp
    · simp [course, hprofile]

/-- A registration that fails within its transaction. -/
theorem goes {fault : StoreFault} (h : Registers new middle (.error fault))
    (begun : List AccountRow) : Goes new (⟨.begin, .ok begun⟩ :: middle) (.error fault) := by
  obtain ⟨before, e, rfl, hbefore, hends, hstops, existing, id, hrows, hid, hprefix⟩ := h.stopped
  refine ⟨⟨⟨.begin, .ok begun⟩ :: before, e, rfl, ?_, hends⟩, existing, id, ?_, ?_, hprefix, ?_⟩
  · exact List.forall_mem_cons.2 ⟨not_stops_begin begun, hbefore⟩
  · intro rows hmem
    rcases List.mem_cons.1 hmem with h | h
    · cases h
    · exact hrows rows h
  · intro row hrow
    exact hid row (by simpa using hrow)
  · intro hnone
    exact absurd hstops (hnone e (by simp))

/-- A registration that succeeds has only its commit left. -/
theorem course_eq {row : AccountRow} (h : Registers new middle (.ok row)) :
    (∀ e ∈ middle, ¬ Stops new e) ∧ ∃ existing,
      (∀ rows, (⟨.lockByName new.userName, .ok rows⟩ : Sent) ∈ middle → rows = existing) ∧
      .begin :: middle.map (·.1) ++ [.commit] = course new existing row.id := by
  cases h with
  | @withoutProfile existing h hprofile _ rows =>
    refine ⟨by simpa using ⟨not_stops_lock h, not_stops_accountWrite⟩, existing, ?_, ?_⟩
    · simp [(accountWrite_ne_lockByName new existing _).symm]
    · simp [course, hprofile]
  | @withProfile existing h hprofile _ rows kept =>
    refine ⟨?_, existing, ?_, ?_⟩
    · simpa using ⟨not_stops_lock h, not_stops_accountWrite, not_stops_insertProfile⟩
    · simp [(accountWrite_ne_lockByName new existing _).symm]
    · simp [course, hprofile]

theorem goes_commit {row : AccountRow} (h : Registers new middle (.ok row))
    (begun : List AccountRow) {reply : Reply} {result : Except StoreFault Account}
    (hends : Ends new ⟨.commit, reply⟩ result) :
    Goes new (⟨.begin, .ok begun⟩ :: middle ++ [⟨.commit, reply⟩]) result := by
  obtain ⟨hgoes, existing, hrows, hcourse⟩ := h.course_eq
  have hmap : (⟨.begin, .ok begun⟩ :: middle ++ [(⟨.commit, reply⟩ : Sent)]).map (·.1) =
      course new existing row.id := by simpa using hcourse
  refine ⟨⟨⟨.begin, .ok begun⟩ :: middle, _, rfl, ?_, hends⟩, existing, row.id, ?_, ?_, ?_, ?_⟩
  · exact List.forall_mem_cons.2 ⟨not_stops_begin begun, hgoes⟩
  · intro rows hmem
    exact hrows rows (by simpa using hmem)
  · intro other hother
    rw [(h.returned_iff other).1 (by simpa using hother)]
  · exact hmap ▸ List.prefix_refl _
  · exact fun _ => hmap

end Registers

/-! ## The registration -/

theorem goes_begin {failure : Failure} :
    Goes new [⟨.begin, .error failure⟩] (.error failure.toStoreFault) := by
  refine ⟨⟨[], _, rfl, List.forall_mem_nil _, ends_failure rfl nofun⟩, [], ⟨0⟩, ?_, ?_, ?_, ?_⟩
  · simp
  · simp
  · simp [course]
  · simp [Stops]

/-- **How far a registration goes.** Of what it sends, only the rollback is left out. -/
theorem plays_register_course {result : Except StoreFault Account}
    (h : (register new).Plays log result) : Goes new (log.filter (·.1 ≠ .rollback)) result := by
  obtain ⟨before, attempt, after, rfl, htransaction, hend⟩ := plays_bind.1 h
  have hkept {middle : Log} {attempt : Except StoreFault AccountRow}
      (h : Registers new middle attempt) : middle.filter (·.1 ≠ .rollback) = middle := by
    simpa using h.ne_rollback
  rcases plays_transaction htransaction with
    ⟨row, middle, begun, ended, rfl, hbody, rfl⟩ | ⟨fault, undone, rfl, hlog⟩
  · obtain ⟨rfl, rfl⟩ := plays_pure.1 hend
    have hregisters := plays_registration hbody
    have hends : Ends new ⟨.commit, .ok ended⟩ row.toAccount := .commits rfl (failure?_ok rfl) row
    have hgoes := hregisters.goes_commit begun hends
    rw [← hkept hregisters] at hgoes
    simpa using hgoes
  · obtain ⟨rfl, rfl⟩ := plays_pure.1 hend
    rcases hlog with ⟨failure, rfl, rfl⟩ | ⟨middle, begun, hbody, rfl⟩ |
      ⟨row, middle, begun, failure, rfl, hbody, rfl⟩
    · exact goes_begin
    · have hregisters := plays_registration hbody
      have hgoes := hregisters.goes begun
      rw [← hkept hregisters] at hgoes
      simpa using hgoes
    · have hregisters := plays_registration hbody
      have hends : Ends new ⟨.commit, .error failure⟩ (.error failure.toStoreFault) :=
        ends_failure rfl nofun
      have hgoes := hregisters.goes_commit begun hends
      rw [← hkept hregisters] at hgoes
      simpa using hgoes

namespace Goes

variable {result : Except StoreFault Account}

theorem exists_last (h : Goes new log result) :
    ∃ last ∈ log, Ends new last result ∧ ∀ e ∈ log, Stops new e → e = last := by
  obtain ⟨sent, last, rfl, hsent, hends⟩ := h.last
  refine ⟨last, by simp, hends, ?_⟩
  intro e he hstops
  rcases List.mem_append.1 he with he | he
  · exact absurd hstops (hsent e he)
  · exact List.mem_singleton.1 he

theorem eq_nil_of_stops (h : Goes new log result) {before after : Log}
    (hlog : log = before ++ e :: after) (hstops : Stops new e) : after = [] := by
  obtain ⟨sent, last, rfl, hsent, -⟩ := h.last
  rcases List.eq_nil_or_concat after with rfl | ⟨init, final, rfl⟩
  · rfl
  -- What is followed by something is among the statements before the last.
  have hsplit : sent ++ [last] = (before ++ e :: init) ++ [final] := by simpa using hlog
  have hmem : e ∈ sent := by simp [(List.append_inj' hsplit rfl).1]
  exact absurd hstops (hsent e hmem)

theorem eq_alreadyExists_iff (h : Goes new log result) (name : String) :
    result = .error (.alreadyExists name) ↔
      name = new.userName.text ∧ ∃ e ∈ log, FindsUsable new e ∨ FindsDuplicate new e := by
  obtain ⟨last, hmem, hends, hlast⟩ := h.exists_last
  constructor
  · rintro rfl
    generalize hresult :
      (.error (.alreadyExists name) : Except StoreFault Account) = result at hends
    cases hends with
    | taken htaken =>
      cases hresult
      exact ⟨rfl, last, hmem, htaken⟩
    | fails => cases hresult
    | commits _ _ row =>
      obtain ⟨reason, -, hfault⟩ := toAccount_eq_error hresult.symm
      cases hfault
  · rintro ⟨rfl, e, he, htaken⟩
    have hstops : Stops new e :=
      htaken.elim .inr fun hduplicate => .inl hduplicate.failure?_ne_none
    obtain rfl := hlast e he hstops
    cases hends with
    | taken => rfl
    | fails hfailure hnew =>
      rcases htaken with husable | hduplicate
      · simp [husable.failure?_eq_none] at hfailure
      · exact absurd hduplicate hnew
    | commits hcommit =>
      rcases htaken with ⟨row, rows, rfl, -⟩ | ⟨failure, rfl, -⟩ <;> cases hcommit

theorem eq_database_of_failure (h : Goes new log result) (he : e ∈ log) {failure : Failure}
    (hfailure : failure? e = some failure) (hnew : ¬ FindsDuplicate new e) :
    result = .error (.database failure.message) := by
  obtain ⟨last, -, hends, hlast⟩ := h.exists_last
  obtain rfl := hlast e he (.inl (by simp [hfailure]))
  cases hends with
  | taken htaken =>
    rcases htaken with husable | hduplicate
    · simp [husable.failure?_eq_none] at hfailure
    · exact absurd hduplicate hnew
  | fails hother =>
    cases hother.symm.trans hfailure
    rfl
  | commits _ hok => simp [hok] at hfailure

end Goes

/-- **The statements of a registration**, whatever the database answers and with the rollback left
out. They go along the course, with the rows that were found and the number that came back; so do
their texts and what is bound to them. After a statement that fails nothing is sent, nor after a
usable account was found; else all of the course is. The name is reported as taken exactly if a
usable account was found or the inserted name was there already. Any other failure is reported with
its own wording. -/
theorem register_statements {σ : Type} (new : NewAccount) (answer : Statement → σ → Reply × σ)
    (s : σ) :
    let log := ((register new).exchanges answer s).filter (·.1 ≠ .rollback)
    let result := ((register new).runWith answer s).1
    (∃ existing id,
      (∀ rows, (⟨.lockByName new.userName, .ok rows⟩ : Sent) ∈ log → rows = existing) ∧
      (∀ row, Returned log row → row.id = id) ∧
      log.map (·.1) <+: course new existing id ∧
      ((∀ e ∈ log, ¬ Stops new e) → log.map (·.1) = course new existing id) ∧
      log.map (·.1.wire) <+: wireCourse new existing id ∧
      ((∀ e ∈ log, ¬ Stops new e) → log.map (·.1.wire) = wireCourse new existing id)) ∧
    (∀ before e after, log = before ++ e :: after → Stops new e → after = []) ∧
    (∀ name, result = .error (.alreadyExists name) ↔
      name = new.userName.text ∧ ∃ e ∈ log, FindsUsable new e ∨ FindsDuplicate new e) ∧
    ∀ e ∈ log, ∀ failure, failure? e = some failure → ¬ FindsDuplicate new e →
      result = .error (.database failure.message) := by
  intro log result
  have hgoes : Goes new log result :=
    plays_register_course (plays_exchanges answer (register new) s)
  obtain ⟨existing, id, hrows, hid, hcourse, hwhole⟩ := hgoes.onCourse
  have hmap : log.map (·.1.wire) = (log.map (·.1)).map Statement.wire := by
    rw [List.map_map]
    rfl
  refine ⟨⟨existing, id, hrows, hid, hcourse, hwhole, ?_, ?_⟩, ?_, hgoes.eq_alreadyExists_iff, ?_⟩
  · rw [hmap, ← map_wire_course]
    exact hcourse.map _
  · intro hgoesOn
    rw [hmap, hwhole hgoesOn, map_wire_course]
  · intro before e after hlog hstops
    exact hgoes.eq_nil_of_stops hlog hstops
  · intro e he failure hfailure hnew
    exact hgoes.eq_database_of_failure he hfailure hnew

/-- A profile that is there already is a failure of the database: only the insertion of the account
says that the name is taken. -/
theorem register_statements_duplicate_profile :
    ∃ (new : NewAccount) (replies : List Reply),
      ((register new).exchanges scripted replies).map (·.1) =
        [.begin, .lockByName new.userName, .insertAccount new.userName new.passwordHash,
          .insertProfile ⟨7⟩ new.profile, .rollback] ∧
      ((register new).runWith scripted replies).1 =
        .error (.database "error returned from database: duplicate key") := by
  let new : NewAccount := ⟨⟨⟨"a@b", rfl⟩⟩, "h", { Profile.empty with name := some "n" }⟩
  let row : AccountRow := ⟨⟨7⟩, "a@b", "h", true, false, ⟨0⟩, ⟨0⟩⟩
  let failure : Failure := .refused "23505" "duplicate key"
  let replies : List Reply := [.ok [], .ok [], .ok [row], .error failure]
  refine ⟨new, replies, rfl, ?_⟩
  have hmem : (⟨.insertProfile ⟨7⟩ new.profile, .error failure⟩ : Sent) ∈
      ((register new).exchanges scripted replies).filter (·.1 ≠ .rollback) :=
    List.mem_of_getLast? rfl
  refine (register_statements new scripted replies).2.2.2 _ hmem failure rfl ?_
  rintro ⟨other, h, -⟩
  cases h

end Accounts.Database

import Accounts.Proofs.Json.Consumption
import Accounts.Proofs.Text.Utf8

/-!
# Readers that lose their place

A reader that goes on after a fault may stand inside a value when it believes to stand behind it.
Two readers of one text, one of which has passed over the value, are back together at the next
separator, or the other one is lost for good.

**Lost** (`Adrift`). What is left closes at least two brackets, or it begins inside a text.

* `rejoin` — after a value that one reader has passed and the other has tried, the two agree on what
  is left or the second is adrift.
* `Adrift.members` — whoever is adrift stays adrift to the end of the object. Inside and outside of
  texts have changed places for it, so it never meets a key with a letter that words lack.
* `Adrift.not_closed` — whoever is adrift at the end of the object does not reach the end of the
  text.
-/

namespace Accounts.Json.Outline

open Reader

variable {α σ : Type} {input rest x : List UInt8}

/-! ## Where a reader may leave its input -/

/-- Where a reader called between tokens may leave its input, whatever it comes to. -/
def Strays (input rest : List UInt8) : Prop :=
  rest = [] ∨ ∃ x, input = x ++ rest ∧
    (Mode.plain.run x = none ∨ ∃ u, (plainAt 0).run x = some u ∧ Astray 0 u)

theorem Leads.strays {o : Outcome α} (h : Leads (plainAt 0) (plainAt 0) input o) :
    Strays input (remainder o) := by
  cases o with
  | ok a rest =>
    obtain ⟨x, hx, hrun⟩ := h
    exact .inr ⟨x, hx, .inr ⟨_, hrun, astray_here⟩⟩
  | fault e rest => exact h

/-- A piece of text that a reader of values has passed over. -/
def Passes (input rest : List UInt8) : Prop :=
  ∃ x, input = x ++ rest ∧ (plainAt 0).run x = some (plainAt 0)

theorem Passes.strays (h : Passes input rest) : Strays input rest := by
  obtain ⟨x, hx, hrun⟩ := h
  exact .inr ⟨x, hx, .inr ⟨_, hrun, astray_here⟩⟩

theorem Leads.passes {a : α} (h : Leads (plainAt 0) (plainAt 0) input (.ok a rest)) :
    Passes input rest := h

/-! ## Separators -/

/-- A comma or a closing brace comes next. -/
def Separated (rest : List UInt8) : Prop :=
  ∃ b after, rest.dropWhile isSpace = b :: after ∧ (b = byte ',' ∨ b = byte '\x7d')

theorem separated_of_nextKey {key : Option String} (h : nextKey false input = .ok key rest) :
    Separated input := by
  cases key with
  | none =>
    obtain ⟨hinput, after, rfl⟩ := nextKey_eq_ok_none.1 h
    exact ⟨_, after, hinput, .inr rfl⟩
  | some key =>
    obtain ⟨after, hplace, -⟩ := nextKey_eq_ok_some.1 h
    obtain ⟨mid, hinput, -⟩ := hplace
    exact ⟨_, mid, hinput, .inl rfl⟩

theorem separated_of_members {member : String → σ → Reader σ} {fuel : Nat} {state last : σ}
    (h : members member fuel false state input = .ok last rest) : Separated input := by
  cases fuel with
  | zero => cases h
  | succ fuel =>
    rcases members_eq_ok.1 h with ⟨hkey, -⟩ | ⟨_, _, _, _, hkey, -⟩
    · exact separated_of_nextKey hkey
    · exact separated_of_nextKey hkey

theorem isSpace_of_dropWhile (h : rest.dropWhile isSpace = []) : ∀ b ∈ rest, isSpace b = true := by
  have hall := List.takeWhile_append_dropWhile (p := isSpace) (l := rest)
  rw [h, List.append_nil] at hall
  exact hall ▸ List.all_eq_true.1 List.all_takeWhile

/-- With no bracket open a separator cannot be passed. -/
theorem isSpace_of_run {z : List UInt8} {u : State} (hrun : (plainAt 0).run z = some u)
    (hsep : Separated (z ++ rest)) : ∀ b ∈ z, isSpace b = true := by
  induction z with
  | nil => simp
  | cons b z ih =>
    cases hb : isSpace b with
    | true =>
      rw [State.run_cons, step_isSpace hb, Option.bind_some] at hrun
      have htail : Separated (z ++ rest) := by
        obtain ⟨c, after, hdrop, hc⟩ := hsep
        rw [List.cons_append, List.dropWhile_cons_of_pos hb] at hdrop
        exact ⟨c, after, hdrop, hc⟩
      exact List.forall_mem_cons.2 ⟨hb, ih hrun htail⟩
    | false =>
      obtain ⟨c, after, hdrop, hc⟩ := hsep
      rw [List.cons_append, List.dropWhile_cons_of_neg (by simp [hb])] at hdrop
      cases hdrop
      rcases hc with rfl | rfl <;> cases hrun

/-! ## Adrift -/

/-- Left inside a value of the object: two brackets at least are open, or a text is. A reader that
has come to the end of its input is lost as well. -/
def Adrift (rest : List UInt8) : Prop :=
  rest = [] ∨ (∃ k, (plainAt (k + 2)).run rest = some (plainAt 0)) ∨
    ∃ d, (quotedAt d).run rest = some (plainAt 0)

theorem adrift_of_astray {s : State} (h : Astray 2 s) (hrun : s.run rest = some (plainAt 0)) :
    Adrift rest := by
  obtain ⟨mode, depth⟩ := s
  rcases h with hm | ⟨hm, hd⟩
  · cases hm
    exact .inr (.inr ⟨depth, hrun⟩)
  · cases hm
    obtain ⟨k, rfl⟩ := Nat.exists_eq_add_of_le' hd
    exact .inr (.inl ⟨k, hrun⟩)

/-- What may be left of a value inside brackets. -/
theorem adrift_of_strays {k : Nat} (hrun : (plainAt (k + 2)).run input = some (plainAt 0))
    (h : Strays input rest) : Adrift rest := by
  rcases h with rfl | ⟨x, rfl, hdead | ⟨u, hu, hastray⟩⟩
  · exact .inl rfl
  · have hmode := State.mode_run hrun
    simp [Mode.run_append, hdead] at hmode
  · have hdeep := State.run_deepen hu (k + 2)
    rw [State.run_append_of_eq (s := plainAt (k + 2)) (by simpa [State.deepen] using hdeep)] at hrun
    refine adrift_of_astray (s := u.deepen (k + 2))
      (hastray.imp_right fun hplain => ⟨hplain.1, ?_⟩) hrun
    show 2 ≤ u.depth + (k + 2)
    omega

/-- **Two readers after one value.** One has passed over it, the other one may have given up. Both
go on at a separator, and this is the same one unless the second reader is adrift. -/
theorem rejoin {left right : List UInt8} (hinput : (plainAt 1).run input = some (plainAt 0))
    (hpass : Passes input left) (hstray : Strays input right) (hleft : Separated left)
    (hright : Separated right) :
    left.dropWhile isSpace = right.dropWhile isSpace ∨ Adrift right := by
  obtain ⟨x, hx, hxrun⟩ := hpass
  rcases hstray with rfl | ⟨y, hy, hyrun⟩
  · exact .inr (.inl rfl)
  have hyrun : ∃ u, (plainAt 0).run y = some u ∧ Astray 0 u := by
    refine hyrun.resolve_left ?_
    intro hdead
    have hmode := State.mode_run hinput
    simp [hy, Mode.run_append, hdead] at hmode
  obtain ⟨u, hu, hastray⟩ := hyrun
  rcases List.append_eq_append_iff.1 (hx ▸ hy : x ++ left = y ++ right) with
    ⟨z, rfl, rfl⟩ | ⟨z, rfl, rfl⟩
  · -- The second reader has gone further, but past a separator it cannot have gone.
    rw [State.run_append_of_eq hxrun] at hu
    exact .inl (List.dropWhile_append_of_pos (isSpace_of_run hu hleft))
  · rw [State.run_append_of_eq hu] at hxrun
    by_cases hplain : u = plainAt 0
    · subst hplain
      exact .inl (List.dropWhile_append_of_pos (isSpace_of_run hxrun hright)).symm
    · refine .inr (adrift_of_astray (s := u.deepen 1) ?_ ?_)
      · obtain ⟨mode, depth⟩ := u
        refine hastray.imp_right fun ⟨hm, _⟩ => ⟨hm, ?_⟩
        cases hm
        have hd : depth ≠ 0 := fun h => hplain (h ▸ rfl)
        simp only [State.deepen]
        omega
      · have hdeep := State.run_deepen hu 1
        rw [hy, State.run_append_of_eq (s := plainAt 1) (by simpa [State.deepen] using hdeep)]
          at hinput
        exact hinput

/-! ## Objects that are passed over -/

theorem Leads.trans {s t u : State} {mid : List UInt8} {a b : Unit}
    (h : Leads s t input (.ok a mid)) (h' : Leads t u mid (.ok b rest)) :
    Leads s u input (.ok b rest) := by
  obtain ⟨x, rfl, hx⟩ := h
  exact .append hx h'

theorem Leads.forget {s t : State} {a : α} (h : Leads s t input (.ok a rest)) :
    Leads s t input (.ok () rest) := h

theorem Passes.leads (h : Passes input rest) :
    Leads (plainAt 1) (plainAt 1) input (.ok () rest) := by
  obtain ⟨x, hx, hrun⟩ := h
  exact ⟨x, hx, State.run_deepen hrun 1⟩

theorem leads_of_members {member : String → σ → Reader σ}
    (hmember : ∀ {key state input next rest}, member key state input = .ok next rest →
      ∃ mid, colon input = .ok () mid ∧ Passes mid rest)
    {fuel : Nat} {first : Bool} {state last : σ}
    (h : members member fuel first state input = .ok last rest) :
    Leads (plainAt 1) (plainAt 1) input (.ok () rest) := by
  induction fuel generalizing first state input with
  | zero => cases h
  | succ fuel ih =>
    rcases members_eq_ok.1 h with ⟨hkey, -⟩ | ⟨key, mid, next, mid', hkey, hnext, h⟩
    · exact (hkey ▸ leads_nextKey 0 first input :
        Leads _ _ _ (Outcome.ok (none : Option String) rest)).forget
    · obtain ⟨value, hcolon, hpass⟩ := hmember hnext
      have hkeyLeads : Leads (plainAt 1) (plainAt 1) input (.ok (some key) mid) :=
        hkey ▸ leads_nextKey 0 first input
      have hcolonLeads : Leads (plainAt 1) (plainAt 1) mid (.ok () value) :=
        hcolon ▸ leads_colon 0 mid
      exact ((hkeyLeads.forget.trans hcolonLeads).trans hpass.leads).trans (ih h)

/-- Nothing but white space is left after what leads to the end. -/
theorem Leads.run_eq {s : State} {a : α} (h : Leads s (plainAt 0) input (.ok a rest))
    (hrest : rest.dropWhile isSpace = []) : s.run input = some (plainAt 0) := by
  obtain ⟨x, rfl, hx⟩ := h
  rw [State.run_append_of_eq hx, run_space (isSpace_of_dropWhile hrest)]

/-- The outline of an object whose values have all been passed over, up to the end of the text. -/
theorem run_of_members {member : String → σ → Reader σ}
    (hmember : ∀ {key state input next rest}, member key state input = .ok next rest →
      ∃ mid, colon input = .ok () mid ∧ Passes mid rest)
    {fuel : Nat} {first : Bool} {state last : σ} {mid : List UInt8}
    (h : members member fuel first state input = .ok last mid)
    (hend : objectEnd mid = .ok () rest) (hrest : rest.dropWhile isSpace = []) :
    (plainAt 1).run input = some (plainAt 0) := by
  have hclose : Leads (plainAt 1) (plainAt 0) mid (.ok () rest) :=
    hend ▸ closes_objectEnd.leads 0 mid
  exact ((leads_of_members hmember h).trans hclose).run_eq hrest

/-! ## The loop over members -/

/-- A key that could stand outside of texts. -/
def Faint (key : String) : Prop := ∀ b ∈ Utf8.encode key, b ∉ textOnly

theorem textBytes_outside {m : Mode} {fuel : Nat} {read bytes : List UInt8} (hm : m.Outside)
    (hrun : m.run input ≠ none) (hread : ∀ b ∈ read, b ∉ textOnly)
    (h : textBytes fuel read input = .ok bytes rest) : ∀ b ∈ bytes, b ∉ textOnly := by
  induction fuel generalizing m read input with
  | zero => cases h
  | succ fuel ih =>
    cases input with
    | nil => cases h
    | cons b tail =>
      obtain ⟨⟨next, turn⟩, hstep⟩ : ∃ result, m.step b = some result :=
        Option.ne_none_iff_exists'.1 fun hnone => hrun (by rw [Mode.run, hnone, Option.bind_none])
      have hb : b ∉ textOnly := fun hmem => by
        rw [Mode.step_of_mem_textOnly hm hmem] at hstep
        cases hstep
      have hslash : b ≠ byte '\\' := fun he => hb (he ▸ by decide)
      rw [Mode.run, hstep, Option.bind_some] at hrun
      simp only [textBytes, beq_iff_eq, hslash, if_false] at h
      split at h
      · cases h
        simpa using hread
      · next hquote =>
        have hnext := Mode.outside_step hm hstep
        rw [if_neg hquote] at hnext
        split at h
        · cases h
        · exact ih hnext hrun (List.forall_mem_cons.2 ⟨hb, hread⟩) h

theorem faint_of_text {key : String} {d : Nat} {after : List UInt8} {last : State}
    (hrun : (quotedAt d).run (byte '"' :: after) = some last)
    (h : Reader.text (byte '"' :: after) = .ok key rest) : Faint key := by
  rw [Reader.text, advance_bind] at h
  obtain ⟨bytes, mid, hbytes, h⟩ := bind_eq_ok.1 h
  obtain ⟨value, mid', hdecoded, h⟩ := bind_eq_ok.1 h
  obtain ⟨_, _, -, h⟩ := bind_eq_ok.1 h
  cases h
  have hkey : bytes = Utf8.encode key := by
    cases hdecode : Utf8.decode? bytes with
    | some text =>
      simp only [decoded, hdecode, pure_apply, Outcome.ok.injEq] at hdecoded
      rw [← hdecoded.1]
      exact Utf8.decode?_eq_some.1 hdecode
    | none => simp [decoded, hdecode] at hdecoded
  have hplain : (plainAt d).run after = some last := hrun
  have hmode : Mode.plain.run after ≠ none := by
    rw [State.mode_run hplain]
    exact Option.some_ne_none _
  rw [Faint, ← hkey]
  exact textBytes_outside (m := .plain) trivial hmode (by simp) hbytes

theorem run_dropWhile_space {s last : State} (hs : ∃ n, Astray n s)
    (hrun : s.run input = some last) : s.run (input.dropWhile isSpace) = some last := by
  obtain ⟨n, hs⟩ := hs
  rw [← List.takeWhile_append_dropWhile (p := isSpace) (l := input),
    State.run_append_of_eq (hs.run_space (List.all_eq_true.1 List.all_takeWhile))] at hrun
  exact hrun

/-- Where texts have been taken for what is between them, only faint keys are found. -/
theorem faint_of_nextKey {d : Nat} {first : Bool} {key : String} {last : State}
    (hrun : (quotedAt d).run input = some last) (h : nextKey first input = .ok (some key) rest) :
    Faint key := by
  obtain ⟨after, hplace, htext⟩ := nextKey_eq_ok_some.1 h
  have hquoted : ∃ n, Astray n (quotedAt d) := ⟨0, astray_quoted⟩
  have hinput := run_dropWhile_space hquoted hrun
  cases first with
  | true =>
    replace hplace : input.dropWhile isSpace = byte '"' :: after := hplace
    rw [hplace] at hinput
    exact faint_of_text hinput htext
  | false =>
    obtain ⟨mid, hcomma, hmid⟩ := hplace
    rw [hcomma] at hinput
    have hafter := run_dropWhile_space hquoted (show (quotedAt d).run mid = some last from hinput)
    rw [hmid] at hafter
    exact faint_of_text hafter htext

/-- Among more brackets a reader of members comes to the same state. -/
theorem Leads.run_deep {k : Nat} {last : State} {a : α}
    (hleads : Leads (plainAt 1) (plainAt 1) input (.ok a rest))
    (hrun : (plainAt (k + 1)).run input = some last) : (plainAt (k + 1)).run rest = some last := by
  obtain ⟨x, rfl, hx⟩ := hleads
  have hdeep : (plainAt (k + 1)).run x = some (plainAt (k + 1)) := by
    simpa [State.deepen, Nat.add_comm] using State.run_deepen hx k
  rwa [State.run_append_of_eq hdeep] at hrun

/-- What leads a reader on from one member to the next does not bring it back. -/
theorem Adrift.of_leads {a : α} (h : Adrift input)
    (hleads : Leads (plainAt 1) (plainAt 1) input (.ok a rest)) : Adrift rest := by
  rcases h with rfl | ⟨k, hrun⟩ | ⟨d, hrun⟩
  · obtain ⟨x, hnil, -⟩ := hleads
    exact .inl (List.append_eq_nil_iff.1 hnil.symm).2
  · exact .inr (.inl ⟨k, hleads.run_deep hrun⟩)
  · obtain ⟨x, rfl, hx⟩ := hleads
    obtain ⟨u, hu⟩ : ∃ u, (quotedAt d).run x = some u := by
      rw [State.run_append] at hrun
      obtain ⟨u, hu, -⟩ := Option.bind_eq_some_iff.1 hrun
      exact ⟨u, hu⟩
    have houtside : Mode.plain.Outside := trivial
    have hmirror := Mode.mirrored (.inl ⟨houtside, rfl⟩) (State.mode_run hx) (State.mode_run hu)
    have hquoted : u.mode = .quoted := by
      rcases hmirror with ⟨-, hm⟩ | ⟨hm, -⟩
      · exact hm
      · cases hm
    rw [State.run_append_of_eq hu] at hrun
    exact adrift_of_astray (.inl hquoted) hrun

/-- What a reader of members makes of one: the value comes after a colon, and only where the key is
not faint may a fault have been passed over. -/
def MemberStrays (key : String) (input rest : List UInt8) : Prop :=
  ∃ mid, colon input = .ok () mid ∧ Strays mid rest ∧ (Faint key → Passes mid rest)

/-- One member does not bring a reader back. -/
theorem Adrift.member {first : Bool} {key : String} {mid : List UInt8} (h : Adrift input)
    (hkey : nextKey first input = .ok (some key) mid) (hmember : MemberStrays key mid rest) :
    Adrift rest := by
  obtain ⟨value, hcolon, hstray, hpass⟩ := hmember
  have hkeyLeads : Leads (plainAt 1) (plainAt 1) input (.ok (some key) mid) :=
    hkey ▸ leads_nextKey 0 first input
  have hcolonLeads : Leads (plainAt 1) (plainAt 1) mid (.ok () value) :=
    hcolon ▸ leads_colon 0 mid
  rcases h with rfl | ⟨k, hrun⟩ | ⟨d, hrun⟩
  · cases first <;> cases hkey
  · exact adrift_of_strays (hcolonLeads.run_deep (hkeyLeads.run_deep hrun)) hstray
  · have hadrift : Adrift value :=
      Adrift.of_leads (Adrift.of_leads (.inr (.inr ⟨d, hrun⟩)) hkeyLeads) hcolonLeads
    exact hadrift.of_leads (hpass (faint_of_nextKey hrun hkey)).leads

/-- **Adrift to the end.** The members of an object do not bring a reader back. -/
theorem Adrift.members {member : String → σ → Reader σ}
    (hmember : ∀ {key state input next rest}, member key state input = .ok next rest →
      MemberStrays key input rest)
    {fuel : Nat} {first : Bool} {state last : σ} (h : Adrift input)
    (hread : members member fuel first state input = .ok last rest) : Adrift rest := by
  induction fuel generalizing first state input with
  | zero => cases hread
  | succ fuel ih =>
    rcases members_eq_ok.1 hread with ⟨hkey, -⟩ | ⟨key, mid, next, mid', hkey, hnext, hread⟩
    · exact h.of_leads (hkey ▸ leads_nextKey 0 first input)
    · exact ih (h.member hkey (hmember hnext)) hread

/-- Whoever is adrift does not find the end of the text behind the object. -/
theorem Adrift.not_closed (h : Adrift input) (hend : objectEnd input = .ok () rest)
    (hrest : rest.dropWhile isSpace = []) : False := by
  have hspace := isSpace_of_dropWhile hrest
  obtain ⟨x, hx, hsettle⟩ := closes_objectEnd.settles input
  rw [hend] at hx
  have hlost : ∀ s, Astray 2 s → s.run input ≠ some (plainAt 0) := by
    intro s hs hrun
    obtain ⟨u, hu, hastray⟩ := hsettle 1 s hs
    rw [hx, State.run_append_of_eq hu, show remainder (.ok () rest) = rest from rfl,
      hastray.run_space hspace] at hrun
    cases hrun
    rcases hastray with hm | ⟨-, hd⟩
    · cases hm
    · exact absurd hd (Nat.not_succ_le_zero 0)
  rcases h with rfl | ⟨k, hrun⟩ | ⟨d, hrun⟩
  · cases hend
  · exact hlost _ (astray_plain (Nat.le_add_left 2 k)) hrun
  · exact hlost _ astray_quoted hrun

end Accounts.Json.Outline

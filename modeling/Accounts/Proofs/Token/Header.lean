import Accounts.Proofs.Json.Soundness
import Accounts.Proofs.Token.Agreement
import Accounts.Token.Header

/-!
# What a header says

A header names its signature method in one place: in an object it is the only member with the key
`alg`, in a list it is the second element. The name is a text, or the only key of an object. What
the other members are is left open, but for the outline of their values: quotes and brackets are
closed.

* `Entries` — the members of an object, with their keys and the places of their values.
* `IsChoice` — one name out of several.
* `Names` — a header in JSON that names its method.
* `Header.decode_sound` — a header that is read names the method that was read.
-/

namespace Accounts.Token

open Json Json.Reader Json.Grammar Json.Outline

/-! ## Members and names -/

/-- A member of an object: its key, what begins with its value, and what follows that. -/
structure Entry where
  key : String
  value : List UInt8
  follows : List UInt8

/-- The members of an object, from the first or from a later one on. -/
inductive Entries : Bool → List Entry → List UInt8 → List UInt8 → Prop where
  | nil {first rest} : Entries first [] rest rest
  | cons {first e entries input input' mid rest} (hseparator : Separator first input input')
      (hkey : IsText e.key input' mid) (hcolon : Blank mid (byte ':' :: e.value))
      (hvalue : Passes e.value e.follows) (h : Entries false entries e.follows rest) :
      Entries first (e :: entries) input rest

/-- One name out of several, as a text or as the only key of an object with `null` in it. -/
inductive IsChoice (name : String) : List UInt8 → List UInt8 → Prop where
  | text {input rest} (h : IsText name input rest) : IsChoice name input rest
  | key {input mid mid' mid'' last rest} (hopen : Blank input (byte '\x7b' :: mid))
      (hkey : IsText name mid mid') (hcolon : Blank mid' (byte ':' :: mid''))
      (hnull : Blank mid'' (byte 'n' :: byte 'u' :: byte 'l' :: byte 'l' :: last))
      (hclose : Blank last (byte '\x7d' :: rest)) : IsChoice name input rest

/-- A header in JSON with this name for its method. -/
inductive Names (name : String) (text : List UInt8) : Prop where
  | object {entries : List Entry} {e : Entry} {mid mid' rest : List UInt8}
      (hopen : Blank text (byte '\x7b' :: mid)) (hentries : Entries true entries mid mid')
      (hclose : Blank mid' (byte '\x7d' :: rest)) (hend : Blank rest [])
      (hmethod : entries.filter (·.key = "alg") = [e]) (hname : IsChoice name e.value e.follows)
  | list {mid first mid' mid'' rest : List UInt8} (hopen : Blank text (byte '[' :: mid))
      (hblank : Blank mid first) (hfirst : Passes first mid')
      (hcomma : Blank mid' (byte ',' :: mid'')) (hname : IsChoice name mid'' rest)
      (hrest : (plainAt 1).run rest = some (plainAt 0))

variable {α : Type} {input rest : List UInt8}

theorem IsChoice.blank {name : String} {mid : List UInt8} (h : IsChoice name mid rest)
    (hblank : Blank input mid) : IsChoice name input rest := by
  cases h with
  | text h => exact .text (h.blank hblank)
  | key hopen hkey hcolon hnull hclose => exact .key (hblank.trans hopen) hkey hcolon hnull hclose

theorem isText_of_string {wanted value : String} (h : string wanted input = .ok value rest) :
    IsText value input rest := by
  obtain ⟨after, hinput, htext⟩ := string_eq_ok.1 h
  exact ⟨after, blank_of_dropWhile hinput, spells_of_text htext⟩

theorem isText_of_named {known : List (String × α)} {a : α}
    (h : variant.named known input = .ok a rest) :
    ∃ name, known.lookup name = some a ∧ IsText name input rest := by
  rw [variant.named, located_eq_ok] at h
  obtain ⟨name, mid, hname, h⟩ := bind_eq_ok.1 h
  cases hknown : known.lookup name with
  | none =>
    rw [hknown] at h
    cases h
  | some b =>
    rw [hknown] at h
    cases h
    exact ⟨name, hknown, isText_of_string hname⟩

theorem null_of_unit (h : unit input = .ok () rest) :
    Blank input (byte 'n' :: byte 'u' :: byte 'l' :: byte 'l' :: rest) := by
  rw [unit, valueStart_bind_eq_ok] at h
  obtain ⟨b, after, hinput, h⟩ := h
  split at h
  · next hb =>
    obtain rfl := beq_iff_eq.1 hb
    rw [nullWord, advance_bind] at h
    rw [word_eq_ok h] at hinput
    exact blank_of_dropWhile hinput
  · exact (wrongKind_ne_ok h).elim

theorem isChoice_of_variant {known : List (String × α)} {a : α}
    (h : variant known input = .ok a rest) :
    ∃ name, known.lookup name = some a ∧ IsChoice name input rest := by
  rw [variant, valueStart_bind_eq_ok] at h
  obtain ⟨b, after, hinput, h⟩ := h
  have hblank := blank_of_dropWhile hinput
  split at h
  · obtain ⟨name, hknown, hname⟩ := isText_of_named h
    exact ⟨name, hknown, .text (hname.blank hblank)⟩
  split at h
  · next hb =>
    obtain rfl := beq_iff_eq.1 hb
    rw [advance_bind] at h
    obtain ⟨a', mid, hnamed, h⟩ := bind_eq_ok.1 h
    obtain ⟨name, hknown, hname⟩ := isText_of_named hnamed
    obtain ⟨_, mid', hcolon, h⟩ := bind_eq_ok.1 h
    obtain ⟨_, last, hunit, h⟩ := bind_eq_ok.1 h
    rw [peek_bind] at h
    cases hlast : last.dropWhile isSpace with
    | nil => simp [hlast] at h
    | cons c tail =>
      simp only [hlast, List.head?_cons] at h
      split at h
      · next hc =>
        obtain rfl := beq_iff_eq.1 hc
        cases h
        exact ⟨name, hknown, .key hblank hname (blank_of_dropWhile (colon_eq_ok.1 hcolon))
          (null_of_unit hunit) (blank_of_dropWhile hlast)⟩
      · cases h
  · cases h

theorem Algorithm.eq_of_lookup {name : String} (h : byName.lookup name = some .hs256) :
    name = "HS256" := by
  obtain ⟨before, after, hsplit, -⟩ := List.lookup_eq_some_iff.1 h
  have hmem : (name, hs256) ∈ byName := hsplit ▸ by simp
  simpa [byName] using hmem

/-! ## What is passed over -/

theorem leads_textReader (d : Nat) (input : List UInt8) :
    Leads (plainAt d) (plainAt d) input (Header.textReader input) :=
  .bind (leads_optional (leads_string d _) input) fun _ _ _ => .ok

theorem leads_textsReader (d : Nat) (input : List UInt8) :
    Leads (plainAt d) (plainAt d) input (Header.textsReader input) := by
  refine leads_valueStart (fun b rest => ?_) input
  simp only [beq_iff_eq]
  split
  · next hb =>
    refine .located (.closedBy ?_ closes_listEnd)
    refine .cons (step_open (.inl hb)) ?_
    refine leads_elements (fun _ _ input => ?_) _ _ _ _
    exact .bind (leads_string (d + 1) _ input) fun _ _ _ => .ok
  · exact leads_wrongKind d _ _

theorem HeaderKey.leads_reader (d : Nat) (input : List UInt8) :
    Leads (plainAt d) (plainAt d) input (HeaderKey.reader input) :=
  leads_object (fun _ _ input => .bind (leads_colon d input) fun _ rest _ =>
    .bind (leads_value 126 (d + 1) rest) fun _ _ _ => .ok) input

theorem leads_plain {key : String} {r : Json.Reader Unit} (h : Header.plain? key = some r)
    (input : List UInt8) : Leads (plainAt 0) (plainAt 0) input (r input) := by
  unfold Header.plain? at h
  split at h
  case h_8 =>
    cases h
    exact .bind (leads_optional (leads_textsReader 0) input) fun _ _ _ => .ok
  case h_9 =>
    cases h
    exact .bind (leads_optional (HeaderKey.leads_reader 0) input) fun _ _ _ => .ok
  case h_10 => cases h
  all_goals
    cases h
    exact leads_textReader 0 input

theorem leads_elementAt {index d : Nat} {wanted : String} {r : Json.Reader α}
    (hr : ∀ input, Leads (plainAt (d + 1)) (plainAt (d + 1)) input (r input)) (input : List UInt8) :
    Leads (plainAt (d + 1)) (plainAt (d + 1)) input (elementAt index wanted r input) := by
  refine .bind (leads_nextElement d _ input) fun more rest _ => ?_
  split
  · exact .inField (hr rest)
  · exact .fault astray_here

/-! ## Objects -/

/-- What the members of an object add to a draft: the method that the only one with its key names,
or nothing. -/
def Adds (entries : List Entry) (d last : Header.Draft) : Prop :=
  entries.filter (·.key = "alg") = [] ∧ last.algorithm = d.algorithm ∨
  d.algorithm = none ∧ ∃ e name, entries.filter (·.key = "alg") = [e] ∧
    (∃ a, last.algorithm = some a ∧ Algorithm.byName.lookup name = some a) ∧
    IsChoice name e.value e.follows

/-- A member adds what its value is, and passes it over. -/
theorem adds_of_member {key : String} {d next : Header.Draft}
    (h : Header.member key d input = .ok next rest) :
    ∃ value, colon input = .ok () value ∧ Passes value rest ∧ Adds [⟨key, value, rest⟩] d next := by
  unfold Header.member at h
  split at h
  · next hkey =>
    obtain ⟨found, mid, hfield, h⟩ := bind_eq_ok.1 h
    cases h
    obtain ⟨hnone, value, a, hcolon, hvariant, rfl⟩ := field_eq_ok.1 hfield
    obtain ⟨name, hknown, hname⟩ := isChoice_of_variant hvariant
    have hleads : Leads (plainAt 0) (plainAt 0) value (.ok a rest) := hvariant ▸ leads_variant value
    exact ⟨value, hcolon, hleads.passes, .inr ⟨hnone, ⟨key, value, rest⟩, name, by simp [hkey],
      ⟨a, rfl, hknown⟩, hname⟩⟩
  next hkey =>
  cases hplain : Header.plain? key with
  | some r =>
    simp only [hplain] at h
    obtain ⟨found, mid, hfield, h⟩ := bind_eq_ok.1 h
    cases h
    obtain ⟨value, hcolon, hpass⟩ := passes_of_field (leads_plain hplain) hfield
    exact ⟨value, hcolon, hpass, .inl ⟨by simp [hkey], rfl⟩⟩
  | none =>
    simp only [hplain] at h
    obtain ⟨_, mid, hfield, h⟩ := bind_eq_ok.1 h
    cases h
    obtain ⟨value, hcolon, hpass⟩ := passes_of_ignoredField hfield
    exact ⟨value, hcolon, hpass, .inl ⟨by simp [hkey], rfl⟩⟩

theorem Adds.cons {e : Entry} {entries : List Entry} {d next last : Header.Draft}
    (h : Adds [e] d next) (h' : Adds entries next last) : Adds (e :: entries) d last := by
  rw [Adds, ← List.singleton_append, List.filter_append]
  rcases h with ⟨hfilter, hnext⟩ | ⟨hnone, e', name, hfilter, ⟨a, hnext, hknown⟩, hname⟩
  · rw [hfilter, ← hnext]
    exact h'
  · rcases h' with ⟨hfilter', hlast⟩ | ⟨hnone', -⟩
    · rw [hfilter, hfilter', hlast]
      exact .inr ⟨hnone, e', name, rfl, ⟨a, hnext, hknown⟩, hname⟩
    · rw [hnext] at hnone'
      cases hnone'

theorem entries_of_members {fuel : Nat} {first : Bool} {d last : Header.Draft}
    (h : members Header.member fuel first d input = .ok last rest) :
    ∃ entries mid, Entries first entries input mid ∧ Blank mid rest ∧ Adds entries d last := by
  induction fuel generalizing first d input with
  | zero => cases h
  | succ fuel ih =>
    rcases members_eq_ok.1 h with ⟨hend, rfl⟩ | ⟨key, mid, next, mid', hkey, hmember, hrest⟩
    · exact ⟨[], input, .nil, blank_of_dropWhile (nextKey_eq_ok_none.1 hend).1, .inl ⟨rfl, rfl⟩⟩
    · obtain ⟨after, hplace, htext⟩ := nextKey_eq_ok_some.1 hkey
      obtain ⟨place, hseparator, hblank⟩ := exists_separator hplace
      obtain ⟨value, hcolon, hpass, hadds⟩ := adds_of_member hmember
      obtain ⟨entries, last, hentries, hlast, hadds'⟩ := ih hrest
      exact ⟨⟨key, value, mid'⟩ :: entries, last,
        .cons hseparator ⟨after, hblank, spells_of_text htext⟩
          (blank_of_dropWhile (colon_eq_ok.1 hcolon)) hpass hentries, hlast, hadds.cons hadds'⟩

/-! ## Headers -/

/-- The first two elements of a list, and the outline of what comes after them. -/
theorem elements_of_positional {after mid : List UInt8} {header : Header}
    (h : Header.positional after = .ok header mid) (hend : listEnd mid = .ok () rest)
    (hrest : rest.dropWhile isSpace = []) :
    ∃ first last wanted, elementAt 0 wanted Header.textReader after = .ok () first ∧
      elementAt 1 wanted (variant Algorithm.byName) first = .ok header.algorithm last ∧
      (plainAt 1).run last = some (plainAt 0) := by
  obtain ⟨_, first, hfirst, h⟩ := bind_eq_ok.1 h
  obtain ⟨algorithm, last, halgorithm, h⟩ := bind_eq_ok.1 h
  have hlast : Leads (plainAt 1) (plainAt 1) last (.ok header mid) := by
    rw [← h]
    refine .bind (leads_elementAt (leads_textReader 1) _) fun _ _ _ => ?_
    refine .bind (leads_elementAt (leads_textReader 1) _) fun _ _ _ => ?_
    refine .bind (leads_elementAt (leads_optional (HeaderKey.leads_reader 1)) _) fun _ _ _ => ?_
    refine .bind (leads_elementAt (leads_textReader 1) _) fun _ _ _ => ?_
    refine .bind (leads_elementAt (leads_textReader 1) _) fun _ _ _ => ?_
    refine .bind (leads_elementAt (leads_optional (leads_textsReader 1)) _) fun _ _ _ => ?_
    refine .bind (leads_elementAt (leads_textReader 1) _) fun _ _ _ => ?_
    exact .bind (leads_elementAt (leads_textReader 1) _) fun _ _ _ => .ok
  have hclose : Leads (plainAt 1) (plainAt 0) mid (.ok () rest) :=
    hend ▸ closes_listEnd.leads 0 mid
  -- The other eight elements do not matter for the header.
  obtain ⟨_, _, -, h⟩ := bind_eq_ok.1 h
  obtain ⟨_, _, -, h⟩ := bind_eq_ok.1 h
  obtain ⟨_, _, -, h⟩ := bind_eq_ok.1 h
  obtain ⟨_, _, -, h⟩ := bind_eq_ok.1 h
  obtain ⟨_, _, -, h⟩ := bind_eq_ok.1 h
  obtain ⟨_, _, -, h⟩ := bind_eq_ok.1 h
  obtain ⟨_, _, -, h⟩ := bind_eq_ok.1 h
  obtain ⟨_, _, -, h⟩ := bind_eq_ok.1 h
  cases h
  exact ⟨first, last, _, hfirst, halgorithm, (hlast.forget.trans hclose).run_eq hrest⟩

/-- A list that is read as a header names its method in the second element. -/
theorem names_of_positional {text after mid : List UInt8} {header : Header}
    (hopen : text.dropWhile isSpace = byte '[' :: after)
    (h : Header.positional after = .ok header mid) (hend : listEnd mid = .ok () rest)
    (hrest : rest.dropWhile isSpace = []) :
    ∃ name, Algorithm.byName.lookup name = some header.algorithm ∧ Names name text := by
  obtain ⟨first, last, wanted, hfirst, hsecond, hlast⟩ := elements_of_positional h hend hrest
  obtain ⟨place, hnext, htext⟩ := elementAt_eq_ok.1 hfirst
  obtain ⟨place', hnext', hvariant⟩ := elementAt_eq_ok.1 hsecond
  obtain ⟨_, hseparator, hblank⟩ := (separator_of_nextElement hnext).1 rfl
  obtain ⟨_, hseparator', hblank'⟩ := (separator_of_nextElement hnext').1 rfl
  obtain ⟨name, hknown, hname⟩ := isChoice_of_variant hvariant
  have hpass : Leads (plainAt 0) (plainAt 0) place (.ok () first) :=
    htext ▸ leads_textReader 0 place
  cases hseparator
  cases hseparator' with
  | following hcomma =>
    exact ⟨name, hknown, .list (blank_of_dropWhile hopen) hblank hpass.passes hcomma
      (hname.blank hblank') hlast⟩

/-- A draft that is finished has the method that some member added. -/
theorem Adds.of_finish {entries : List Entry} {last : Header.Draft} {header : Header}
    (h : Adds entries {} last) (hfinish : last.finish = .ok header) :
    ∃ e name, entries.filter (·.key = "alg") = [e] ∧
      Algorithm.byName.lookup name = some header.algorithm ∧ IsChoice name e.value e.follows := by
  unfold Header.Draft.finish at hfinish
  split at hfinish
  · next algorithm hlast =>
    cases hfinish
    rcases h with ⟨-, hsame⟩ | ⟨-, e, name, hmethod, ⟨a, ha, hknown⟩, hname⟩
    · rw [hlast] at hsame
      cases hsame
    · rw [hlast] at ha
      cases ha
      exact ⟨e, name, hmethod, hknown, hname⟩
  · cases hfinish

/-- **A header that is read** names its method. -/
theorem Header.decode_sound {text : List UInt8} {header : Header} (h : decode text = .ok header) :
    ∃ name, Algorithm.byName.lookup name = some header.algorithm ∧ Names name text := by
  obtain ⟨rest, hread, hrest⟩ := run_eq_ok.1 h
  rcases record_eq_ok.1 hread with ⟨after, mid, hopen, hpositional, hend⟩ | hobject
  · exact names_of_positional hopen hpositional hend hrest
  · obtain ⟨after, last, mid, hopen, hmembers, hfinish, hend⟩ := object_eq_ok.1 hobject
    obtain ⟨entries, mid', hentries, hblank, hadds⟩ := entries_of_members hmembers
    obtain ⟨e, name, hmethod, hknown, hname⟩ := hadds.of_finish hfinish
    exact ⟨name, hknown, .object (blank_of_dropWhile hopen) hentries
      (hblank.trans (blank_of_dropWhile (objectEnd_eq_ok.1 hend))) (blank_of_dropWhile hrest)
      hmethod hname⟩

theorem Header.names_hs256 {text : List UInt8} (h : decode text = .ok ⟨.hs256⟩) :
    Names "HS256" text := by
  obtain ⟨name, hknown, hnames⟩ := decode_sound h
  exact Algorithm.eq_of_lookup hknown ▸ hnames

end Accounts.Token

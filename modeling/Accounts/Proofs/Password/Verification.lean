import Accounts.Proofs.Dialogue
import Accounts.Proofs.Password.Stated

/-!
# What a verification costs

A stored hash chooses the costs of its verification. Here verification is taken apart into what it
asks the key derivation for and what it makes of the key, so that one can say what is asked, for any
text in the place of a hash and whatever key comes back.

* `runWith_verification` — verification asks the key derivation, and does nothing else with it.
* `verify_within_ceilings` — what is asked is below the ceilings, and what comes of it.
* `verified_by_defaults` — a hash may leave out costs; which ones are used then.
-/

namespace Accounts.Password

open Dialogue

/-! ## The key derivation as a question -/

/-- Everything that the key derivation is given. -/
structure Derivation where
  parameters : Argon2.Parameters
  password : List UInt8
  salt : List UInt8

def Derivation.key (d : Derivation) : List UInt8 := Argon2.derive d.parameters d.password d.salt

/-- The costs that a verification may have. -/
structure Derivation.WithinCeilings (d : Derivation) : Prop where
  memory : d.parameters.memory ≤ 1048576
  passes : d.parameters.passes ≤ 64
  lanes : d.parameters.lanes ≤ 16
  keyLength : 10 ≤ d.parameters.keyLength ∧ d.parameters.keyLength ≤ 64

/-- What the key derivation is given for a challenge. -/
def Challenge.derivation (c : Challenge) (password : String) : Derivation :=
  ⟨⟨c.stored.memory, c.stored.iterations, c.stored.parallelism, c.key.length, c.stored.data⟩,
    Utf8.encode password, c.salt⟩

/-- Verification of a password that asks for the key. -/
def verification (password stored : String) :
    Dialogue Derivation (fun _ => List UInt8) (Except Fault Bool) :=
  match Challenge.ofText stored with
  | .error fault => pure (.error fault)
  | .ok c =>
    match checkInput password c.salt with
    | .error fault => pure (.error (.hashingFailed fault.message))
    | .ok () => question (c.derivation password) >>= fun key => pure (.ok (key == c.key))

/-- **Verification** asks the key derivation for what it needs, and for nothing else. -/
theorem runWith_verification (password stored : String) :
    (verification password stored).runWith (fun d s => (d.key, s)) () =
      (verify password stored, ()) := by
  rw [verification, verify]
  cases Challenge.ofText stored with
  | error fault => rfl
  | ok c =>
    simp only [Except.ok_bind, derive]
    cases checkInput password c.salt <;> rfl

/-! ## What is asked -/

/-- What a verification asks, and what it answers. -/
inductive Calls (password text : String) :
    List (Exchange fun _ : Derivation => List UInt8) → Except Fault Bool → Prop where
  /-- It fails before the key derivation runs. -/
  | none (fault : Fault) : Calls password text [] (.error fault)
  /-- The key derivation runs once, with what the hash states. Its key is compared with the stored
  one. -/
  | once {c : Challenge} {parameters : List (List Char × List Char)}
      (written : c.WrittenAs text parameters)
      (within : (c.derivation password).WithinCeilings) (key : List UInt8) :
    Calls password text [⟨c.derivation password, key⟩] (.ok (key == c.key))

theorem Challenge.WrittenAs.withinCeilings {c : Challenge} {text : String}
    {parameters : List (List Char × List Char)} (h : c.WrittenAs text parameters)
    (password : String) : (c.derivation password).WithinCeilings :=
  ⟨h.memory.2, h.iterations.2, h.parallelism.2, h.key⟩

theorem calls_of_plays {password text : String}
    {log : List (Exchange fun _ : Derivation => List UInt8)} {result : Except Fault Bool}
    (h : (verification password text).Plays log result) : Calls password text log result := by
  unfold verification at h
  split at h
  · next fault _ =>
    obtain ⟨rfl, rfl⟩ := plays_pure.1 h
    exact .none fault
  next c hread =>
  split at h
  · next fault _ =>
    obtain ⟨rfl, rfl⟩ := plays_pure.1 h
    exact .none _
  · obtain ⟨key, _, rfl, hafter⟩ := plays_question_bind.1 h
    obtain ⟨rfl, rfl⟩ := plays_pure.1 hafter
    obtain ⟨parameters, hwritten⟩ := Challenge.ofText_eq_ok.1 hread
    exact .once hwritten (hwritten.withinCeilings password) key

theorem checkInput_eq_ok {password : String} {salt : List UInt8} :
    checkInput password salt = .ok () ↔
      minSaltSize ≤ salt.length ∧ (Utf8.encode password).length < 4294967296 := by
  unfold checkInput maxPasswordSize
  split_ifs <;> simp <;> omega

theorem verify_eq_ok {password text : String} {fits : Bool} :
    verify password text = .ok fits ↔ ∃ c parameters, Challenge.WrittenAs c text parameters ∧
      (minSaltSize ≤ c.salt.length ∧ (Utf8.encode password).length < 4294967296) ∧
      fits = ((c.derivation password).key == c.key) := by
  rw [verify, Except.bind_eq_ok]
  constructor
  · rintro ⟨c, hread, h⟩
    obtain ⟨key, hkey, h⟩ := Except.bind_eq_ok.1 h
    obtain ⟨_, hinput, hkey⟩ := Except.bind_eq_ok.1 (Except.mapError_eq_ok.1 hkey)
    cases hkey
    cases h
    obtain ⟨parameters, hwritten⟩ := Challenge.ofText_eq_ok.1 hread
    exact ⟨c, parameters, hwritten, checkInput_eq_ok.1 hinput, rfl⟩
  · rintro ⟨c, parameters, hwritten, hinput, rfl⟩
    refine ⟨c, Challenge.ofText_eq_ok.2 ⟨parameters, hwritten⟩, ?_⟩
    rw [derive, checkInput_eq_ok.2 hinput]
    rfl

theorem verify_eq_incompatible {password text : String} {v : Nat} :
    verify password text = .error (.incompatibleVersion v) ↔
      ∃ phc : Phc, phc.WellFormed ∧ phc.algorithm = algorithm ∧ phc.version = some v ∧
        v ≠ version ∧ text = String.ofList phc.render := by
  rw [← Challenge.ofText_eq_incompatible, verify]
  cases Challenge.ofText text with
  | error fault =>
    constructor
    all_goals
      intro h
      cases h
      rfl
  | ok c =>
    refine iff_of_false (fun h => ?_) nofun
    simp only [Except.ok_bind] at h
    cases hkey : derive password c.salt c.stored c.key.length with
    | error fault =>
      rw [hkey] at h
      cases h
    | ok key =>
      rw [hkey] at h
      cases h

/-! ## Tasks that break off -/

/-- A verification succeeds however products are computed, or not at all: what overflows is not
within the ceilings. -/
theorem verifyUnder_eq_ok {arithmetic : Arithmetic} {password text : String} {fits : Bool} :
    verifyUnder arithmetic password text = .ok (.ok fits) ↔ verify password text = .ok fits := by
  rw [verifyUnder, Except.bind_eq_ok]
  constructor
  · rintro ⟨_, -, h⟩
    exact Except.ok.inj h
  · intro h
    obtain ⟨c, parameters, hwritten, -, -⟩ := verify_eq_ok.1 h
    refine ⟨(), ?_, congrArg Except.ok h⟩
    rw [hwritten.overflows_eq_false, Arithmetic.pass_false]

/-- **What breaks off a verification**: an overflow, where overflows are checked. -/
theorem verifyUnder_cases (arithmetic : Arithmetic) (password text : String) :
    verifyUnder arithmetic password text = .ok (verify password text) ∨
      ∃ report, arithmetic = .checked report ∧ StatesOverflow text ∧
        verifyUnder arithmetic password text = .error ⟨report⟩ := by
  rw [← overflows_eq_true, verifyUnder]
  cases hoverflows : overflows text with
  | false => exact .inl (by rw [Arithmetic.pass_false]; rfl)
  | true =>
    cases arithmetic with
    | wrapping => exact .inl rfl
    | checked report => exact .inr ⟨report, rfl, rfl, rfl⟩

/-- **A stored hash cannot ask for more than the ceilings.** Whatever text stands in the place of a
hash and whichever hasher reads it, the key derivation runs once at most, with the costs that the
text states, the last one of a name if it is repeated, and these are below the ceilings. The
password fits exactly if its key is the stored one. A text that does not say what it has to is
refused, and of those that are well formed another version is told. Only lanes that overflow break
the verification off. -/
theorem verify_within_ceilings (h : Hasher) (password text : String) :
    (verification password text).runWith (fun d s => (d.key, s)) () = (h.verify password text, ()) ∧
    (∀ log result, (verification password text).Plays log result → Calls password text log result) ∧
    (∀ fits, h.verify password text = .ok fits → ∃ c parameters,
      Challenge.WrittenAs c text parameters ∧ 8 ≤ c.salt.length ∧
        (fits = true ↔ (c.derivation password).key = c.key)) ∧
    (∀ c parameters, Challenge.WrittenAs c text parameters → 8 ≤ c.salt.length →
      (Utf8.encode password).length < 4294967296 → ∃ fits, h.verify password text = .ok fits) ∧
    (∀ v, h.verify password text = .error (.incompatibleVersion v) ↔
      ∃ phc : Phc, phc.WellFormed ∧ phc.algorithm = "argon2id".toList ∧ phc.version = some v ∧
        v ≠ 19 ∧ text = String.ofList phc.render) ∧
    (¬ StatesOverflow text → ∀ arithmetic,
      verifyUnder arithmetic password text = .ok (h.verify password text)) := by
  refine ⟨runWith_verification password text, fun _ _ => calls_of_plays, fun fits hfits => ?_,
    fun c parameters hwritten hsalt hshort => ?_, fun v => verify_eq_incompatible,
    fun hfits arithmetic => ?_⟩
  · obtain ⟨c, parameters, hwritten, ⟨hsalt, -⟩, rfl⟩ := verify_eq_ok.1 hfits
    exact ⟨c, parameters, hwritten, hsalt, beq_iff_eq⟩
  · exact ⟨_, verify_eq_ok.2 ⟨c, parameters, hwritten, ⟨hsalt, hshort⟩, rfl⟩⟩
  · obtain hdone | ⟨_, -, hoverflow, -⟩ := verifyUnder_cases arithmetic password text
    · exact hdone
    · exact absurd hoverflow hfits

/-- A hash that states its memory twice and its other costs not at all. -/
theorem verify_within_ceilings_repeated :
    ∃ c parameters fits, Challenge.WrittenAs c
        "$argon2id$v=19$m=4294967295,m=8$c2FsdHNhbHQ$a2V5a2V5a2V5a2V5" parameters ∧
      c.stored = ⟨8, 2, 1, []⟩ ∧
      Hasher.standard.verify "secret"
        "$argon2id$v=19$m=4294967295,m=8$c2FsdHNhbHQ$a2V5a2V5a2V5a2V5" = .ok fits := by
  have hwritten : Challenge.WrittenAs
      ⟨⟨8, 2, 1, []⟩, Utf8.encode "saltsalt", Utf8.encode "keykeykeykey"⟩
      "$argon2id$v=19$m=4294967295,m=8$c2FsdHNhbHQ$a2V5a2V5a2V5a2V5"
      [(['m'], Nat.toDigits 10 4294967295), (['m'], Nat.toDigits 10 8)] :=
    { text_eq := by decide
      isKnown := by
        intro p hp
        simp only [List.mem_cons, List.not_mem_nil, or_false] at hp
        obtain rfl | rfl := hp
        all_goals exact .cost (by simp) (by decide)
      length_le := by decide
      stated := ⟨rfl, rfl, rfl, rfl⟩
      memory := by decide
      iterations := by decide
      parallelism := by decide
      salt := by decide
      key := by decide }
  obtain ⟨-, -, -, hverified, -, -⟩ := verify_within_ceilings .standard "secret"
    "$argon2id$v=19$m=4294967295,m=8$c2FsdHNhbHQ$a2V5a2V5a2V5a2V5"
  obtain ⟨fits, hfits⟩ := hverified _ _ hwritten (by decide) (by decide)
  exact ⟨_, _, fits, hwritten, rfl, hfits⟩

/-! ## Costs that a hash leaves out -/

def costNames : List (List Char) := [['m'], ['t'], ['p']]

/-- The documented form of a hash: six fields, of which the one of costs has a value for each of
memory, passes and lanes. -/
def IsDocumented (text : String) : Prop :=
  ∃ costs salt key,
    Text.split '$' text.toList = [[], algorithm, "v=19".toList, costs, salt, key] ∧
      ∀ name ∈ costNames, ∃ value, Phc.renderParameter (name, value) ∈ Text.split ',' costs

namespace Challenge

variable {c : Challenge} {text : String} {parameters : List (List Char × List Char)}

theorem WrittenAs.split_text (h : c.WrittenAs text parameters) :
    Text.split '$' text.toList = [[], algorithm, "v=19".toList] ++
      (if parameters = [] then [] else [Phc.parameterField parameters]) ++
        [Phc.encodeBytes c.salt, Phc.encodeBytes c.key] := by
  have hversion : 'v' :: '=' :: Nat.toDigits 10 version = "v=19".toList := by decide
  rw [h.text_eq, String.toList_ofList, Phc.split_render h.wellFormed]
  simp only [Phc.fields, Phc.laterFields, Phc.tailFields, Phc.secretFields, phc, Option.toList_some,
    List.map_cons, List.map_nil, hversion]
  split <;> rfl

/-- A hash that can be verified has the documented form exactly if no cost is left out. -/
theorem WrittenAs.isDocumented_iff (h : c.WrittenAs text parameters) :
    IsDocumented text ↔ ∀ name ∈ costNames, given name parameters ≠ none := by
  have hsplit := h.split_text
  have hparameters : ∀ p ∈ parameters, Phc.IsParameter p := fun p hp => (h.isKnown p hp).isParameter
  by_cases hne : parameters = []
  · subst hne
    refine iff_of_false ?_ fun hgiven => hgiven ['m'] List.mem_cons_self rfl
    rintro ⟨costs, salt, key, htext, -⟩
    rw [hsplit] at htext
    cases htext
  · have hequals : ∀ name ∈ costNames, '=' ∉ name := by decide
    have hmem : ∀ name ∈ costNames, (∃ value, Phc.renderParameter (name, value) ∈
        Text.split ',' (Phc.parameterField parameters)) ↔ given name parameters ≠ none := by
      intro name hname
      rw [given_ne_none_iff, Phc.split_parameterField hne hparameters]
      refine exists_congr fun value => ?_
      rw [List.mem_map]
      constructor
      · rintro ⟨parameter, hparameter, hrender⟩
        rwa [← Phc.renderParameter_inj (hparameters _ hparameter).equals_not_mem.1
          (hequals name hname) hrender]
      · exact fun hvalue => ⟨_, hvalue, rfl⟩
    rw [if_neg hne] at hsplit
    constructor
    · rintro ⟨costs, salt, key, htext, hcosts⟩ name hname
      rw [hsplit] at htext
      cases htext
      exact (hmem name hname).1 (hcosts name hname)
    · intro hgiven
      exact ⟨_, _, _, hsplit, fun name hname => (hmem name hname).2 (hgiven name hname)⟩

end Challenge

/-- **A hash may leave out costs.** What is verified are the written forms of challenges, with six
fields or, without parameters, five. They have the documented form exactly if they state all costs;
a cost that they leave out is one of 19456 KiB, two passes, one lane. Any other text is malformed or
of another version, unless its lanes overflow and that breaks the verification off. -/
theorem verified_by_defaults (h : Hasher) (password text : String) :
    (∀ fits, h.verify password text = .ok fits → ∃ c parameters,
      Challenge.WrittenAs c text parameters ∧
      Text.split '$' text.toList = [[], algorithm, "v=19".toList] ++
        (if parameters = [] then [] else [Phc.parameterField parameters]) ++
          [Phc.encodeBytes c.salt, Phc.encodeBytes c.key] ∧
      (IsDocumented text ↔ ∀ name ∈ costNames, given name parameters ≠ none) ∧
      (given ['m'] parameters = none → c.stored.memory = 19456) ∧
      (given ['t'] parameters = none → c.stored.iterations = 2) ∧
      (given ['p'] parameters = none → c.stored.parallelism = 1)) ∧
    (∀ c parameters, Challenge.WrittenAs c text parameters → 8 ≤ c.salt.length →
      (Utf8.encode password).length < 4294967296 →
        h.verify password text = .ok ((c.derivation password).key == c.key)) ∧
    ((∀ c parameters, ¬ Challenge.WrittenAs c text parameters) →
      (∃ detail, h.verify password text = .error (.malformedHash detail)) ∨
        ∃ v, h.verify password text = .error (.incompatibleVersion v)) ∧
    ∀ arithmetic, verifyUnder arithmetic password text = .ok (h.verify password text) ∨
      ∃ report, arithmetic = .checked report ∧ StatesOverflow text ∧
        verifyUnder arithmetic password text = .error ⟨report⟩ := by
  refine ⟨fun fits hfits => ?_, fun c parameters hwritten hsalt hshort => ?_, fun hnone => ?_,
    fun arithmetic => verifyUnder_cases arithmetic password text⟩
  · obtain ⟨c, parameters, hwritten, -, -⟩ := verify_eq_ok.1 hfits
    have habsent : ∀ {α : Type} {write : α → List Char} {name : List Char} {absent a : α},
        Gives write name parameters absent a → given name parameters = none → a = absent := by
      intro _ _ _ _ _ hgives hnone
      rwa [Gives, hnone] at hgives
    exact ⟨c, parameters, hwritten, hwritten.split_text, hwritten.isDocumented_iff,
      habsent hwritten.stated.memory, habsent hwritten.stated.iterations,
      habsent hwritten.stated.parallelism⟩
  · exact verify_eq_ok.2 ⟨c, parameters, hwritten, ⟨hsalt, hshort⟩, rfl⟩
  · rw [Hasher.verify, verify]
    obtain ⟨detail, hread⟩ | ⟨phc, v, hphc, halgorithm, hversion, hv, rfl⟩ |
      ⟨c, parameters, hwritten⟩ := Challenge.ofText_cases text
    · exact .inl ⟨detail, by rw [hread]; rfl⟩
    · exact .inr ⟨v, by rw [Challenge.ofText_incompatible hphc halgorithm hversion hv]; rfl⟩
    · exact absurd hwritten (hnone c parameters)

/-- A hash without passes and lanes is verified, though it has not the documented form. -/
theorem not_only_documented : ¬ ∀ (h : Hasher) (password text : String) (fits : Bool),
    h.verify password text = .ok fits → IsDocumented text := by
  intro hall
  have hwritten : Challenge.WrittenAs
      ⟨⟨8, 2, 1, []⟩, Utf8.encode "saltsalt", Utf8.encode "keykeykeykey"⟩
      "$argon2id$v=19$m=8$c2FsdHNhbHQ$a2V5a2V5a2V5a2V5" [(['m'], Nat.toDigits 10 8)] :=
    { text_eq := by decide
      isKnown := List.forall_mem_singleton.2 (.cost (by simp) (by decide))
      length_le := by decide
      stated := ⟨rfl, rfl, rfl, rfl⟩
      memory := by decide
      iterations := by decide
      parallelism := by decide
      salt := by decide
      key := by decide }
  have hdocumented := hall .standard "secret" _ _
    (verify_eq_ok.2 ⟨_, _, hwritten, by decide, rfl⟩)
  exact hwritten.isDocumented_iff.1 hdocumented ['t'] (by decide) rfl

end Accounts.Password

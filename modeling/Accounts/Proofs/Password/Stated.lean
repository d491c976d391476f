import Accounts.Password.Hasher
import Accounts.Proofs.Password.Grammar

/-!
# What a stored hash states

The parameters of a PHC string are taken one after the other, and a later one of the same name
replaces an earlier one. What they leave out has a value that the reader knows.
`Challenge.WrittenAs` says in one place what a hash has to be to be verified, and how the derivation
follows from its text.

* `Stored.ofPhc_eq_ok` — the costs of a PHC string.
* `Challenge.fields_cases`, `Challenge.ofText_cases` — reading a hash, whatever its text.
* `Challenge.ofText_eq_ok`, `Challenge.ofText_eq_incompatible` — when it succeeds, and when it tells
  of another version.
* `overflows_eq_true` — the hashes with so many lanes that checking their costs overflows.
-/

namespace Accounts.Password

variable {α : Type} {name : List Char} {parameter : List Char × List Char}
  {parameters : List (List Char × List Char)}

/-! ## The last value of a name -/

/-- The value that parameters give to a name: the last one. -/
def given (name : List Char) (parameters : List (List Char × List Char)) : Option (List Char) :=
  parameters.reverse.lookup name

theorem given_cons (name : List Char) (parameter : List Char × List Char)
    (parameters : List (List Char × List Char)) :
    given name (parameter :: parameters) = (given name parameters).or (given name [parameter]) := by
  rw [given, List.reverse_cons, List.lookup_append]
  rfl

theorem given_singleton (name name' value : List Char) :
    given name [(name', value)] = if name = name' then some value else none := by
  simp only [given, List.reverse_singleton, List.lookup_cons, List.lookup_nil]
  by_cases h : name = name'
  · simp [h]
  · simp [h, beq_false_of_ne h]

theorem given_ne_none_iff : given name parameters ≠ none ↔ ∃ value, (name, value) ∈ parameters := by
  induction parameters with
  | nil => simp [given]
  | cons parameter parameters ih =>
    obtain ⟨name', value⟩ := parameter
    rw [given_cons, Ne, Option.or_eq_none_iff, not_and_or, ← Ne, ih, given_singleton]
    by_cases h : name = name' <;> simp [h]

/-- What parameters give to a name: `a`, if the last value of the name is the written form of `a`,
and what stands in for the name, if it has no value. -/
def Gives (write : α → List Char) (name : List Char) (parameters : List (List Char × List Char))
    (absent a : α) : Prop :=
  match given name parameters with
  | some value => value = write a
  | none => a = absent

section Gives

variable {write : α → List Char} {a b c : α}

theorem Gives.cons (h : Gives write name [parameter] a b) (h' : Gives write name parameters b c) :
    Gives write name (parameter :: parameters) a c := by
  unfold Gives at *
  rw [given_cons]
  cases hgiven : given name parameters with
  | some value => rwa [hgiven] at h'
  | none =>
    rw [hgiven] at h'
    rwa [Option.none_or, h']

/-- The first parameter counts for nothing but as what stands in for its name later. -/
theorem Gives.of_cons (hwrite : ∀ {a b}, write a = write b → a = b)
    (h : Gives write name (parameter :: parameters) a c) (h' : Gives write name [parameter] a b) :
    Gives write name parameters b c := by
  unfold Gives at *
  rw [given_cons] at h
  cases hgiven : given name parameters with
  | some value => rwa [hgiven] at h
  | none =>
    rw [hgiven, Option.none_or] at h
    cases hfirst : given name [parameter] with
    | some value =>
      rw [hfirst] at h h'
      exact hwrite (h.symm.trans h')
    | none =>
      rw [hfirst] at h h'
      exact h.trans h'.symm

theorem Gives.unique (hwrite : ∀ {a b}, write a = write b → a = b)
    (h : Gives write name parameters a b) (h' : Gives write name parameters a c) : b = c := by
  unfold Gives at *
  cases hgiven : given name parameters with
  | some value =>
    rw [hgiven] at h h'
    exact hwrite (h.symm.trans h')
  | none =>
    rw [hgiven] at h h'
    exact h.trans h'.symm

theorem Gives.other {name' value : List Char} (h : name ≠ name') :
    Gives write name [(name', value)] a a := by
  rw [Gives, given_singleton, if_neg h]

theorem Gives.written : Gives write name [(name, write b)] a b := by
  rw [Gives, given_singleton, if_pos rfl]

end Gives

theorem toDigits_inj {m n : Nat} (h : Nat.toDigits 10 m = Nat.toDigits 10 n) : m = n := by
  rw [← Nat.ofDigitChars_ten_toDigits (n := m), h, Nat.ofDigitChars_ten_toDigits]

theorem encodeBytes_inj {x y : List UInt8} (h : Phc.encodeBytes x = Phc.encodeBytes y) : x = y := by
  have hx : Phc.decodeBytes (x.length + y.length) (Phc.encodeBytes x) = .ok x :=
    decodeBytes_encodeBytes (Nat.le_add_right _ _)
  rw [h, decodeBytes_encodeBytes (Nat.le_add_left _ _)] at hx
  exact (Except.ok.inj hx).symm

/-! ## Costs -/

/-- The parameters that a hash may have. -/
inductive IsKnown : List Char × List Char → Prop where
  /-- Memory, passes or lanes. -/
  | cost {letter : Char} {n : Nat} (hletter : letter ∈ ['m', 't', 'p'])
      (hn : n ≤ Integer.maxUnsigned32) : IsKnown ([letter], Nat.toDigits 10 n)
  /-- The identifier of a key, which counts for nothing. -/
  | keyIdentifier {bytes : List UInt8} (hbytes : bytes.length ≤ 8) :
    IsKnown ("keyid".toList, Phc.encodeBytes bytes)
  /-- Associated data. -/
  | data {bytes : List UInt8} (hbytes : bytes.length ≤ 32) :
    IsKnown ("data".toList, Phc.encodeBytes bytes)

/-- The costs that parameters state, where others stand in for those that they leave out. -/
structure Stored.StatedBy (s : Stored) (parameters : List (List Char × List Char))
    (absent : Stored) : Prop where
  memory : Gives (Nat.toDigits 10) ['m'] parameters absent.memory s.memory
  iterations : Gives (Nat.toDigits 10) ['t'] parameters absent.iterations s.iterations
  parallelism : Gives (Nat.toDigits 10) ['p'] parameters absent.parallelism s.parallelism
  data : Gives Phc.encodeBytes "data".toList parameters absent.data s.data

namespace Stored

variable {s s' absent : Stored}

theorem StatedBy.unique (h : s.StatedBy parameters absent) (h' : s'.StatedBy parameters absent) :
    s = s' := by
  obtain ⟨m, t, p, data⟩ := s
  obtain ⟨m', t', p', data'⟩ := s'
  obtain rfl : m = m' := h.memory.unique toDigits_inj h'.memory
  obtain rfl : t = t' := h.iterations.unique toDigits_inj h'.iterations
  obtain rfl : p = p' := h.parallelism.unique toDigits_inj h'.parallelism
  obtain rfl : data = data' := h.data.unique encodeBytes_inj h'.data
  rfl

theorem statedBy_nil : s.StatedBy [] absent ↔ s = absent :=
  ⟨fun h => h.unique ⟨rfl, rfl, rfl, rfl⟩, fun h => h ▸ ⟨rfl, rfl, rfl, rfl⟩⟩

theorem StatedBy.cons (h : s'.StatedBy [parameter] absent) (h' : s.StatedBy parameters s') :
    s.StatedBy (parameter :: parameters) absent where
  memory := h.memory.cons h'.memory
  iterations := h.iterations.cons h'.iterations
  parallelism := h.parallelism.cons h'.parallelism
  data := h.data.cons h'.data

theorem StatedBy.of_cons (h : s.StatedBy (parameter :: parameters) absent)
    (h' : s'.StatedBy [parameter] absent) : s.StatedBy parameters s' where
  memory := h.memory.of_cons toDigits_inj h'.memory
  iterations := h.iterations.of_cons toDigits_inj h'.iterations
  parallelism := h.parallelism.of_cons toDigits_inj h'.parallelism
  data := h.data.of_cons encodeBytes_inj h'.data

/-- A parameter that is taken is known, and the costs are then those that it states. -/
theorem statedBy_of_take (h : absent.take parameter = .ok s) :
    IsKnown parameter ∧ s.StatedBy [parameter] absent := by
  unfold take at h
  split at h
  · next value =>
    obtain ⟨n, hread, h⟩ := Except.bind_eq_ok.1 h
    cases h
    obtain ⟨hn, rfl⟩ := Phc.readDecimal_eq_ok.1 hread
    exact ⟨.cost (by simp) hn, .written, .other (by decide), .other (by decide), .other (by decide)⟩
  · next value =>
    obtain ⟨n, hread, h⟩ := Except.bind_eq_ok.1 h
    cases h
    obtain ⟨hn, rfl⟩ := Phc.readDecimal_eq_ok.1 hread
    exact ⟨.cost (by simp) hn, .other (by decide), .written, .other (by decide), .other (by decide)⟩
  · next value =>
    obtain ⟨n, hread, h⟩ := Except.bind_eq_ok.1 h
    cases h
    obtain ⟨hn, rfl⟩ := Phc.readDecimal_eq_ok.1 hread
    exact ⟨.cost (by simp) hn, .other (by decide), .other (by decide), .written, .other (by decide)⟩
  · split at h
    · next name value _ _ _ hname =>
      subst hname
      obtain ⟨bytes, hread, h⟩ := Except.bind_eq_ok.1 h
      cases h
      obtain ⟨hbytes, rfl⟩ := Phc.decodeBytes_eq_ok.1 hread
      exact ⟨.keyIdentifier hbytes, .other (by decide), .other (by decide), .other (by decide),
        .other (by decide)⟩
    · split at h
      · next name value _ _ _ _ hname =>
        subst hname
        obtain ⟨bytes, hread, h⟩ := Except.bind_eq_ok.1 h
        cases h
        obtain ⟨hbytes, rfl⟩ := Phc.decodeBytes_eq_ok.1 hread
        exact ⟨.data hbytes, .other (by decide), .other (by decide), .other (by decide), .written⟩
      · cases h

theorem exists_take (h : IsKnown parameter) (absent : Stored) :
    ∃ s, absent.take parameter = .ok s := by
  cases h with
  | @cost letter n hletter hn =>
    have hread := Phc.readDecimal_eq_ok.2 ⟨hn, rfl⟩
    simp only [List.mem_cons, List.not_mem_nil, or_false] at hletter
    obtain rfl | rfl | rfl := hletter
    all_goals exact ⟨_, Except.bind_of_eq_ok hread _⟩
  | keyIdentifier hbytes =>
    exact ⟨_, Except.bind_of_eq_ok (Phc.decodeBytes_eq_ok.2 ⟨hbytes, rfl⟩) _⟩
  | data hbytes =>
    exact ⟨_, Except.bind_of_eq_ok (Phc.decodeBytes_eq_ok.2 ⟨hbytes, rfl⟩) _⟩

/-- **Taking parameters one by one** succeeds if all of them are known, and then the costs are those
that they state together: the last one of a name counts. -/
theorem foldlM_take : parameters.foldlM take absent = .ok s ↔
    (∀ p ∈ parameters, IsKnown p) ∧ s.StatedBy parameters absent := by
  induction parameters generalizing absent with
  | nil =>
    rw [List.foldlM_nil, statedBy_nil]
    exact ⟨fun h => ⟨nofun, (Except.ok.inj h).symm⟩, fun h => congrArg Except.ok h.2.symm⟩
  | cons parameter parameters ih =>
    rw [List.foldlM_cons, Except.bind_eq_ok]
    constructor
    · rintro ⟨s', hfirst, hrest⟩
      obtain ⟨hknown, hstated⟩ := statedBy_of_take hfirst
      obtain ⟨hall, hstated'⟩ := ih.1 hrest
      exact ⟨List.forall_mem_cons.2 ⟨hknown, hall⟩, hstated.cons hstated'⟩
    · -- What the first parameter states stands in for it in the rest, so the rest states the same.
      rintro ⟨hall, hstated⟩
      obtain ⟨hknown, hall⟩ := List.forall_mem_cons.1 hall
      obtain ⟨s', hfirst⟩ := exists_take hknown absent
      exact ⟨s', hfirst, ih.2 ⟨hall, hstated.of_cons (statedBy_of_take hfirst).2⟩⟩

end Stored

theorem IsKnown.isParameter (h : IsKnown parameter) : Phc.IsParameter parameter := by
  have hbytes : ∀ {bytes : List UInt8}, bytes.length ≤ 32 → Phc.IsValue (Phc.encodeBytes bytes) :=
    fun hlength => ⟨by rw [length_encodeBytes]; omega, fun _ hc => isValueChar_symbol hc⟩
  cases h with
  | @cost letter n hletter hn =>
    refine ⟨?_, Phc.isValue_toDigits hn⟩
    simp only [List.mem_cons, List.not_mem_nil, or_false] at hletter
    obtain rfl | rfl | rfl := hletter
    all_goals exact Phc.isName_iff.2 rfl
  | keyIdentifier hlength =>
    exact ⟨Phc.isName_iff.2 rfl, hbytes (Nat.le_trans hlength (by decide))⟩
  | data hlength =>
    exact ⟨Phc.isName_iff.2 rfl, hbytes hlength⟩

theorem Cost.checkCeiling_eq_ok {memory iterations parallelism : Nat} :
    Cost.checkCeiling memory iterations parallelism = .ok () ↔
      memory ≤ memoryCeiling ∧ iterations ≤ iterationsCeiling ∧
        parallelism ≤ parallelismCeiling := by
  unfold checkCeiling
  split_ifs <;> simp <;> omega

/-- The ranges of the key derivation. -/
theorem Cost.checkRange_eq_ok {memory iterations parallelism : Nat} {keyLength : Option Nat} :
    Cost.checkRange memory iterations parallelism keyLength = .ok () ↔
      8 * parallelism ≤ memory ∧ 1 ≤ iterations ∧ 1 ≤ parallelism ∧ parallelism ≤ 16777215 ∧
        ∀ length, keyLength = some length → 4 ≤ length ∧ length ≤ 4294967295 := by
  unfold checkRange laneMemory
  split_ifs
  case pos => exact iff_of_false nofun (by omega)
  case pos => exact iff_of_false nofun (by omega)
  case pos => exact iff_of_false nofun (by omega)
  case pos => exact iff_of_false nofun (by omega)
  case neg =>
    cases keyLength with
    | none => simp; omega
    | some length => dsimp only; split_ifs <;> simp <;> omega

/-- The costs of a PHC string are those that its parameters state, if they are all known and the
costs are in range. -/
theorem Stored.ofPhc_eq_ok {phc : Phc} {s : Stored} :
    Stored.ofPhc phc = .ok s ↔
      (∀ p ∈ phc.parameters, IsKnown p) ∧ s.StatedBy phc.parameters {} ∧
        Cost.checkRange s.memory s.iterations s.parallelism (phc.key.map List.length) = .ok () := by
  rw [ofPhc, Except.bind_eq_ok]
  constructor
  · rintro ⟨s', hfold, h⟩
    split at h
    · next hrange =>
      cases h
      obtain ⟨hknown, hstated⟩ := foldlM_take.1 hfold
      exact ⟨hknown, hstated, hrange⟩
    · cases h
  · rintro ⟨hknown, hstated, hrange⟩
    refine ⟨s, foldlM_take.2 ⟨hknown, hstated⟩, ?_⟩
    simp only [hrange]
    rfl

/-! ## Fields -/

namespace Challenge

variable {phc : Phc} {text : String} {v : Nat}

/-- A hash of another version is told by it, whatever else it says. -/
theorem fields_incompatible (h : phc.WellFormed) (halgorithm : phc.algorithm = algorithm)
    (hversion : phc.version = some v) (hv : v ≠ version) :
    fields (String.ofList phc.render) = .error (.incompatibleVersion v) := by
  have hparse := Phc.parse_eq_ok.2 ⟨h, rfl⟩
  rw [fields, String.toList_ofList, hparse, Except.mapError_ok, Except.ok_bind]
  simp only [halgorithm, ne_eq, not_true_eq_false, if_false, hversion, hv, not_false_eq_true,
    if_true]

theorem fields_render (h : phc.WellFormed) (halgorithm : phc.algorithm = algorithm)
    (hversion : phc.version = some version) : fields (String.ofList phc.render) = .ok phc := by
  have hparse := Phc.parse_eq_ok.2 ⟨h, rfl⟩
  rw [fields, String.toList_ofList, hparse, Except.mapError_ok, Except.ok_bind]
  simp only [halgorithm, ne_eq, not_true_eq_false, if_false, hversion]
  rfl

/-- **Reading the fields of a hash**, whatever its text: it is malformed, or it is well formed and
its version decides. -/
theorem fields_cases (text : String) :
    (∃ detail, fields text = .error (.malformedHash detail)) ∨
    ∃ (phc : Phc) (v : Nat), phc.WellFormed ∧ phc.algorithm = algorithm ∧ phc.version = some v ∧
      text = String.ofList phc.render := by
  generalize hof : fields text = result
  unfold fields at hof
  cases hparse : Phc.parse text.toList with
  | error fault =>
    rw [hparse] at hof
    exact .inl ⟨_, hof.symm⟩
  | ok phc =>
  obtain ⟨hphc, htext⟩ := Phc.parse_eq_ok.1 hparse
  rw [hparse, Except.mapError_ok, Except.ok_bind] at hof
  split at hof
  · exact .inl ⟨_, hof.symm⟩
  next halgorithm =>
  split at hof
  · exact .inl ⟨_, hof.symm⟩
  next v hversion =>
  exact .inr ⟨phc, v, hphc, Decidable.not_not.1 halgorithm, hversion,
    by rw [← htext, String.ofList_toList]⟩

theorem fields_eq_ok :
    fields text = .ok phc ↔ phc.WellFormed ∧ phc.algorithm = algorithm ∧
      phc.version = some version ∧ text = String.ofList phc.render := by
  constructor
  · intro h
    obtain ⟨detail, hmalformed⟩ | ⟨phc', v, hphc, halgorithm, hversion, rfl⟩ := fields_cases text
    · rw [hmalformed] at h
      cases h
    · by_cases hv : v = version
      · subst hv
        rw [fields_render hphc halgorithm hversion] at h
        cases h
        exact ⟨hphc, halgorithm, hversion, rfl⟩
      · rw [fields_incompatible hphc halgorithm hversion hv] at h
        cases h
  · rintro ⟨hphc, halgorithm, hversion, rfl⟩
    exact fields_render hphc halgorithm hversion

end Challenge

/-! ## Hashes that can be verified -/

namespace Challenge

variable {c : Challenge} {text : String}

/-- The fields of a hash that asks for a challenge, with the parameters that it states. -/
def phc (c : Challenge) (parameters : List (List Char × List Char)) : Phc :=
  ⟨algorithm, some version, parameters, some (Phc.encodeBytes c.salt), some c.key⟩

/-- A text from which a challenge is read: the name and the version of the key derivation,
parameters that state its costs, the salt and the key. Costs that the parameters leave out have the
values of `Stored`. -/
structure WrittenAs (c : Challenge) (text : String) (parameters : List (List Char × List Char)) :
    Prop where
  text_eq : text = String.ofList (c.phc parameters).render
  isKnown : ∀ p ∈ parameters, IsKnown p
  /-- The parameters fit into their field. -/
  length_le : (Phc.parameterField parameters).length ≤ 127
  stated : c.stored.StatedBy parameters {}
  memory : 8 * c.stored.parallelism ≤ c.stored.memory ∧ c.stored.memory ≤ Cost.memoryCeiling
  iterations : 1 ≤ c.stored.iterations ∧ c.stored.iterations ≤ Cost.iterationsCeiling
  parallelism : 1 ≤ c.stored.parallelism ∧ c.stored.parallelism ≤ Cost.parallelismCeiling
  /-- The written salt has 4 to 64 characters. -/
  salt : 3 ≤ c.salt.length ∧ c.salt.length ≤ 48
  key : minKeySize ≤ c.key.length ∧ c.key.length ≤ maxKeySize

theorem WrittenAs.wellFormed (h : c.WrittenAs text parameters) : (c.phc parameters).WellFormed where
  algorithm := Phc.isName_iff.2 rfl
  version := by
    rintro _ ⟨⟩
    decide
  tail :=
    { isSalt := by
        rintro _ ⟨⟩
        have hlength := length_encodeBytes c.salt
        have hsalt := h.salt
        exact ⟨by omega, by omega, fun _ hc => isValueChar_symbol hc⟩
      size := by
        rintro _ ⟨⟩
        exact h.key
      key_none := nofun
      isParameter := fun p hp => (h.isKnown p hp).isParameter
      length_le := h.length_le }
  unversioned := nofun

/-- **A hash that says what it has to** asks for what it states. -/
theorem ofText_of_writtenAs (h : c.WrittenAs text parameters) : ofText text = .ok c := by
  have hphc : fields text = .ok (c.phc parameters) :=
    fields_eq_ok.2 ⟨h.wellFormed, rfl, rfl, h.text_eq⟩
  have hrange : Cost.checkRange c.stored.memory c.stored.iterations c.stored.parallelism
      (some c.key.length) = .ok () := by
    have hlanes := h.parallelism
    have hkey := h.key
    simp only [Cost.parallelismCeiling, minKeySize, maxKeySize] at hlanes hkey
    refine Cost.checkRange_eq_ok.2 ⟨h.memory.1, h.iterations.1, hlanes.1, by omega, ?_⟩
    rintro _ ⟨⟩
    omega
  have hstored : Stored.ofPhc (c.phc parameters) = .ok c.stored :=
    Stored.ofPhc_eq_ok.2 ⟨h.isKnown, h.stated, hrange⟩
  have hceiling := Cost.checkCeiling_eq_ok.2 ⟨h.memory.2, h.iterations.2, h.parallelism.2⟩
  have hsalt := decodeBytes_encodeBytes (Nat.le_trans h.salt.2 (show 48 ≤ 64 by decide))
  rw [ofText, Except.bind_of_eq_ok hphc, hstored, Except.mapError_ok, Except.ok_bind]
  simp only [phc, hceiling, hsalt]
  rfl

/-- What passes the checks says what it has to. -/
theorem writtenAs_of_checks (hphc : (c.phc parameters).WellFormed)
    (hstored : Stored.ofPhc (c.phc parameters) = .ok c.stored)
    (hceiling :
      Cost.checkCeiling c.stored.memory c.stored.iterations c.stored.parallelism = .ok ()) :
    c.WrittenAs (String.ofList (c.phc parameters).render) parameters := by
  obtain ⟨hknown, hstated, hrange⟩ := Stored.ofPhc_eq_ok.1 hstored
  obtain ⟨hmemory, hiterations, hlanes, -, -⟩ := Cost.checkRange_eq_ok.1 hrange
  obtain ⟨hmemory', hiterations', hlanes'⟩ := Cost.checkCeiling_eq_ok.1 hceiling
  have hsalt := hphc.tail.isSalt _ rfl
  have hlength := length_encodeBytes c.salt
  have hshort := hsalt.le_length
  have hlong := hsalt.value.length_le
  exact {
    text_eq := rfl
    isKnown := hknown
    length_le := hphc.tail.length_le
    stated := hstated
    memory := ⟨hmemory, hmemory'⟩
    iterations := ⟨hiterations, hiterations'⟩
    parallelism := ⟨hlanes, hlanes'⟩
    salt := by omega
    key := hphc.tail.size _ rfl }

/-- A hash of another version is told by it. -/
theorem ofText_incompatible {phc : Phc} {v : Nat} (h : phc.WellFormed)
    (halgorithm : phc.algorithm = algorithm) (hversion : phc.version = some v) (hv : v ≠ version) :
    ofText (String.ofList phc.render) = .error (.incompatibleVersion v) := by
  rw [ofText, fields_incompatible h halgorithm hversion hv]
  rfl

/-- **Reading a hash**, whatever its text: it is malformed, or it is of another version, or it says
what it has to. -/
theorem ofText_cases (text : String) :
    (∃ detail, ofText text = .error (.malformedHash detail)) ∨
    (∃ (phc : Phc) (v : Nat), phc.WellFormed ∧ phc.algorithm = algorithm ∧ phc.version = some v ∧
      v ≠ version ∧ text = String.ofList phc.render) ∨
    ∃ (c : Challenge) (parameters : List (List Char × List Char)), c.WrittenAs text parameters := by
  obtain ⟨detail, hmalformed⟩ | ⟨phc, v, hphc, halgorithm, hversion, rfl⟩ := fields_cases text
  · exact .inl ⟨detail, by rw [ofText, hmalformed]; rfl⟩
  by_cases hv : v = version
  case neg => exact .inr (.inl ⟨phc, v, hphc, halgorithm, hversion, hv, rfl⟩)
  subst hv
  generalize hof : ofText (String.ofList phc.render) = result
  rw [ofText, Except.bind_of_eq_ok (fields_render hphc halgorithm hversion)] at hof
  -- The checks that are left, in their order. What fails is malformed.
  cases hstored : Stored.ofPhc phc with
  | error fault =>
    rw [hstored] at hof
    exact .inl ⟨_, hof.symm⟩
  | ok stored =>
  rw [hstored, Except.mapError_ok, Except.ok_bind] at hof
  split at hof
  · exact .inl ⟨_, hof.symm⟩
  next hceiling =>
  split at hof
  · exact .inl ⟨_, hof.symm⟩
  · exact .inl ⟨_, hof.symm⟩
  next field key hfield hkey =>
  cases hsalt : Phc.decodeBytes 64 field with
  | error fault =>
    rw [hsalt] at hof
    exact .inl ⟨_, hof.symm⟩
  | ok salt =>
  obtain ⟨-, rfl⟩ := Phc.decodeBytes_eq_ok.1 hsalt
  have hfields : phc = Challenge.phc ⟨stored, salt, key⟩ phc.parameters := by
    obtain ⟨_, _, parameters, _, _⟩ := phc
    cases halgorithm
    cases hversion
    cases hfield
    cases hkey
    rfl
  rw [hfields] at hphc hstored ⊢
  exact .inr (.inr ⟨_, _, writtenAs_of_checks hphc hstored hceiling⟩)

/-- A challenge is read exactly from its written forms. -/
theorem ofText_eq_ok : ofText text = .ok c ↔ ∃ parameters, c.WrittenAs text parameters := by
  constructor
  · intro h
    obtain ⟨detail, hmalformed⟩ | ⟨phc, v, hphc, halgorithm, hversion, hv, rfl⟩ |
      ⟨c', parameters, hwritten⟩ := ofText_cases text
    · rw [hmalformed] at h
      cases h
    · rw [ofText_incompatible hphc halgorithm hversion hv] at h
      cases h
    · rw [ofText_of_writtenAs hwritten] at h
      cases h
      exact ⟨parameters, hwritten⟩
  · rintro ⟨parameters, hwritten⟩
    exact ofText_of_writtenAs hwritten

/-- Another version is told of exactly the hashes that are well formed and have it. -/
theorem ofText_eq_incompatible {v : Nat} :
    ofText text = .error (.incompatibleVersion v) ↔
      ∃ phc : Phc, phc.WellFormed ∧ phc.algorithm = algorithm ∧ phc.version = some v ∧
        v ≠ version ∧ text = String.ofList phc.render := by
  constructor
  · intro h
    obtain ⟨detail, hmalformed⟩ | ⟨phc, v', hphc, halgorithm, hversion, hv, rfl⟩ |
      ⟨c, parameters, hwritten⟩ := ofText_cases text
    · rw [hmalformed] at h
      cases h
    · rw [ofText_incompatible hphc halgorithm hversion hv] at h
      cases h
      exact ⟨phc, hphc, halgorithm, hversion, hv, rfl⟩
    · rw [ofText_of_writtenAs hwritten] at h
      cases h
  · rintro ⟨phc, hphc, halgorithm, hversion, hv, rfl⟩
    exact ofText_incompatible hphc halgorithm hversion hv

end Challenge

/-! ## Overflows -/

/-- A hash whose lanes have no room in the product of which the least memory is made: `8 * 2^29` is
the first one with more than 32 bits. -/
def StatesOverflow (text : String) : Prop :=
  ∃ (phc : Phc) (s : Stored), phc.WellFormed ∧ phc.algorithm = "argon2id".toList ∧
    phc.version = some 19 ∧ text = String.ofList phc.render ∧ (∀ p ∈ phc.parameters, IsKnown p) ∧
    s.StatedBy phc.parameters {} ∧ 8 ≤ s.memory ∧ 536870912 ≤ s.parallelism

theorem overflows_eq_true {text : String} : overflows text = true ↔ StatesOverflow text := by
  have hcost : ∀ {s : Stored}, Cost.overflows s.memory s.parallelism = true ↔
      8 ≤ s.memory ∧ 536870912 ≤ s.parallelism := by
    intro s
    simp only [Cost.overflows, Bool.and_eq_true, decide_eq_true_eq]
    omega
  constructor
  · intro h
    unfold overflows at h
    split at h
    · cases h
    next phc hphc =>
    split at h
    · cases h
    next s hstated =>
    obtain ⟨hwellFormed, halgorithm, hversion, htext⟩ := Challenge.fields_eq_ok.1 hphc
    obtain ⟨hknown, hstated⟩ := Stored.foldlM_take.1 hstated
    exact ⟨phc, s, hwellFormed, halgorithm, hversion, htext, hknown, hstated, hcost.1 h⟩
  · rintro ⟨phc, s, hwellFormed, halgorithm, hversion, htext, hknown, hstated, h⟩
    have hphc := Challenge.fields_eq_ok.2 ⟨hwellFormed, halgorithm, hversion, htext⟩
    simp only [overflows, hphc, Stored.foldlM_take.2 ⟨hknown, hstated⟩]
    exact hcost.2 h

/-- A hash that can be verified does not overflow: it has few lanes. -/
theorem Challenge.WrittenAs.overflows_eq_false {c : Challenge} {text : String}
    (h : c.WrittenAs text parameters) : overflows text = false := by
  have hphc : Challenge.fields text = .ok (c.phc parameters) :=
    Challenge.fields_eq_ok.2 ⟨h.wellFormed, rfl, rfl, h.text_eq⟩
  have hlanes := h.parallelism.2
  simp only [Cost.parallelismCeiling] at hlanes
  simp only [overflows, hphc, Challenge.phc, Stored.foldlM_take.2 ⟨h.isKnown, h.stated⟩,
    Cost.overflows, Bool.and_eq_false_iff, decide_eq_false_iff_not]
  omega

end Accounts.Password

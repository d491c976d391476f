import Accounts.Password.Phc
import Accounts.Proofs.Except
import Accounts.Proofs.Number.Decimal
import Accounts.Proofs.Number.Numeral
import Accounts.Proofs.Text.Base64
import Accounts.Proofs.Text.Split
import Accounts.Proofs.Text.Utf8
import Mathlib.Tactic.SplitIfs

/-!
# The language of PHC strings

Which texts are read as PHC strings, and as what: the written forms of well-formed ones, each of
which is written in one way only. Names, values, numbers and bytes have one form each, so the reader
of the whole is taken apart field by field.

* `readDecimal_eq_ok`, `decodeBytes_eq_ok`, `readParameters_eq_ok` — the readers of single fields.
* `parse_eq_ok` — the reader of whole strings.
-/

namespace Accounts.Password

/-! ## Characters and lengths -/

theorem byteLength_eq {cs : List Char} (h : ∀ c ∈ cs, c.utf8Size = 1) :
    Text.byteLength cs = cs.length := by
  have hfold : ∀ start, cs.foldl (fun n c => n + c.utf8Size) start = start + cs.length := by
    induction cs with
    | nil => exact fun _ => rfl
    | cons c cs ih =>
      intro start
      rw [List.foldl_cons, ih fun d hd => h d (List.mem_cons_of_mem _ hd), h c List.mem_cons_self,
        List.length_cons]
      omega
  rw [Text.byteLength, hfold, Nat.zero_add]

theorem utf8Size_of_isValueChar {c : Char} (h : Phc.isValueChar c = true) : c.utf8Size = 1 := by
  rw [Char.utf8Size_eq_one_iff, UInt32.le_iff_toNat_le]
  simp only [Phc.isValueChar, Bool.or_eq_true, Bool.and_eq_true, decide_eq_true_eq, beq_iff_eq,
    Char.le_def, UInt32.le_iff_toNat_le] at h
  rcases h with ((((((h | h) | h) | rfl) | rfl) | rfl) | rfl)
  · exact Nat.le_trans h.2 (by decide)
  · exact Nat.le_trans h.2 (by decide)
  · exact Nat.le_trans h.2 (by decide)
  all_goals decide

theorem isValueChar_of_isNameChar {c : Char} (h : Phc.isNameChar c = true) :
    Phc.isValueChar c = true := by
  simp only [Phc.isNameChar, Phc.isValueChar, Bool.or_eq_true] at h ⊢
  rcases h with (h | h) | h
  · exact .inl (.inl (.inl (.inl (.inl (.inl h)))))
  · exact .inl (.inl (.inl (.inl (.inr h))))
  · exact .inr h

/-- A text of such characters has no separator in it. -/
theorem not_mem_of_isValueChar {cs : List Char} (h : ∀ c ∈ cs, Phc.isValueChar c = true)
    {separator : Char} (hs : Phc.isValueChar separator = false) : separator ∉ cs := by
  intro hmem
  rw [h separator hmem] at hs
  cases hs

theorem byteLength_of_isValueChar {cs : List Char} (h : ∀ c ∈ cs, Phc.isValueChar c = true) :
    Text.byteLength cs = cs.length :=
  byteLength_eq fun c hc => utf8Size_of_isValueChar (h c hc)

theorem isValueChar_digit {n : Nat} {c : Char} (h : c ∈ Nat.toDigits 10 n) :
    Phc.isValueChar c = true := by
  have hall : ∀ n < 58, 48 ≤ n → Phc.isValueChar (Char.ofNat n) = true := by decide
  obtain ⟨hlow, hhigh⟩ := Integer.toNat_of_isDigit (Integer.isDigit_of_mem_digits h)
  have hc := hall c.toNat (by omega) hlow
  rwa [Char.ofNat_toNat] at hc

theorem isValueChar_symbol {bytes : List UInt8} {c : Char} (h : c ∈ Phc.encodeBytes bytes) :
    Phc.isValueChar c = true := by
  have hall : ∀ v < 64,
      Phc.isValueChar (Char.ofNat (Base64.standard.symbol v).toNat) = true := by decide
  obtain ⟨b, hb, rfl⟩ := List.mem_map.1 h
  obtain ⟨v, hv, rfl⟩ := Base64.exists_symbol_of_mem_encode hb
  exact hall v hv

theorem length_encodeBytes (bytes : List UInt8) :
    (Phc.encodeBytes bytes).length = (4 * bytes.length + 2) / 3 := by
  rw [Phc.encodeBytes, List.length_map, Base64.length_encode]

theorem encode_encodeBytes (bytes : List UInt8) :
    Utf8.encode (String.ofList (Phc.encodeBytes bytes)) = Base64.encode Base64.standard bytes := by
  refine Utf8.encode_ascii fun b hb => ?_
  have hall : ∀ v < 64, Base64.standard.symbol v < 128 := by decide
  obtain ⟨v, hv, rfl⟩ := Base64.exists_symbol_of_mem_encode hb
  exact hall v hv

theorem decodeBytes_encodeBytes {bound : Nat} {bytes : List UInt8} (h : bytes.length ≤ bound) :
    Phc.decodeBytes bound (Phc.encodeBytes bytes) = .ok bytes := by
  have hlength := byteLength_of_isValueChar fun c (hc : c ∈ Phc.encodeBytes bytes) =>
    isValueChar_symbol hc
  rw [Phc.decodeBytes, hlength, length_encodeBytes, if_neg (by omega), encode_encodeBytes,
    Base64.decode_encode Base64.lawful_standard]

/-- Pieces that are joined are cut where they were joined. -/
theorem split_joined {separator : Char} {pieces : List (List Char)} (hne : pieces ≠ [])
    (h : ∀ piece ∈ pieces, separator ∉ piece) :
    Text.split separator (Phc.joined separator pieces) = pieces := by
  induction pieces with
  | nil => exact absurd rfl hne
  | cons piece pieces ih =>
    have hpiece := h piece List.mem_cons_self
    cases pieces with
    | nil => exact Text.split_of_not_mem hpiece
    | cons next pieces =>
      rw [Phc.joined, Text.split_append hpiece,
        ih (List.cons_ne_nil _ _) fun p hp => h p (List.mem_cons_of_mem _ hp)]
      exact List.cons_ne_nil _ _

/-- Joining is the inverse of cutting. -/
theorem joined_split (separator : Char) (cs : List Char) :
    Phc.joined separator (Text.split separator cs) = cs := by
  induction cs with
  | nil => rfl
  | cons c cs ih =>
    rw [Text.split]
    split
    · next hc =>
      obtain ⟨piece, pieces, hcut⟩ := List.exists_cons_of_ne_nil
        (Text.split_ne_nil separator cs)
      rw [hcut] at ih ⊢
      rw [Phc.joined, ih, hc, List.nil_append]
      exact List.cons_ne_nil _ _
    · split
      · next piece pieces hcut =>
        rw [hcut] at ih
        rw [← ih]
        cases pieces <;> rfl
      · next hcut => exact absurd hcut (Text.split_ne_nil _ _)

theorem checkKeySize_eq_ok {size : Nat} :
    checkKeySize size = .ok () ↔ minKeySize ≤ size ∧ size ≤ maxKeySize := by
  unfold checkKeySize
  split_ifs <;> simp <;> omega

namespace Phc

/-! ## Names, values, numbers, bytes -/

/-- The names of algorithms and parameters: 1 to 32 characters. -/
structure IsName (name : List Char) : Prop where
  ne_nil : name ≠ []
  length_le : name.length ≤ 32
  chars : ∀ c ∈ name, isNameChar c = true

/-- The values of parameters: at most 64 characters. -/
structure IsValue (value : List Char) : Prop where
  length_le : value.length ≤ 64
  chars : ∀ c ∈ value, isValueChar c = true

theorem IsName.isValueChar {name : List Char} (h : IsName name) :
    ∀ c ∈ name, isValueChar c = true :=
  fun c hc => isValueChar_of_isNameChar (h.chars c hc)

theorem readName_eq_ok {field name : List Char} :
    readName field = .ok name ↔ IsName name ∧ field = name := by
  unfold readName
  constructor
  · intro h
    split at h
    · cases h
    · next hfield =>
      cases h
      simp only [List.isEmpty_iff, not_or, Nat.not_lt, Decidable.not_not, List.all_eq_true]
        at hfield
      obtain ⟨hne, hlength, hchars⟩ := hfield
      rw [byteLength_of_isValueChar fun c hc => isValueChar_of_isNameChar (hchars c hc)] at hlength
      exact ⟨⟨hne, hlength, hchars⟩, rfl⟩
  · rintro ⟨hname, rfl⟩
    rw [if_neg]
    simp only [List.isEmpty_iff, not_or, Nat.not_lt, Decidable.not_not, List.all_eq_true]
    exact ⟨hname.ne_nil, byteLength_of_isValueChar hname.isValueChar ▸ hname.length_le, hname.chars⟩

theorem isName_iff {name : List Char} : IsName name ↔ readName name = .ok name :=
  ⟨fun h => readName_eq_ok.2 ⟨h, rfl⟩, fun h => (readName_eq_ok.1 h).1⟩

theorem checkCharacters_eq_ok {field : List Char} :
    checkCharacters field = .ok () ↔ ∀ c ∈ field, isValueChar c = true := by
  unfold checkCharacters
  split
  · next c hc =>
    have hbad := List.find?_some hc
    exact iff_of_false nofun fun h => by simp [h c (List.mem_of_find?_eq_some hc)] at hbad
  · next hnone =>
    refine iff_of_true rfl fun c hc => ?_
    simpa using List.find?_eq_none.1 hnone c hc

theorem readValue_eq_ok {field value : List Char} :
    readValue field = .ok value ↔ IsValue value ∧ field = value := by
  unfold readValue
  constructor
  · intro h
    split at h
    · cases h
    · next hlength =>
      split at h
      · next hchars =>
        cases h
        have hchars := checkCharacters_eq_ok.1 hchars
        rw [byteLength_of_isValueChar hchars] at hlength
        exact ⟨⟨Nat.not_lt.1 hlength, hchars⟩, rfl⟩
      · cases h
  · rintro ⟨hvalue, rfl⟩
    rw [byteLength_of_isValueChar hvalue.chars, if_neg (Nat.not_lt.2 hvalue.length_le),
      checkCharacters_eq_ok.2 hvalue.chars]

theorem readDecimal_toDigits {n : Nat} (hn : n ≤ Integer.maxUnsigned32) :
    Phc.readDecimal (Nat.toDigits 10 n) = .ok n := by
  obtain ⟨c, digits, hdigits, hzero⟩ := Integer.toDigits_eq_cons n
  have hparse := Integer.parseNat_toDigits hn
  have hfind : (c :: digits).find? (fun c => (Integer.digit? c).isNone) = none := by
    rw [List.find?_eq_none]
    intro d hd
    rw [Integer.digit?_of_isDigit (Integer.isDigit_of_mem_digits (hdigits ▸ hd))]
    simp
  have hlead : ¬ (c = '0' ∧ ¬ digits.isEmpty) := fun h => h.2 (by rw [(hzero h.1).2]; rfl)
  rw [hdigits] at hparse ⊢
  simp only [Phc.readDecimal, hfind, if_neg hlead, hparse]

/-- **A number** is read from its digits, without leading zeros, and from nothing else. -/
theorem readDecimal_eq_ok {value : List Char} {n : Nat} :
    readDecimal value = .ok n ↔ n ≤ Integer.maxUnsigned32 ∧ value = Nat.toDigits 10 n := by
  constructor
  · intro h
    unfold readDecimal at h
    split at h
    · cases h
    · next first rest =>
      split at h
      · cases h
      · next hnone =>
        split at h
        · cases h
        · next hlead =>
          split at h
          · next m hread =>
            cases h
            have hdigits : ∀ c ∈ first :: rest, c.isDigit = true := fun c hc => by
              have hdigit := List.find?_eq_none.1 hnone c hc
              rw [Bool.not_eq_true, Option.isNone_eq_false_iff] at hdigit
              exact Integer.isDigit_of_digit? hdigit
            have hvalue := (Integer.Numeral.digits (List.cons_ne_nil first rest)
              hdigits).eq_of_parseNat hread
            have hfirst : first = '0' → rest = [] := fun hzero => by
              simpa [hzero] using hlead
            refine ⟨Integer.le_of_parseNat hread, ?_⟩
            rw [Int.ofNat_inj.1 hvalue, Integer.toDigits_ofDigitChars hdigits hfirst]
          · cases h
  · rintro ⟨hn, rfl⟩
    exact readDecimal_toDigits hn

/-- **Bytes** are read from their one written form. -/
theorem decodeBytes_eq_ok {bound : Nat} {text : List Char} {bytes : List UInt8} :
    decodeBytes bound text = .ok bytes ↔ bytes.length ≤ bound ∧ text = encodeBytes bytes := by
  constructor
  · intro h
    unfold decodeBytes at h
    split at h
    · cases h
    · next hbound =>
      split at h
      · next read hread =>
        cases h
        have hbytes := (Base64.decode_eq_ok Base64.lawful_standard Base64.faithful_standard).1 hread
        rw [← encode_encodeBytes] at hbytes
        have htext : text = encodeBytes bytes :=
          String.ofList_injective (Utf8.encode_inj.1 hbytes)
        rw [htext, byteLength_of_isValueChar fun c hc => isValueChar_symbol hc,
          length_encodeBytes] at hbound
        exact ⟨by omega, htext⟩
      · cases h
  · rintro ⟨hbound, rfl⟩
    exact decodeBytes_encodeBytes hbound

/-! ## Parameters -/

/-- A parameter that can be written. -/
structure IsParameter (parameter : List Char × List Char) : Prop where
  name : IsName parameter.1
  value : IsValue parameter.2

theorem IsParameter.equals_not_mem {parameter : List Char × List Char} (h : IsParameter parameter) :
    '=' ∉ parameter.1 ∧ '=' ∉ parameter.2 :=
  ⟨not_mem_of_isValueChar h.name.isValueChar rfl, not_mem_of_isValueChar h.value.chars rfl⟩

theorem IsParameter.mem_render {parameter : List Char × List Char} (h : IsParameter parameter)
    {c : Char} (hc : c ∈ renderParameter parameter) : c = '=' ∨ isValueChar c = true := by
  rw [renderParameter, List.mem_append, List.mem_cons] at hc
  obtain hc | hc | hc := hc
  · exact .inr (h.name.isValueChar c hc)
  · exact .inl hc
  · exact .inr (h.value.chars c hc)

/-- Name and value of a parameter are told apart by the first equals sign. -/
theorem renderParameter_inj {p q : List Char × List Char} (hp : '=' ∉ p.1) (hq : '=' ∉ q.1)
    (h : renderParameter p = renderParameter q) : p = q := by
  have hread : Text.splitFirst '=' (renderParameter p) = some p :=
    Text.splitFirst_eq_some.2 ⟨rfl, hp⟩
  have hread' : Text.splitFirst '=' (renderParameter q) = some q :=
    Text.splitFirst_eq_some.2 ⟨rfl, hq⟩
  rw [h, hread'] at hread
  exact (Option.some.inj hread).symm

theorem readParameter_eq_ok {pair : List Char} {parameter : List Char × List Char} :
    readParameter pair = .ok parameter ↔
      IsParameter parameter ∧ pair = renderParameter parameter := by
  obtain ⟨name, value⟩ := parameter
  constructor
  · intro h
    unfold readParameter at h
    split at h
    · next first rest hsplit =>
      obtain ⟨_, hname, h⟩ := Except.bind_eq_ok.1 h
      obtain ⟨hname, rfl⟩ := readName_eq_ok.1 hname
      split at h
      · cases h
      · next second more =>
        obtain ⟨_, hvalue, h⟩ := Except.bind_eq_ok.1 h
        obtain ⟨hvalue, rfl⟩ := readValue_eq_ok.1 hvalue
        split at h
        · next hmore =>
          cases h
          rw [List.isEmpty_iff.1 hmore] at hsplit
          exact ⟨⟨hname, hvalue⟩, by rw [← joined_split '=' pair, hsplit]; rfl⟩
        · cases h
    · cases h
  · rintro ⟨h, rfl⟩
    obtain ⟨hname, hvalue⟩ := h.equals_not_mem
    rw [readParameter, renderParameter, Text.split_append hname, Text.split_of_not_mem hvalue]
    simp only [readName_eq_ok.2 ⟨h.name, rfl⟩, readValue_eq_ok.2 ⟨h.value, rfl⟩, Except.ok_bind]
    rfl

theorem mapM_readParameter {pieces : List (List Char)} {parameters : List (List Char × List Char)} :
    pieces.mapM readParameter = .ok parameters ↔
      (∀ p ∈ parameters, IsParameter p) ∧ pieces = parameters.map renderParameter := by
  induction pieces generalizing parameters with
  | nil =>
    rw [List.mapM_nil]
    constructor
    · intro h
      cases h
      exact ⟨nofun, rfl⟩
    · rintro ⟨-, h⟩
      rw [List.map_eq_nil_iff.1 h.symm]
      rfl
  | cons piece pieces ih =>
    rw [List.mapM_cons]
    constructor
    · intro h
      obtain ⟨first, hfirst, h⟩ := Except.bind_eq_ok.1 h
      obtain ⟨rest, hrest, h⟩ := Except.bind_eq_ok.1 h
      cases h
      obtain ⟨hparameter, rfl⟩ := readParameter_eq_ok.1 hfirst
      obtain ⟨hparameters, rfl⟩ := ih.1 hrest
      exact ⟨List.forall_mem_cons.2 ⟨hparameter, hparameters⟩, rfl⟩
    · rintro ⟨hall, hpieces⟩
      cases parameters with
      | nil => cases hpieces
      | cons first rest =>
        obtain ⟨hfirst, hrest⟩ := List.forall_mem_cons.1 hall
        obtain ⟨rfl, htail⟩ := List.cons.inj hpieces
        rw [readParameter_eq_ok.2 ⟨hfirst, rfl⟩, Except.ok_bind, ih.2 ⟨hrest, htail⟩]
        rfl

def parameterField (parameters : List (List Char × List Char)) : List Char :=
  joined ',' (parameters.map renderParameter)

theorem mem_joined {separator c : Char} {pieces : List (List Char)}
    (h : c ∈ joined separator pieces) : c = separator ∨ ∃ piece ∈ pieces, c ∈ piece := by
  induction pieces with
  | nil => cases h
  | cons piece pieces ih =>
    cases pieces with
    | nil => exact .inr ⟨piece, List.mem_cons_self, h⟩
    | cons next pieces =>
      rw [joined, List.mem_append, List.mem_cons] at h
      · obtain h | h | h := h
        · exact .inr ⟨piece, List.mem_cons_self, h⟩
        · exact .inl h
        · obtain h | ⟨piece', hmem, h⟩ := ih h
          · exact .inl h
          · exact .inr ⟨piece', List.mem_cons_of_mem _ hmem, h⟩
      · exact List.cons_ne_nil _ _

theorem mem_parameterField {parameters : List (List Char × List Char)}
    (h : ∀ p ∈ parameters, IsParameter p) {c : Char} (hc : c ∈ parameterField parameters) :
    c = ',' ∨ c = '=' ∨ isValueChar c = true := by
  refine (mem_joined hc).imp_right ?_
  rintro ⟨piece, hpiece, hc⟩
  obtain ⟨parameter, hparameter, rfl⟩ := List.mem_map.1 hpiece
  exact (h parameter hparameter).mem_render hc

theorem byteLength_parameterField {parameters : List (List Char × List Char)}
    (h : ∀ p ∈ parameters, IsParameter p) :
    Text.byteLength (parameterField parameters) = (parameterField parameters).length := by
  refine byteLength_eq fun c hc => ?_
  obtain rfl | rfl | hc := mem_parameterField h hc
  · decide
  · decide
  · exact utf8Size_of_isValueChar hc

theorem split_parameterField {parameters : List (List Char × List Char)} (hne : parameters ≠ [])
    (h : ∀ p ∈ parameters, IsParameter p) :
    Text.split ',' (parameterField parameters) = parameters.map renderParameter := by
  refine split_joined (List.map_eq_nil_iff.not.2 hne) ?_
  intro piece hpiece hcomma
  obtain ⟨parameter, hparameter, rfl⟩ := List.mem_map.1 hpiece
  obtain h | h := (h parameter hparameter).mem_render hcomma
  · exact absurd h (by decide)
  · exact absurd h (by decide)

theorem readParameters_eq_ok {field : List Char} {parameters : List (List Char × List Char)} :
    readParameters field = .ok parameters ↔
      parameters ≠ [] ∧ (∀ p ∈ parameters, IsParameter p) ∧ field.length ≤ 127 ∧
        field = parameterField parameters := by
  unfold readParameters
  constructor
  · intro h
    split at h
    · cases h
    · next hsize =>
      obtain ⟨hall, hsplit⟩ := mapM_readParameter.1 h
      have hfield : field = parameterField parameters := by
        rw [parameterField, ← hsplit, joined_split]
      rw [hfield, byteLength_parameterField hall, ← hfield] at hsize
      refine ⟨?_, hall, Nat.not_lt.1 hsize, hfield⟩
      rintro rfl
      exact Text.split_ne_nil _ _ hsplit
  · rintro ⟨hne, hall, hsize, rfl⟩
    rw [byteLength_parameterField hall, if_neg (Nat.not_lt.2 hsize), split_parameterField hne hall]
    exact mapM_readParameter.2 ⟨hall, rfl⟩

/-! ## Salt and key -/

/-- The texts of salts: 4 to 64 characters. -/
structure IsSalt (salt : List Char) : Prop where
  le_length : 4 ≤ salt.length
  value : IsValue salt

theorem readSalt_eq_ok {field salt : List Char} :
    readSalt field = .ok salt ↔ IsSalt salt ∧ field = salt := by
  unfold readSalt
  constructor
  · intro h
    dsimp only at h
    split at h
    · cases h
    next hshort =>
    split at h
    · cases h
    next hlong =>
    split at h
    · next hchars =>
      cases h
      have hchars := checkCharacters_eq_ok.1 hchars
      rw [byteLength_of_isValueChar hchars] at hshort hlong
      exact ⟨⟨Nat.not_lt.1 hshort, Nat.not_lt.1 hlong, hchars⟩, rfl⟩
    · cases h
  · rintro ⟨hsalt, rfl⟩
    simp only [byteLength_of_isValueChar hsalt.value.chars, if_neg (Nat.not_lt.2 hsalt.le_length),
      if_neg (Nat.not_lt.2 hsalt.value.length_le), checkCharacters_eq_ok.2 hsalt.value.chars]

theorem readKey_eq_ok {field : List Char} {key : List UInt8} :
    readKey field = .ok key ↔
      (minKeySize ≤ key.length ∧ key.length ≤ maxKeySize) ∧ field = encodeBytes key := by
  rw [readKey, Except.bind_eq_ok]
  constructor
  · rintro ⟨bytes, hbytes, h⟩
    split at h
    · next hsize =>
      cases h
      exact ⟨checkKeySize_eq_ok.1 hsize, (decodeBytes_eq_ok.1 hbytes).2⟩
    · cases h
  · rintro ⟨hsize, rfl⟩
    exact ⟨key, decodeBytes_encodeBytes hsize.2, by rw [checkKeySize_eq_ok.2 hsize]; rfl⟩

def secretFields (salt : Option (List Char)) (key : Option (List UInt8)) : List (List Char) :=
  salt.toList ++ key.toList.map encodeBytes

/-- A salt and a key, of which the key may be missing, or both. -/
structure IsSecrets (salt : Option (List Char)) (key : Option (List UInt8)) : Prop where
  isSalt : ∀ s, salt = some s → IsSalt s
  size : ∀ k, key = some k → minKeySize ≤ k.length ∧ k.length ≤ maxKeySize
  key_none : salt = none → key = none

theorem readSecrets_eq_ok {fields : List (List Char)} {salt : Option (List Char)}
    {key : Option (List UInt8)} :
    readSecrets fields = .ok (salt, key) ↔
      IsSecrets salt key ∧ fields = secretFields salt key := by
  constructor
  · intro h
    unfold readSecrets at h
    split at h
    · cases h
      exact ⟨⟨nofun, nofun, fun _ => rfl⟩, rfl⟩
    · next field =>
      obtain ⟨s, hs, h⟩ := Except.bind_eq_ok.1 h
      cases h
      obtain ⟨hsalt, rfl⟩ := readSalt_eq_ok.1 hs
      exact ⟨⟨by rintro _ ⟨⟩; exact hsalt, nofun, nofun⟩, rfl⟩
    · next first second more =>
      obtain ⟨s, hs, h⟩ := Except.bind_eq_ok.1 h
      obtain ⟨k, hk, h⟩ := Except.bind_eq_ok.1 h
      split at h
      · next hmore =>
        cases h
        obtain ⟨hsalt, rfl⟩ := readSalt_eq_ok.1 hs
        obtain ⟨hkey, rfl⟩ := readKey_eq_ok.1 hk
        rw [List.isEmpty_iff.1 hmore]
        exact ⟨⟨by rintro _ ⟨⟩; exact hsalt, by rintro _ ⟨⟩; exact hkey, nofun⟩, rfl⟩
      · cases h
  · rintro ⟨h, rfl⟩
    cases salt with
    | none =>
      rw [h.key_none rfl]
      rfl
    | some s =>
      have hs := readSalt_eq_ok.2 ⟨h.isSalt s rfl, rfl⟩
      cases key with
      | none => simp [secretFields, readSecrets, hs, Except.ok_bind, pure, Except.pure]
      | some k =>
        have hk := readKey_eq_ok.2 ⟨h.size k rfl, rfl⟩
        simp [secretFields, readSecrets, hs, hk, Except.ok_bind, pure, Except.pure]

/-- A salt has no equals sign. -/
theorem IsSecrets.not_equals {salt : Option (List Char)} {key : Option (List UInt8)}
    (h : IsSecrets salt key) {field : List Char}
    (hfield : (secretFields salt key).head? = some field) : '=' ∉ field := by
  cases salt with
  | none =>
    rw [h.key_none rfl] at hfield
    cases hfield
  | some s =>
    cases hfield
    exact not_mem_of_isValueChar (h.isSalt _ rfl).value.chars rfl

/-! ## Behind the version -/

/-- Parameters, a salt and a key, which can all be missing. -/
structure IsTail (parameters : List (List Char × List Char)) (salt : Option (List Char))
    (key : Option (List UInt8)) : Prop extends IsSecrets salt key where
  isParameter : ∀ p ∈ parameters, IsParameter p
  length_le : (parameterField parameters).length ≤ 127

/-- The fields behind the version. -/
def tailFields (parameters : List (List Char × List Char)) (salt : Option (List Char))
    (key : Option (List UInt8)) : List (List Char) :=
  if parameters = [] then secretFields salt key
  else parameterField parameters :: secretFields salt key

theorem equals_mem_parameterField {parameters : List (List Char × List Char)}
    (hne : parameters ≠ []) : '=' ∈ parameterField parameters := by
  obtain ⟨⟨name, value⟩, rest, rfl⟩ := List.exists_cons_of_ne_nil hne
  cases rest <;> simp [parameterField, joined, renderParameter]

/-- A first field with an equals sign is one of parameters. -/
theorem readTail_parameters {algorithm field : List Char} {version : Option Nat}
    {rest : List (List Char)} (h : '=' ∈ field) :
    readTail algorithm version (field :: rest) = (do
      let parameters ← readParameters field
      let secrets ← readSecrets rest
      pure ⟨algorithm, version, parameters, secrets.1, secrets.2⟩) := by
  simp only [readTail, List.contains_iff_mem.2 h, if_true]
  cases readParameters field <;> rfl

/-- Any other first field is the salt. -/
theorem readTail_secrets {algorithm : List Char} {version : Option Nat} {fields : List (List Char)}
    (h : ∀ field, fields.head? = some field → '=' ∉ field) :
    readTail algorithm version fields = (do
      let secrets ← readSecrets fields
      pure ⟨algorithm, version, [], secrets.1, secrets.2⟩) := by
  cases fields with
  | nil => rfl
  | cons field rest =>
    simp only [readTail, List.contains_iff_mem, if_neg (h field rfl)]
    rfl

theorem readTail_eq_ok {algorithm : List Char} {version : Option Nat} {fields : List (List Char)}
    {phc : Phc} :
    readTail algorithm version fields = .ok phc ↔
      phc.algorithm = algorithm ∧ phc.version = version ∧
      IsTail phc.parameters phc.salt phc.key ∧
      fields = tailFields phc.parameters phc.salt phc.key := by
  constructor
  · intro h
    by_cases hfirst : ∃ field rest, fields = field :: rest ∧ '=' ∈ field
    · obtain ⟨field, rest, rfl, hequals⟩ := hfirst
      rw [readTail_parameters hequals] at h
      obtain ⟨parameters, hparameters, h⟩ := Except.bind_eq_ok.1 h
      obtain ⟨⟨salt, key⟩, hsecrets, h⟩ := Except.bind_eq_ok.1 h
      cases h
      obtain ⟨hne, hall, hsize, rfl⟩ := readParameters_eq_ok.1 hparameters
      obtain ⟨hpair, rfl⟩ := readSecrets_eq_ok.1 hsecrets
      exact ⟨rfl, rfl, ⟨hpair, hall, hsize⟩, (if_neg hne).symm⟩
    · have hplain : ∀ field, fields.head? = some field → '=' ∉ field := by
        intro field hhead hequals
        obtain ⟨rest, rfl⟩ := List.head?_eq_some_iff.1 hhead
        exact hfirst ⟨field, rest, rfl, hequals⟩
      rw [readTail_secrets hplain] at h
      obtain ⟨⟨salt, key⟩, hsecrets, h⟩ := Except.bind_eq_ok.1 h
      cases h
      obtain ⟨hpair, rfl⟩ := readSecrets_eq_ok.1 hsecrets
      exact ⟨rfl, rfl, ⟨hpair, nofun, Nat.zero_le 127⟩, rfl⟩
  · obtain ⟨algorithm', version', parameters, salt, key⟩ := phc
    rintro ⟨rfl, rfl, h, rfl⟩
    have hsecrets := readSecrets_eq_ok.2 ⟨h.toIsSecrets, rfl⟩
    by_cases hne : parameters = []
    · subst hne
      rw [tailFields, if_pos rfl, readTail_secrets fun _ => h.toIsSecrets.not_equals,
        Except.bind_of_eq_ok hsecrets]
      rfl
    · have hread := readParameters_eq_ok.2 ⟨hne, h.isParameter, h.length_le, rfl⟩
      rw [tailFields, if_neg hne, readTail_parameters (equals_mem_parameterField hne),
        Except.bind_of_eq_ok hread, Except.bind_of_eq_ok hsecrets]
      rfl

/-! ## Whole strings -/

/-- What is in the fields of a PHC string can be written. Without a version, a single parameter of
the name `v` would be taken for one. -/
structure WellFormed (phc : Phc) : Prop where
  algorithm : IsName phc.algorithm
  version : ∀ v, phc.version = some v → v ≤ Integer.maxUnsigned32
  tail : IsTail phc.parameters phc.salt phc.key
  unversioned : phc.version = none → ∀ value, phc.parameters ≠ [(['v'], value)]

/-- The fields from the version on. -/
def laterFields (phc : Phc) : List (List Char) :=
  (phc.version.toList.map fun v => 'v' :: '=' :: Nat.toDigits 10 v) ++
    tailFields phc.parameters phc.salt phc.key

/-- A parameter of the name `v` alone looks like a version. -/
theorem versionField_of_tail {parameters : List (List Char × List Char)} {salt : Option (List Char)}
    {key : Option (List UInt8)} (h : IsTail parameters salt key) {value : List Char}
    {rest : List (List Char)} (hfields : ('v' :: '=' :: value) :: rest =
      tailFields parameters salt key) (hcomma : ',' ∉ value) : parameters = [(['v'], value)] := by
  have hequals : '=' ∈ 'v' :: '=' :: value := List.mem_cons_of_mem _ List.mem_cons_self
  unfold tailFields at hfields
  split at hfields
  · exact absurd hequals (h.toIsSecrets.not_equals (hfields ▸ rfl))
  · next hne =>
    obtain ⟨hfield, -⟩ := List.cons.inj hfields
    have hsplit := split_parameterField hne h.isParameter
    rw [← hfield, Text.split_of_not_mem (by simp [hcomma])] at hsplit
    obtain ⟨parameter, rfl, hrender⟩ := List.map_eq_singleton_iff.1 hsplit.symm
    have hname := (h.isParameter _ List.mem_cons_self).equals_not_mem.1
    have hletter : '=' ∉ ['v'] := by decide
    rw [renderParameter_inj (q := (['v'], value)) hname hletter hrender]

theorem isValue_toDigits {n : Nat} (h : n ≤ Integer.maxUnsigned32) :
    IsValue (Nat.toDigits 10 n) where
  length_le := Nat.le_trans ((Nat.length_toDigits_le_iff (k := 10) (by decide) (by decide)).2
    (Nat.lt_of_le_of_lt h (by decide))) (by decide)
  chars _ hc := isValueChar_digit hc

/-- What is read without a version is well formed, unless its parameters look like one. -/
theorem wellFormed_of_readTail {algorithm : List Char} {fields : List (List Char)} {phc : Phc}
    (hname : IsName algorithm) (h : readTail algorithm none fields = .ok phc)
    (hv : ∀ value, phc.parameters ≠ [(['v'], value)]) :
    phc.WellFormed ∧ phc.algorithm = algorithm ∧ fields = phc.laterFields := by
  obtain ⟨rfl, hversion, htail, hfields⟩ := readTail_eq_ok.1 h
  refine ⟨⟨hname, by simp [hversion], htail, fun _ => hv⟩, rfl, ?_⟩
  rw [laterFields, hversion]
  exact hfields

theorem readFields_eq_ok {algorithm : List Char} {fields : List (List Char)} {phc : Phc}
    (hname : IsName algorithm) :
    readFields algorithm fields = .ok phc ↔
      phc.WellFormed ∧ phc.algorithm = algorithm ∧ fields = phc.laterFields := by
  constructor
  · intro h
    unfold readFields at h
    split at h
    · next value rest =>
      split at h
      · next hcomma =>
        -- With a comma the field holds several parameters, of which the first has the name `v`.
        refine wellFormed_of_readTail hname h fun v hv => ?_
        obtain ⟨-, -, htail, hfields⟩ := readTail_eq_ok.1 h
        rw [hv] at hfields htail
        obtain ⟨hfield, -⟩ := List.cons.inj hfields
        have hvalue : value = v := List.cons.inj (List.cons.inj hfield).2 |>.2
        have hchars := (htail.isParameter _ List.mem_cons_self).value.chars
        exact not_mem_of_isValueChar hchars rfl (hvalue ▸ List.contains_iff_mem.1 hcomma)
      · obtain ⟨digits, hdigits, h⟩ := Except.bind_eq_ok.1 h
        obtain ⟨v, hv, h⟩ := Except.bind_eq_ok.1 h
        obtain ⟨rfl, hversion, htail, rfl⟩ := readTail_eq_ok.1 h
        obtain ⟨-, rfl⟩ := readValue_eq_ok.1 hdigits
        obtain ⟨hbound, rfl⟩ := readDecimal_eq_ok.1 hv
        refine ⟨⟨hname, ?_, htail, by simp [hversion]⟩, rfl, by rw [laterFields, hversion]; rfl⟩
        intro m hm
        rw [hversion] at hm
        cases hm
        exact hbound
    · next hno =>
      refine wellFormed_of_readTail hname h fun v hv => ?_
      obtain ⟨-, -, -, hfields⟩ := readTail_eq_ok.1 h
      rw [hv] at hfields
      exact hno v _ hfields
  · rintro ⟨h, rfl, rfl⟩
    cases hversion : phc.version with
    | none =>
      have hread := readTail_eq_ok.2 ⟨rfl, hversion, h.tail, rfl⟩
      rw [laterFields, hversion]
      show readFields _ (tailFields _ _ _) = _
      unfold readFields
      split
      · next value rest hfields =>
        rw [if_pos, hread]
        refine List.contains_iff_mem.2 (Decidable.byContradiction fun hcomma => ?_)
        exact h.unversioned hversion _ (versionField_of_tail h.tail hfields.symm hcomma)
      · exact hread
    | some v =>
      have hbound := h.version v hversion
      have hread := readTail_eq_ok.2 ⟨rfl, hversion, h.tail, rfl⟩
      have hcomma : ¬ (Nat.toDigits 10 v).contains ',' = true := fun hcomma =>
        Integer.not_mem_digits rfl (List.contains_iff_mem.1 hcomma)
      rw [laterFields, hversion]
      show readFields _ (('v' :: '=' :: Nat.toDigits 10 v) :: tailFields _ _ _) = _
      rw [readFields, if_neg hcomma, readValue_eq_ok.2 ⟨isValue_toDigits hbound, rfl⟩,
        Except.ok_bind, readDecimal_toDigits hbound, Except.ok_bind, hread]

/-- All fields between the dollar signs, the empty one before the first included. -/
def fields (phc : Phc) : List (List Char) := [] :: phc.algorithm :: phc.laterFields

theorem joined_cons (separator : Char) (piece : List Char) (pieces : List (List Char)) :
    joined separator (piece :: pieces) = piece ++ pieces.flatMap (separator :: ·) := by
  induction pieces generalizing piece with
  | nil => rw [joined, List.flatMap_nil, List.append_nil]
  | cons next pieces ih =>
    rw [joined, ih, List.flatMap_cons, List.cons_append]
    exact List.cons_ne_nil _ _

theorem render_eq_joined (phc : Phc) : phc.render = joined '$' phc.fields := by
  obtain ⟨algorithm, version, parameters, salt, key⟩ := phc
  rw [fields, joined_cons, List.flatMap_cons, laterFields, List.flatMap_append]
  cases version <;> cases parameters <;> cases salt <;> cases key <;>
    simp [render, tailFields, secretFields, parameterField]

theorem dollar_not_mem_fields {phc : Phc} (h : phc.WellFormed) :
    ∀ field ∈ phc.fields, '$' ∉ field := by
  have hsecrets : ∀ field ∈ secretFields phc.salt phc.key, '$' ∉ field := by
    intro field hfield hdollar
    simp only [secretFields, List.mem_append, Option.mem_toList, List.mem_map] at hfield
    obtain hsalt | ⟨key, -, rfl⟩ := hfield
    · exact not_mem_of_isValueChar (h.tail.isSalt field hsalt).value.chars rfl hdollar
    · exact absurd (isValueChar_symbol hdollar) (by decide)
  have htail : ∀ field ∈ tailFields phc.parameters phc.salt phc.key, '$' ∉ field := by
    intro field hfield
    unfold tailFields at hfield
    split at hfield
    · exact hsecrets field hfield
    · obtain rfl | hfield := List.mem_cons.1 hfield
      · intro hdollar
        obtain hc | hc | hc := mem_parameterField h.tail.isParameter hdollar
        all_goals exact absurd hc (by decide)
      · exact hsecrets field hfield
  intro field hfield
  simp only [fields, laterFields, List.mem_cons, List.mem_append, List.mem_map] at hfield
  obtain rfl | rfl | ⟨v, -, rfl⟩ | hfield := hfield
  · exact List.not_mem_nil
  · exact not_mem_of_isValueChar h.algorithm.isValueChar rfl
  · simpa using Integer.not_mem_digits (n := v) (d := '$') rfl
  · exact htail field hfield

/-- The fields of a PHC string are told apart by the dollar signs. -/
theorem split_render {phc : Phc} (h : phc.WellFormed) : Text.split '$' phc.render = phc.fields := by
  rw [render_eq_joined]
  exact split_joined (List.cons_ne_nil _ _) (dollar_not_mem_fields h)

/-- **The reader of PHC strings** reads the written forms of well-formed ones, and nothing else. -/
theorem parse_eq_ok {text : List Char} {phc : Phc} :
    parse text = .ok phc ↔ phc.WellFormed ∧ text = phc.render := by
  constructor
  · intro h
    unfold parse at h
    split at h
    · next algorithm fields hsplit =>
      obtain ⟨_, hname, h⟩ := Except.bind_eq_ok.1 h
      obtain ⟨hname, rfl⟩ := readName_eq_ok.1 hname
      obtain ⟨hphc, rfl, rfl⟩ := (readFields_eq_ok hname).1 h
      refine ⟨hphc, ?_⟩
      rw [render_eq_joined, fields, ← hsplit, joined_split]
    · cases h
  · rintro ⟨h, rfl⟩
    rw [parse, split_render h]
    simp only [fields, readName_eq_ok.2 ⟨h.algorithm, rfl⟩, Except.ok_bind]
    exact (readFields_eq_ok h.algorithm).2 ⟨h, rfl, rfl⟩

end Phc

end Accounts.Password

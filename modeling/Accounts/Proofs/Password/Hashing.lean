import Accounts.Proofs.Password.RoundTrip

/-!
# Which hashers can hash

A hasher is made from costs that are checked once, and hashes passwords later. The two stages do not
agree on the length of a key: the key derivation makes keys of four bytes and more, a stored hash
holds ten to sixty-four.

* `Hasher.exists_ofCost_iff` — the costs of which a hasher is made.
* `hash_iff_keyLength` — the hashers that can hash.
-/

namespace Accounts.Password

variable {cost : Cost} {h : Hasher} {salt : Salt} {password : String}

/-- Costs of which a hasher is made. -/
structure Cost.Acceptable (cost : Cost) : Prop where
  memory : 8 * cost.parallelism ≤ cost.memory ∧ cost.memory ≤ 1048576
  iterations : 1 ≤ cost.iterations ∧ cost.iterations ≤ 64
  parallelism : 1 ≤ cost.parallelism ∧ cost.parallelism ≤ 16
  keyLength : 4 ≤ cost.keyLength ∧ cost.keyLength ≤ 4294967295

namespace Hasher

/-- A hasher is made of acceptable costs, and of no others. -/
theorem exists_ofCost_iff : (∃ h, ofCost cost = .ok h) ↔ cost.Acceptable := by
  simp only [ofCost_eq_ok, Cost.checkRange_eq_ok, Cost.checkCeiling_eq_ok, Option.some.injEq,
    forall_eq']
  constructor
  · rintro ⟨_, ⟨hmemory, hiterations, hlanes, -, hkey⟩, ⟨hmemory', hiterations', hlanes'⟩, -⟩
    exact ⟨⟨hmemory, hmemory'⟩, ⟨hiterations, hiterations'⟩, ⟨hlanes, hlanes'⟩, hkey⟩
  · intro hcost
    have hlanes := hcost.parallelism
    exact ⟨⟨cost⟩, ⟨hcost.memory.1, hcost.iterations.1, hlanes.1, by omega, hcost.keyLength⟩,
      ⟨hcost.memory.2, hcost.iterations.2, hlanes.2⟩, rfl⟩

/-- Costs are refused as such. -/
theorem ofCost_eq_error {fault : Fault} (h : ofCost cost = .error fault) :
    ∃ detail, fault = .invalidCost detail := by
  unfold ofCost at h
  split at h
  · cases h
    exact ⟨_, rfl⟩
  · split at h
    · cases h
      exact ⟨_, rfl⟩
    · cases h

/-- What becomes of a password depends on the length of the key, and on whether the password has
one. -/
theorem hash_eq (h : Hasher) (salt : Salt) (password : String) :
    h.hash salt password =
      if h.cost.keyLength < 10 then
        .error (.hashingFailed "output size too short, expected at least 10 bytes")
      else if 64 < h.cost.keyLength then
        .error (.hashingFailed "output size too long, expected at most 64 bytes")
      else
        match h.key salt password with
        | .ok key => .ok (String.ofList (Phc.render (h.phc salt key)))
        | .error fault => .error (.hashingFailed fault.hashMessage) := by
  rw [hash, ← key, checkKeySize, minKeySize, maxKeySize]
  split
  · next fault hsize =>
    split_ifs at hsize ⊢
    · cases hsize
      decide
    · cases hsize
      decide
  · next hsize =>
    split_ifs at hsize ⊢
    cases h.key salt password <;> rfl

end Hasher

/-- **The hashers that can hash** are those with keys of 10 to 64 bytes. A hasher is made of costs
within the ranges of the key derivation and below the ceilings, and other costs are refused as such;
a key may then still be too short or too long for a stored hash, which comes out with the first
password. What is hashed can be verified. -/
theorem hash_iff_keyLength (cost : Cost) :
    ((∃ h, Hasher.ofCost cost = .ok h) ↔ cost.Acceptable) ∧
    (∀ fault, Hasher.ofCost cost = .error fault → ∃ detail, fault = .invalidCost detail) ∧
    ∀ h, Hasher.ofCost cost = .ok h → ∀ (salt : Salt) (password : String),
      (Utf8.encode password).length < 4294967296 →
        ((∃ text, h.hash salt password = .ok text) ↔
          10 ≤ cost.keyLength ∧ cost.keyLength ≤ 64) ∧
        (∀ text, h.hash salt password = .ok text → ∃ c parameters,
          Challenge.WrittenAs c text parameters ∧ c.stored = h.stored ∧ c.salt = salt.bytes ∧
            c.key.length = cost.keyLength) ∧
        (cost.keyLength < 10 → h.hash salt password =
          .error (.hashingFailed "output size too short, expected at least 10 bytes")) ∧
        (64 < cost.keyLength → h.hash salt password =
          .error (.hashingFailed "output size too long, expected at most 64 bytes")) := by
  refine ⟨Hasher.exists_ofCost_iff, fun _ => Hasher.ofCost_eq_error, ?_⟩
  intro h hcost salt password hshort
  have hwritten : ∀ text, h.hash salt password = .ok text → ∃ c parameters,
      Challenge.WrittenAs c text parameters ∧ c.stored = h.stored ∧ c.salt = salt.bytes ∧
        c.key.length = h.cost.keyLength := by
    intro text htext
    obtain ⟨hsize, key, hkey, rfl⟩ := Hasher.hash_eq_ok.1 htext
    exact ⟨_, _, Hasher.writtenAs hcost hsize hkey, rfl, rfl, Hasher.length_key hkey⟩
  obtain ⟨-, -, rfl⟩ := Hasher.ofCost_eq_ok.1 hcost
  refine ⟨?_, hwritten, ?_, ?_⟩
  · rw [Hasher.hash_eq, Hasher.key_of_short hshort]
    split_ifs with hfew hmany
    · exact iff_of_false nofun fun hlength => absurd hlength.1 (Nat.not_le.2 hfew)
    · exact iff_of_false nofun fun hlength => absurd hlength.2 (Nat.not_le.2 hmany)
    · exact iff_of_true ⟨_, rfl⟩ ⟨Nat.not_lt.1 hfew, Nat.not_lt.1 hmany⟩
  · intro hfew
    rw [Hasher.hash_eq, if_pos hfew]
  · intro hmany
    have hlength : ¬ cost.keyLength < 10 := by omega
    rw [Hasher.hash_eq, if_neg hlength, if_pos hmany]

/-- A hasher with a key of 65 bytes is made, but cannot hash. -/
theorem not_every_hasher_hashes : ¬ ∀ (cost : Cost) (h : Hasher), Hasher.ofCost cost = .ok h →
    ∀ (salt : Salt) (password : String), (Utf8.encode password).length < 4294967296 →
      ∃ text, h.hash salt password = .ok text := by
  intro hall
  let maker : Hasher := ⟨⟨8, 1, 1, 65⟩⟩
  let salt : Salt := ⟨List.replicate 16 0, rfl⟩
  obtain ⟨text, htext⟩ := hall ⟨8, 1, 1, 65⟩ maker rfl salt "secret" (by decide)
  rw [Hasher.hash_eq, if_neg (by decide), if_pos (by decide)] at htext
  cases htext

end Accounts.Password

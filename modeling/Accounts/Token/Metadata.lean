import Accounts.Json.Value

/-!
# Metadata of a token

Texts under names, sorted by name, each name once.
-/

namespace Accounts.Token

/-- Puts an entry into a sorted list, replacing one of the same name. -/
def insertEntry (key value : String) : List (String × String) → List (String × String)
  | [] => [(key, value)]
  | (k, v) :: rest =>
    if key < k then (key, value) :: (k, v) :: rest
    else if key = k then (key, value) :: rest
    else (k, v) :: insertEntry key value rest

/-- Names ascend strictly. -/
def Ascending (entries : List (String × String)) : Prop :=
  entries.Pairwise fun x y => x.1 < y.1

/-- The names in a list after an entry is put into it. -/
theorem mem_insertEntry {key value : String} {entries : List (String × String)}
    {e : String × String} (h : e ∈ insertEntry key value entries) :
    e.1 = key ∨ e ∈ entries := by
  induction entries with
  | nil => simp [insertEntry] at h; simp [h]
  | cons x rest ih =>
    obtain ⟨k, v⟩ := x
    unfold insertEntry at h
    split at h
    · rcases List.mem_cons.1 h with rfl | h
      · exact .inl rfl
      · exact .inr h
    · split at h
      · rcases List.mem_cons.1 h with rfl | h
        · exact .inl rfl
        · exact .inr (List.mem_cons_of_mem _ h)
      · rcases List.mem_cons.1 h with rfl | h
        · exact .inr (List.mem_cons_self ..)
        · rcases ih h with h | h
          · exact .inl h
          · exact .inr (List.mem_cons_of_mem _ h)

/-- Putting an entry into a sorted list keeps it sorted. -/
theorem ascending_insertEntry {key value : String} {entries : List (String × String)}
    (h : Ascending entries) : Ascending (insertEntry key value entries) := by
  induction entries with
  | nil => simp [insertEntry, Ascending]
  | cons x rest ih =>
    obtain ⟨k, v⟩ := x
    obtain ⟨hk, hrest⟩ := List.pairwise_cons.1 h
    unfold insertEntry
    split
    · next hlt =>
      refine List.pairwise_cons.2 ⟨fun y hy => ?_, h⟩
      rcases List.mem_cons.1 hy with rfl | hy
      · exact hlt
      · exact String.lt_trans hlt (hk y hy)
    · next hnlt =>
      split
      · next heq =>
        subst heq
        exact List.pairwise_cons.2 ⟨hk, hrest⟩
      · next hne =>
        refine List.pairwise_cons.2 ⟨fun y hy => ?_, ih hrest⟩
        rcases mem_insertEntry hy with hy | hy
        · rw [hy]
          rcases String.le_total key k with hle | hle
          · exact absurd (String.le_antisymm hle (String.not_lt.1 hnlt)) hne
          · rcases String.not_le.1 (fun hle' => hne (String.le_antisymm hle' hle)) with h
            exact h
        · exact hk y hy

/-- The metadata of a token. -/
structure Metadata where
  entries : List (String × String) := []
  ascending : Ascending entries := by exact List.Pairwise.nil

namespace Metadata

@[ext] theorem ext {m n : Metadata} (h : m.entries = n.entries) : m = n := by
  cases m; cases n; cases h; rfl

instance : DecidableEq Metadata := fun m n =>
  decidable_of_iff (m.entries = n.entries) ⟨ext, fun h => h ▸ rfl⟩

def empty : Metadata := {}

instance : Inhabited Metadata := ⟨empty⟩

/-- Puts an entry in, replacing one of the same name. -/
def insert (m : Metadata) (key value : String) : Metadata :=
  ⟨insertEntry key value m.entries, ascending_insertEntry m.ascending⟩

def get? (m : Metadata) (key : String) : Option String := m.entries.lookup key

def isEmpty (m : Metadata) : Bool := m.entries.isEmpty

/-- Reads metadata: an object of texts. -/
def reader : Json.Reader Metadata :=
  Json.Reader.object "a map"
    (fun key (m : Metadata) => do
      Json.Reader.colon
      let value ← Json.Reader.string "a string"
      pure (m.insert key value))
    empty .ok

/-- The metadata that a JSON value stands for. -/
def ofJson : Json → Except Json.FormFault Metadata
  | .object members =>
    members.foldlM (fun m (key, v) => do pure (m.insert key (← v.asText "a string"))) empty
  | v => .error (.wrongKind v.found "a map")

def toJson (m : Metadata) : Json := .object (m.entries.map fun (key, value) => (key, .text value))

end Metadata

end Accounts.Token

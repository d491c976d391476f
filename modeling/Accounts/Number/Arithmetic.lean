/-!
# Products of 32 bits

A product may have no room in 32 bits. It then wraps, or, where overflows are checked, breaks off
the task that computes it.
-/

namespace Accounts

/-- A task that was broken off, by what is reported about it. -/
structure Breakdown where
  report : String
deriving DecidableEq, Repr

inductive Arithmetic where
  | wrapping
  /-- An overflow breaks off the task, with this report. -/
  | checked (report : String)
deriving DecidableEq, Repr

namespace Arithmetic

/-- Goes on after a computation that may have overflowed. -/
def pass (arithmetic : Arithmetic) (overflowed : Bool) : Except Breakdown Unit :=
  match arithmetic with
  | wrapping => .ok ()
  | checked report => if overflowed then .error ⟨report⟩ else .ok ()

@[simp] theorem pass_false (arithmetic : Arithmetic) : arithmetic.pass false = .ok () := by
  cases arithmetic <;> rfl

end Arithmetic

end Accounts

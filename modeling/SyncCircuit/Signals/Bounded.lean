import SyncCircuit.Signals.Basic

/-!
# Signals behind a bounds check

The operations of `Signals` for callers that cannot vouch for an index: each refuses an index
outside the allocated bits and otherwise does what the unchecked operation does.
-/
namespace SyncCircuit

/-- An index outside the allocated bits. -/
structure OutOfBounds where
  index : Nat
  size : Nat
deriving DecidableEq, Repr

/-- The wording of the fault. -/
def OutOfBounds.message (e : OutOfBounds) : String :=
  s!"Tried to access index out of bounds:{e.index}, size:{e.size}"

namespace Signals

/-- The given answer, if the index is within the allocated bits. -/
def within {α : Type} (s : Signals) (i : Nat) (answer : α) : Except OutOfBounds α :=
  if i < s.size then .ok answer else .error ⟨i, s.size⟩

/-- The value of a bit. -/
def read (s : Signals) (i : Nat) : Except OutOfBounds Bool := s.within i (s.get i)

/-- Whether a bit changed since the last `tick`. -/
def readChanged (s : Signals) (i : Nat) : Except OutOfBounds Bool := s.within i (s.isChanged i)

/-- Writes a bit; also answers whether its value differed. -/
def write (s : Signals) (i : Nat) (v : Bool) : Except OutOfBounds (Bool × Signals) :=
  s.within i (s.differs i v, s.set i v)

variable {s : Signals} {i : Nat}

theorem within_of_le {α : Type} (h : s.size ≤ i) (answer : α) :
    s.within i answer = .error ⟨i, s.size⟩ := if_neg (by omega)

theorem read_of_lt (h : i < s.size) : s.read i = .ok (s.get i) := if_pos h

theorem readChanged_of_lt (h : i < s.size) : s.readChanged i = .ok (s.isChanged i) := if_pos h

theorem write_of_lt (h : i < s.size) (v : Bool) :
    s.write i v = .ok (s.differs i v, s.set i v) := if_pos h

end Signals

end SyncCircuit

import SyncCircuit.Signals.Bits

/-!
# Signals

The values of all output pins of a circuit, one bit each, with a mark on every bit that changed
since the last `tick`. A write marks a bit only if the value differs, so a round of writes that
leaves no mark has found everything as it should be.
-/
namespace SyncCircuit

/-- Bits with change marks. -/
structure Signals where
  values : Bits
  marks : Bits
  size_marks : marks.size = values.size
deriving DecidableEq

namespace Signals

/-- Signals for `n` bits, all false and unmarked. -/
def ofSize (n : Nat) : Signals := ⟨.zeros n, .zeros n, rfl⟩

/-- The number of bits allocated, a multiple of 64. -/
def size (s : Signals) : Nat := s.values.size

/-- The value of a bit. -/
def get (s : Signals) (i : Nat) : Bool := s.values.get i

/-- Whether a bit changed since the last `tick`. -/
def isChanged (s : Signals) (i : Nat) : Bool := s.marks.get i

/-- Whether writing `v` at index `i` changes the bit there. -/
def differs (s : Signals) (i : Nat) (v : Bool) : Bool := s.get i != v

/-- Writes a bit, and marks it if its value differs. -/
def set (s : Signals) (i : Nat) (v : Bool) : Signals :=
  if s.differs i v then
    ⟨s.values.set i v, s.marks.set i true, by simp [s.size_marks]⟩
  else
    s

/-- Removes all marks. -/
def tick (s : Signals) : Signals := ⟨s.values, s.marks.clear, by simp [s.size_marks]⟩

/-- Whether some bit is marked. -/
def anyChanged (s : Signals) : Bool := s.marks.any

/-- Copies `s` into the words of `t`, which are allocated already. -/
def overwrite (t s : Signals) : Signals :=
  ⟨t.values.overwrite s.values, t.marks.overwrite s.marks, by simp [s.size_marks]⟩

/-! ## Sizes -/

@[simp] theorem size_ofSize (n : Nat) : (ofSize n).size = (n + 63) / 64 * 64 := by
  simp [ofSize, size]

@[simp] theorem size_set (s : Signals) (i : Nat) (v : Bool) : (s.set i v).size = s.size := by
  unfold set; split <;> simp [size]

@[simp] theorem size_tick (s : Signals) : s.tick.size = s.size := rfl

/-! ## Values -/

@[simp] theorem get_ofSize (n i : Nat) : (ofSize n).get i = false := by simp [ofSize, get]

@[simp] theorem get_tick (s : Signals) (i : Nat) : s.tick.get i = s.get i := rfl

theorem get_of_le {s : Signals} {i : Nat} (h : s.size ≤ i) : s.get i = false :=
  Bits.get_of_le h

theorem get_set (s : Signals) (i j : Nat) (v : Bool) :
    (s.set i v).get j = if i = j ∧ i < s.size then v else s.get j := by
  unfold set
  split
  · exact Bits.get_set _ _ _ _
  · rename_i h
    have hv : s.get i = v := by simpa [differs] using h
    split
    · rename_i hj
      rw [← hj.1, hv]
    · rfl

/-! ## Marks -/

@[simp] theorem isChanged_ofSize (n i : Nat) : (ofSize n).isChanged i = false := by
  simp [ofSize, isChanged]

@[simp] theorem isChanged_tick (s : Signals) (i : Nat) : s.tick.isChanged i = false := by
  simp [tick, isChanged]

theorem isChanged_set (s : Signals) (i j : Nat) (v : Bool) :
    (s.set i v).isChanged j =
      (s.isChanged j || (decide (i = j ∧ i < s.size) && s.differs i v)) := by
  unfold set
  split
  · rename_i h
    simp only [isChanged, Bits.get_set, s.size_marks, size, h, Bool.and_true]
    by_cases hij : i = j ∧ i < s.values.size <;> simp [hij, Bool.or_comm]
  · rename_i h
    simp [h]

theorem anyChanged_eq_true_iff (s : Signals) :
    s.anyChanged = true ↔ ∃ i, s.isChanged i = true := Bits.any_eq_true_iff _

/-- Signals with the same size, values and marks are the same. -/
theorem ext_get {s t : Signals} (hs : s.size = t.size) (hv : ∀ i, s.get i = t.get i)
    (hm : ∀ i, s.isChanged i = t.isChanged i) : s = t := by
  have h1 : s.values = t.values := Bits.ext_get hs hv
  have h2 : s.marks = t.marks :=
    Bits.ext_get (s.size_marks.trans (hs.trans t.size_marks.symm)) hm
  cases s; cases t
  cases h1; cases h2
  rfl

/-! ## Copies -/

theorem overwrite_eq (t s : Signals) : t.overwrite s = s := by simp [overwrite]

end Signals

end SyncCircuit

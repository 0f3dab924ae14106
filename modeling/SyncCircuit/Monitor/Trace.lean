/-!
# Traces

The recorded values of one output pin, one sample for each settled cycle. The samples belong to
consecutive cycles, so the cycle of the first one fixes the others.
-/
namespace SyncCircuit

/-- The samples of a monitored output. -/
structure Trace where
  label : String
  output : Nat
  /-- The cycle of the first sample that is kept, or of the next one if there is none. -/
  firstCycle : Nat
  samples : Array Bool := #[]
deriving DecidableEq, Repr

/-- The character for a sample. -/
def sampleChar (v : Bool) : Char := if v then '-' else '_'

namespace Trace

/-- The number of samples. -/
def length (t : Trace) : Nat := t.samples.size

/-- Whether there is no sample. -/
def isEmpty (t : Trace) : Bool := t.samples.isEmpty

/-- The sample of a cycle, if it was recorded and is still kept. -/
def atCycle? (t : Trace) (cycle : Nat) : Option Bool :=
  if t.firstCycle ≤ cycle then t.samples[cycle - t.firstCycle]? else none

/-- The samples as text, a dash for a high one and an underscore for a low one. -/
def pattern (t : Trace) : String := String.ofList (t.samples.toList.map sampleChar)

/-- Drops the oldest samples beyond a bound. -/
def trim (t : Trace) (bound : Nat) : Trace :=
  let excess := t.samples.size - bound
  { t with samples := t.samples.extract excess t.samples.size, firstCycle := t.firstCycle + excess }

/-- Records the sample of the next cycle. If there is a bound, only that many samples are kept. -/
def push (t : Trace) (v : Bool) (bound : Option Nat) : Trace :=
  let t := { t with samples := t.samples.push v }
  bound.elim t t.trim

/-- Forgets all samples; the next one belongs to the given cycle. -/
def clear (t : Trace) (firstCycle : Nat) : Trace :=
  { t with samples := #[], firstCycle := firstCycle }

@[simp] theorem label_push (t : Trace) (v : Bool) (bound : Option Nat) :
    (t.push v bound).label = t.label := by cases bound <;> rfl

@[simp] theorem output_push (t : Trace) (v : Bool) (bound : Option Nat) :
    (t.push v bound).output = t.output := by cases bound <;> rfl

/-- The cycle that the next sample belongs to moves on by one with every sample. -/
@[simp] theorem firstCycle_add_length_push (t : Trace) (v : Bool) (bound : Option Nat) :
    (t.push v bound).firstCycle + (t.push v bound).length = t.firstCycle + t.length + 1 := by
  cases bound <;> simp [push, trim, length] <;> omega

end Trace

end SyncCircuit

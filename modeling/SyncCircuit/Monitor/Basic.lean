import SyncCircuit.Monitor.Trace
import SyncCircuit.Signals.Basic

/-!
# Monitors

The outputs being recorded, each under its label, in the order they were added.
-/
namespace SyncCircuit

/-- The monitored values of one cycle, in monitor order. -/
structure Snapshot where
  /-- The cycle; zero is the cold start. -/
  cycle : Nat
  /-- The passes it took to settle. -/
  passes : Nat
  values : List (String × Bool)
deriving DecidableEq, Repr

/-- The value of the monitor with this label. -/
def Snapshot.value? (s : Snapshot) (label : String) : Option Bool := s.values.lookup label

/-- The recorded outputs, with the bound on the samples kept of each. -/
structure Monitors where
  traces : List Trace := []
  bound : Option Nat := none
deriving DecidableEq, Repr

namespace Monitors

/-- The trace with this label. -/
def find? (m : Monitors) (label : String) : Option Trace := m.traces.find? (·.label == label)

/-- Starts to record an output under a label that is not in use; its first sample will belong to
the given cycle. -/
def add? (m : Monitors) (label : String) (output firstCycle : Nat) : Option Monitors :=
  match m.find? label with
  | some _ => none
  | none =>
    some { m with traces := m.traces ++ [⟨label, output, firstCycle, #[]⟩] }

/-- Stops to record a label; also gives its trace. -/
def remove? (m : Monitors) (label : String) : Option (Trace × Monitors) :=
  (m.find? label).map fun t => (t, { m with traces := m.traces.eraseP (·.label == label) })

/-- Records the current value of every monitored output. -/
def record : Monitors → Signals → Monitors
  | ⟨traces, bound⟩, s => ⟨traces.map fun t => t.push (s.get t.output) bound, bound⟩

/-- Forgets all samples; the next ones belong to the given cycle. -/
def clear (m : Monitors) (firstCycle : Nat) : Monitors :=
  { m with traces := m.traces.map (·.clear firstCycle) }

/-- The current values of the monitored outputs. -/
def snapshot (m : Monitors) (s : Signals) (cycle passes : Nat) : Snapshot :=
  ⟨cycle, passes, m.traces.map fun t => (t.label, s.get t.output)⟩

/-! ## Labels -/

/-- The labels in use, in order. -/
def labels (m : Monitors) : List String := m.traces.map (·.label)

theorem find?_eq_none_iff (m : Monitors) (label : String) :
    m.find? label = none ↔ label ∉ m.labels := by
  simp only [find?, labels, List.find?_eq_none, List.mem_map, beq_iff_eq]
  exact ⟨fun h ⟨t, ht, e⟩ => h t ht e, fun h t ht e => h ⟨t, ht, e⟩⟩

@[simp] theorem labels_record (m : Monitors) (s : Signals) : (m.record s).labels = m.labels := by
  simp [record, labels]

@[simp] theorem labels_clear (m : Monitors) (firstCycle : Nat) :
    (m.clear firstCycle).labels = m.labels := by
  simp [clear, labels, Trace.clear]

theorem labels_add? {m m' : Monitors} {label : String} {output firstCycle : Nat}
    (h : m.add? label output firstCycle = some m') : m'.labels = m.labels ++ [label] := by
  unfold add? at h
  split at h
  · cases h
  · cases h
    simp [labels]

/-! ## Expected patterns -/

/-- Why a trace is not the expected one. -/
inductive Mismatch where
  | notMonitored (label : String)
  | pattern (label actual expected : String)
deriving DecidableEq, Repr

/-- The wording of a mismatch. -/
def Mismatch.message : Mismatch → String
  | .notMonitored label => s!"{label} is not monitored"
  | .pattern label actual expected => s!"Trace of {label} is {actual}, expected: {expected}"

/-- Compares the trace with this label with a pattern. -/
def expectPattern (m : Monitors) (label expected : String) : Except Mismatch Unit :=
  match m.find? label with
  | none => .error (.notMonitored label)
  | some t => if t.pattern = expected then .ok () else .error (.pattern label t.pattern expected)

end Monitors

end SyncCircuit

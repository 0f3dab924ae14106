import SyncCircuit.Network.Basic
import SyncCircuit.Signals.Basic

/-!
# Settling

Gates are recomputed in declaration order, each from the values its inputs have at that moment,
pass after pass until a pass changes nothing. The number of passes is limited, since gates that
feed back on each other may never come to rest. Every change is noted as a probe.

## Main definitions

* `Device.next?` — the value a gate should have.
* `sweep` — one pass over all devices.
* `settle` — passes until nothing changes or the budget is used up.
-/
namespace SyncCircuit

/-- A change of a gate output. -/
structure Probe where
  pass : Nat
  output : Nat
  value : Bool
deriving DecidableEq, Repr

/-- Signals on their way to rest, with the changes so far. -/
structure Propagation where
  signals : Signals
  probes : Array Probe := #[]

/-- The output value of a gate for the current values of its inputs. -/
def Device.next? (d : Device) (s : Signals) : Option Bool :=
  match d.component with
  | .gate g => some (g.evaluate (d.drivers.map s.get))
  | .switch _ | .clock _ | .dtype => none

/-- Recomputes the output of a gate, and leaves any other device alone. -/
def Device.update (d : Device) (s : Signals) : Signals :=
  match d.next? s with
  | some v => s.set d.firstOutput v
  | none => s

/-- The probe of recomputing a device, if that changes its output. -/
def Device.probe? (d : Device) (pass : Nat) (s : Signals) : Option Probe :=
  match d.next? s with
  | some v => if s.differs d.firstOutput v then some ⟨pass, d.firstOutput, v⟩ else none
  | none => none

namespace Propagation

/-- Recomputes a device and notes the change. -/
def step (pass : Nat) (p : Propagation) (d : Device) : Propagation :=
  let probes := (d.probe? pass p.signals).elim p.probes p.probes.push
  ⟨d.update p.signals, probes⟩

/-- One pass over the devices, from signals without marks. -/
def sweep (devices : List Device) (pass : Nat) (p : Propagation) : Propagation :=
  devices.foldl (step pass) { p with signals := p.signals.tick }

/-- Passes, numbered from `pass` on, until one changes nothing. The result is the number of that
pass, or nothing if there was none within the budget, and the signals at the end. -/
def settle (devices : List Device) : (budget pass : Nat) → Propagation → Option Nat × Propagation
  | 0, _, p => (none, p)
  | budget + 1, pass, p =>
    let p := p.sweep devices pass
    if p.signals.anyChanged then settle devices budget (pass + 1) p else (some pass, p)

/-! ## The signals alone -/

@[simp] theorem signals_step (pass : Nat) (p : Propagation) (d : Device) :
    (p.step pass d).signals = d.update p.signals := rfl

theorem signals_foldl_step (devices : List Device) (pass : Nat) (p : Propagation) :
    (devices.foldl (step pass) p).signals = devices.foldl (fun s d => d.update s) p.signals := by
  induction devices generalizing p with
  | nil => rfl
  | cons d ds ih => simp [ih]

theorem signals_sweep (devices : List Device) (pass : Nat) (p : Propagation) :
    (p.sweep devices pass).signals = devices.foldl (fun s d => d.update s) p.signals.tick :=
  signals_foldl_step devices pass _

end Propagation

/-! ## Sizes -/

@[simp] theorem Device.size_update (d : Device) (s : Signals) : (d.update s).size = s.size := by
  unfold Device.update; split <;> simp

theorem size_foldl_update (devices : List Device) (s : Signals) :
    (devices.foldl (fun s d => d.update s) s).size = s.size := by
  induction devices generalizing s with
  | nil => rfl
  | cons d ds ih => simp [ih]

namespace Propagation

@[simp] theorem size_sweep (devices : List Device) (pass : Nat) (p : Propagation) :
    (p.sweep devices pass).signals.size = p.signals.size := by
  rw [signals_sweep, size_foldl_update, Signals.size_tick]

@[simp] theorem size_settle (devices : List Device) (budget pass : Nat) (p : Propagation) :
    (settle devices budget pass p).2.signals.size = p.signals.size := by
  induction budget generalizing pass p with
  | zero => rfl
  | succ budget ih =>
    rw [settle]
    split
    · rw [ih, size_sweep]
    · rw [size_sweep]

end Propagation

end SyncCircuit

import SyncCircuit.Catalog.Clock
import SyncCircuit.Run.Settle

/-!
# Cycles

What happens within one cycle: clocks tick, gates settle, flip-flops whose CLK rose since they
last looked store a new value, all at once, and the gates settle again if that changed anything.

## Main definitions

* `CircuitState` — the signals and what devices remember besides them.
* `Network.coldState` — the state before anything has settled.
* `CircuitState.tickClocks`, `CircuitState.clockFlipFlops` — the two steps besides settling.
* `CircuitState.attempt` — one whole cycle.
-/
namespace SyncCircuit

/-- What a device remembers besides its output. -/
inductive Memory where
  | stateless
  /-- The cycles counted since the output last turned over. -/
  | clock (ticks : UInt32)
  /-- The value of CLK when the flip-flop last looked. -/
  | flipFlop (lastClk : Bool)
deriving DecidableEq, Repr

/-- The signals of a network and the memory of its devices, in declaration order. -/
structure CircuitState where
  signals : Signals
  memory : List Memory
deriving DecidableEq

/-! ## The cold state -/

/-- The memory of a device before the first cycle. -/
def Memory.cold : Component → Memory
  | .clock _ => .clock 0
  | .dtype => .flipFlop false
  | .gate _ | .switch _ => .stateless

/-- Gives the outputs of a device their first values: a switch its declared state, a flip-flop Q
low and QBAR high, all others low. -/
def Device.coldSignals (s : Signals) (d : Device) : Signals :=
  match d.component with
  | .switch initial => s.set d.firstOutput initial
  | .dtype => s.set (d.firstOutput + FlipFlop.Output.qbar.index) true
  | .gate _ | .clock _ => s

/-- The state of a network before anything has settled. -/
def Network.coldState (net : Network) : CircuitState where
  signals := net.devices.foldl Device.coldSignals (.ofSize net.outputCount)
  memory := net.devices.map fun d => .cold d.component

/-! ## Clocks -/

/-- The tick of a clock: its new count, and whether its output turns over. -/
def Device.clockTick? (d : Device) (m : Memory) : Option (UInt32 × Bool) :=
  match d.component, m with
  | .clock halfPeriod, .clock ticks => some (Clock.tick ticks halfPeriod)
  | _, _ => none

/-- The memory of a device after a tick. -/
def Device.tickMemory (d : Device) (m : Memory) : Memory :=
  match d.clockTick? m with
  | some (ticks, _) => .clock ticks
  | none => m

/-- Turns the output of a clock over if its half period is complete. -/
def Device.tickSignals (s : Signals) : Device × Memory → Signals
  | (d, m) =>
    match d.clockTick? m with
    | some (_, true) => s.set d.firstOutput (!s.get d.firstOutput)
    | _ => s

/-- Ticks every clock. -/
def CircuitState.tickClocks (devices : List Device) (st : CircuitState) : CircuitState where
  signals := (devices.zip st.memory).foldl Device.tickSignals st.signals
  memory := devices.zipWith Device.tickMemory st.memory

/-! ## Flip-flops -/

/-- The value at an input of a flip-flop. -/
def Device.input (d : Device) (s : Signals) (pin : FlipFlop.Input) : Bool :=
  (d.driver? pin.index).elim false s.get

/-- The value a flip-flop is about to store, if its CLK rose. -/
def Device.commit? (d : Device) (m : Memory) (s : Signals) : Option Bool :=
  match d.component, m with
  | .dtype, .flipFlop lastClk =>
    if d.input s .clk && !lastClk then
      some (FlipFlop.next (d.input s .data) (d.input s .set) (d.input s .clear))
    else
      none
  | _, _ => none

/-- The memory of a device after it looked at its CLK. -/
def Device.sampleClk (s : Signals) (d : Device) (m : Memory) : Memory :=
  match d.component with
  | .dtype => .flipFlop (d.input s .clk)
  | .gate _ | .switch _ | .clock _ => m

/-- Looks at the CLK of every flip-flop. -/
def CircuitState.sampleClks (devices : List Device) (st : CircuitState) : CircuitState :=
  { st with memory := devices.zipWith (Device.sampleClk st.signals) st.memory }

/-- The flip-flops about to store a value, each by its first output. -/
def CircuitState.commits (devices : List Device) (st : CircuitState) : List (Nat × Bool) :=
  (devices.zip st.memory).filterMap fun (d, m) =>
    (d.commit? m st.signals).map fun q => (d.firstOutput, q)

/-- Writes the outputs of a flip-flop, given its first output and the value it stores. The flag
tells whether some Q has changed so far. -/
def FlipFlop.commit : Signals × Bool → Nat × Bool → Signals × Bool
  | (s, changed), (first, q) =>
    ((s.set (first + Output.q.index) q).set (first + Output.qbar.index) !q,
      changed || s.differs (first + Output.q.index) q)

/-- Stores the new value of every flip-flop whose CLK rose, all of them computed before the first
is written; also tells whether some Q changed. -/
def CircuitState.clockFlipFlops (devices : List Device) (st : CircuitState) : CircuitState × Bool :=
  let (signals, changed) := (st.commits devices).foldl FlipFlop.commit (st.signals, false)
  ({ st.sampleClks devices with signals := signals }, changed)

/-! ## A whole cycle -/

/-- How a cycle ended: the passes it took and the new state if it settled, and its probes. -/
structure Attempt where
  outcome : Option (Nat × CircuitState)
  probes : Array Probe

/-- Settles the gates of a state, adding to the probes of the cycle. -/
def CircuitState.settle (devices : List Device) (budget : Nat) (st : CircuitState)
    (probes : Array Probe) : Attempt :=
  match Propagation.settle devices budget 1 ⟨st.signals, probes⟩ with
  | (passes, p) => ⟨passes.map (·, { st with signals := p.signals }), p.probes⟩

/-- One cycle, with a budget of passes for each of its two settlings. -/
def CircuitState.attempt (devices : List Device) (budget : Nat) (st : CircuitState) : Attempt :=
  match (st.tickClocks devices).settle devices budget #[] with
  | ⟨none, probes⟩ => ⟨none, probes⟩
  | ⟨some (first, st), probes⟩ =>
    match st.clockFlipFlops devices with
    | (st, false) => ⟨some (first, st), probes⟩
    | (st, true) =>
      match st.settle devices budget probes with
      | ⟨none, probes⟩ => ⟨none, probes⟩
      | ⟨some (second, st), probes⟩ => ⟨some (first + second, st), probes⟩

end SyncCircuit

import SyncCircuit.Network.Tables
import SyncCircuit.Run.Command

/-!
# Runs with checked lookups

A run on the tables of a network. Whatever is looked up or written by index, in the tables of the
network, among the signals or in the memory of the devices, may miss, and then the request ends with
an `IndexFault`. Gates, clocks and flip-flops are visited by the lists of them, the cold start
overwrites what it finds, and commits are collected by device before the first is written.

## Main definitions

* `Tables.start` — the cold start of a new run.
* `Tables.perform`, `Tables.performAll` — requests to a run.
* `Tables.snapshot`, `Tables.value?`, `Tables.switches` — observations of a run.
-/
namespace SyncCircuit.Tables

variable {net : Network} (t : Tables)

/-! ## Settling -/

/-- Recomputes the gate with this index. A change is noted under the label of its output. -/
def stepGate (pass : Nat) (p : Propagation) (i : Nat) : Except IndexFault Propagation := do
  let node ← t.node i
  match node.component with
  | .gate g =>
    let values ← node.drivers.mapM p.signals.readBit
    let v := g.evaluate values
    let (changed, signals) ← p.signals.writeBit node.firstOutput v
    if changed then
      let _ ← t.outputLabel node.firstOutput
      pure ⟨signals, p.probes.push ⟨pass, node.firstOutput, v⟩⟩
    else
      pure ⟨signals, p.probes⟩
  | .switch _ | .clock _ | .dtype => pure p

/-- One pass over the gates, from signals without marks. -/
def sweep (pass : Nat) (p : Propagation) : Except IndexFault Propagation :=
  t.gates.foldlM (t.stepGate pass) { p with signals := p.signals.tick }

/-- Passes, numbered from `pass` on, until one changes nothing. -/
def settle : (budget pass : Nat) → Propagation → Except IndexFault (Option Nat × Propagation)
  | 0, _, p => pure (none, p)
  | budget + 1, pass, p => do
    let p ← t.sweep pass p
    if p.signals.anyChanged then settle budget (pass + 1) p else pure (some pass, p)

/-! ## Clocks -/

/-- Ticks the clock with this index. -/
def tickClock : Signals × List Memory → Nat → Except IndexFault (Signals × List Memory)
  | (s, memory), i => do
    let node ← t.node i
    let m ← TableName.memory.read memory i
    match node.component, m with
    | .clock halfPeriod, .clock ticks =>
      let (ticks, turns) := Clock.tick ticks halfPeriod
      let memory ← TableName.memory.write memory i (.clock ticks)
      if turns then
        let v ← s.readBit node.firstOutput
        let (_, s) ← s.writeBit node.firstOutput (!v)
        pure (s, memory)
      else
        pure (s, memory)
    | _, _ => pure (s, memory)

/-- Ticks every clock. -/
def tickClocks (st : CircuitState) : Except IndexFault CircuitState := do
  let (signals, memory) ← t.clocks.foldlM t.tickClock (st.signals, st.memory)
  pure ⟨signals, memory⟩

/-! ## Flip-flops -/

/-- The value at an input of the flip-flop with this index, which must have the input. -/
def input (s : Signals) (i : Nat) (pin : FlipFlop.Input) : Except IndexFault Bool := do
  let node ← t.node i
  let o ← TableName.drivers.read node.drivers pin.index
  s.readBit o

/-- What the flip-flop with this index is about to store, if its CLK rose. -/
def commit? (s : Signals) (i : Nat) (m : Memory) (clk : Bool) : Except IndexFault (Option Bool) :=
  match m with
  | .flipFlop lastClk =>
    if clk && !lastClk then do
      let data ← t.input s i .data
      let set ← t.input s i .set
      let clear ← t.input s i .clear
      pure (some (FlipFlop.next data set clear))
    else
      pure none
  | .stateless | .clock _ => pure none

/-- Looks at the CLK of the flip-flop with this index, and adds what it is about to store to what
others are. -/
def look (s : Signals) :
    List (Nat × Bool) × List Memory → Nat → Except IndexFault (List (Nat × Bool) × List Memory)
  | (pending, memory), i => do
    let clk ← t.input s i .clk
    let m ← TableName.memory.read memory i
    let q ← t.commit? s i m clk
    let memory ← TableName.memory.write memory i (.flipFlop clk)
    pure (pending ++ (q.map (i, ·)).toList, memory)

/-- Writes the outputs of the flip-flop with this index. -/
def store : Signals × Bool → Nat × Bool → Except IndexFault (Signals × Bool)
  | (s, changed), (i, q) => do
    let node ← t.node i
    let (changes, s) ← s.writeBit (node.firstOutput + FlipFlop.Output.q.index) q
    let (_, s) ← s.writeBit (node.firstOutput + FlipFlop.Output.qbar.index) (!q)
    pure (s, changed || changes)

/-- Stores the new value of every flip-flop whose CLK rose; also tells whether some Q changed. -/
def clockFlipFlops (st : CircuitState) : Except IndexFault (CircuitState × Bool) := do
  let (pending, memory) ← t.flipFlops.foldlM (t.look st.signals) ([], st.memory)
  let (signals, changed) ← pending.foldlM t.store (st.signals, false)
  pure (⟨signals, memory⟩, changed)

/-- Keeps what the flip-flop with this index sees at its CLK. -/
def sampleClk : Signals × List Memory → Nat → Except IndexFault (Signals × List Memory)
  | (s, memory), i => do
    let clk ← t.input s i .clk
    let memory ← TableName.memory.write memory i (.flipFlop clk)
    pure (s, memory)

/-- Looks at the CLK of every flip-flop. -/
def sampleClks (st : CircuitState) : Except IndexFault CircuitState := do
  let (signals, memory) ← t.flipFlops.foldlM t.sampleClk (st.signals, st.memory)
  pure ⟨signals, memory⟩

/-! ## Whole cycles -/

/-- The passes allowed for settling. -/
def maxPasses (config : Config) : Nat := config.maxPasses t.nodes.length

/-- Settles the gates of a state, adding to the probes of the cycle. -/
def settleState (budget : Nat) (st : CircuitState) (probes : Array Probe) :
    Except IndexFault Attempt := do
  let (passes, p) ← t.settle budget 1 ⟨st.signals, probes⟩
  pure ⟨passes.map (·, { st with signals := p.signals }), p.probes⟩

/-- One cycle, with a budget of passes for each of its two settlings. -/
def attempt (budget : Nat) (st : CircuitState) : Except IndexFault Attempt := do
  let st ← t.tickClocks st
  match ← t.settleState budget st #[] with
  | ⟨none, probes⟩ => pure ⟨none, probes⟩
  | ⟨some (first, st), probes⟩ =>
    match ← t.clockFlipFlops st with
    | (st, false) => pure ⟨some (first, st), probes⟩
    | (st, true) =>
      match ← t.settleState budget st probes with
      | ⟨none, probes⟩ => pure ⟨none, probes⟩
      | ⟨some (second, st), probes⟩ => pure ⟨some (first + second, st), probes⟩

/-! ## Monitors -/

/-- Records the current value of every monitored output. -/
def record (m : Monitors) (s : Signals) : Except IndexFault Monitors := do
  let traces ← m.traces.mapM fun trace => do
    let v ← s.readBit trace.output
    pure (trace.push v m.bound)
  pure ⟨traces, m.bound⟩

/-- The monitored values after the last settled cycle. -/
def snapshot (r : Run net) : Except IndexFault Snapshot := do
  let values ← r.monitors.traces.mapM fun trace => do
    let v ← r.signals.readBit trace.output
    pure (trace.label, v)
  pure ⟨r.cycle, r.passes, values⟩

/-- Monitors one more output from the start, unless its label is in use. -/
def addInitial (m : Monitors) (o : Nat) : Except IndexFault Monitors := do
  let label ← t.outputLabel o
  pure ((m.add? label o 1).getD m)

/-- The monitors a network wants from the start. -/
def initialMonitors (bound : Option Nat) : Except IndexFault Monitors :=
  t.monitors.foldlM t.addInitial ⟨[], bound⟩

/-! ## The cold start -/

/-- Overwrites the outputs and the memory of a device, given its index. -/
def chill : CircuitState → Node × Nat → Except IndexFault CircuitState
  | st, (node, i) => do
    let (_, signals) ←
      match node.component with
      | .switch initial => st.signals.writeBit node.firstOutput initial
      | .dtype => st.signals.writeBit (node.firstOutput + FlipFlop.Output.qbar.index) true
      | .gate _ | .clock _ => pure (false, st.signals)
    let memory ← TableName.memory.write st.memory i (.cold node.component)
    pure ⟨signals, memory⟩

/-- Clears the signals and overwrites what is kept of every device. -/
def chillAll (st : CircuitState) : Except IndexFault CircuitState :=
  t.nodes.zipIdx.foldlM chill { st with signals := .ofSize t.outputs.length }

/-- Starts the circuit cold in the state that is there. -/
def coldStart (r : Run net) : Except IndexFault (Run net × Array RunEvent) := do
  let r : Run net := { r with phase := .stabilizing, cycle := 0, passes := 0, failure := none }
  let cold ← t.chillAll r.state
  match ← t.settle (t.maxPasses r.config) 1 ⟨cold.signals, #[]⟩ with
  | (some passes, p) =>
    let state ← t.sampleClks { cold with signals := p.signals }
    pure ({ r with state := state, phase := .idle, passes := passes },
      (p.probes.map (.probe 0)).push (.coldStartSettled passes))
  | (none, p) =>
    let o : Oscillation := ⟨0, t.maxPasses r.config⟩
    pure ({ r with state := { cold with signals := p.signals } }.fail o,
      (p.probes.map (.probe 0)).push (.oscillated o))

/-- A new run after its cold start, with the log of it. -/
def start (net : Network) (config : Config) : Except IndexFault (Run net × Array RunEvent) := do
  let monitors ← t.initialMonitors config.maxTraceLength
  t.coldStart
    { config := config
      state := ⟨.ofSize t.outputs.length, List.replicate t.nodes.length .stateless⟩
      monitors := monitors
      phase := .idle
      cycle := 0
      passes := 0
      failure := none }

/-- Starts again. The monitored outputs stay, without their samples. -/
def reset (r : Run net) : Except IndexFault (Step net Unit) := do
  let (r, events) ← t.coldStart { r with monitors := r.monitors.clear 1 }
  pure ⟨.ok (), r, events.push .restarted⟩

/-! ## Requests -/

/-- Runs one cycle. -/
def advance (r : Run net) : Except IndexFault (Step net Snapshot) :=
  match r.failure with
  | some o => pure ⟨.error (.oscillation o), r, #[]⟩
  | none => do
    let cycle := r.cycle + 1
    match ← t.attempt (t.maxPasses r.config) r.state with
    | ⟨some (passes, state), probes⟩ =>
      let monitors ← record r.monitors state.signals
      let r : Run net := { r with
        state := state
        cycle := cycle
        passes := passes
        phase := .settled
        monitors := monitors }
      let s ← snapshot r
      pure ⟨.ok s, r, (probes.map (.probe cycle)).push (.cycleSettled cycle passes)⟩
    | ⟨none, probes⟩ =>
      let o : Oscillation := ⟨cycle, t.maxPasses r.config⟩
      pure ⟨.error (.oscillation o), r.fail o, (probes.map (.probe cycle)).push (.oscillated o)⟩

/-- Runs up to `n` cycles, stopping at the first that fails, and adds to a log. -/
def advanceLogged (r : Run net) (events : Array RunEvent) :
    Nat → Except IndexFault (Step net Unit)
  | 0 => pure ⟨.ok (), r, events⟩
  | n + 1 => do
    match ← t.advance r with
    | ⟨.ok _, r, new⟩ => advanceLogged r (events ++ new) n
    | ⟨.error e, r, new⟩ => pure ⟨.error e, r, events ++ new⟩

/-- Sets a switch. -/
def setSwitch (r : Run net) (name : String) (value : Bool) : Except IndexFault (Step net Unit) :=
  match t.index? name with
  | none => pure ⟨.error (.unknownDevice name), r, #[]⟩
  | some i => do
    let node ← t.node i
    match node.component with
    | .switch _ =>
      let (_, signals) ← r.signals.writeBit node.firstOutput value
      pure ⟨.ok (), { r with state := { r.state with signals := signals } }, #[]⟩
    | .gate _ | .clock _ | .dtype => pure ⟨.error (.notASwitch name), r, #[]⟩

/-- Starts to monitor an output. -/
def addMonitor (r : Run net) (ref : OutputRef) : Except IndexFault (Step net Unit) := do
  match ← t.output ref with
  | .error fault => pure ⟨.error (.invalidMonitorTarget ref.text (.reference fault)), r, #[]⟩
  | .ok o =>
    let label ← t.outputLabel o
    match r.monitors.add? label o (r.cycle + 1) with
    | none => pure ⟨.error (.invalidMonitorTarget label .alreadyMonitored), r, #[]⟩
    | some monitors => pure ⟨.ok (), { r with monitors := monitors }, #[.monitoring ref.text]⟩

/-- Carries out a request. Only the removal of a monitor looks up nothing by index. -/
def perform (r : Run net) : Command → Except IndexFault (Step net Reply)
  | .advance => do
    let step ← t.advance r
    pure (step.map .snapshot)
  | .advanceBy n => do
    let step ← t.advanceLogged r #[] n
    pure (step.map fun _ => .done)
  | .reset => do
    let step ← t.reset r
    pure (step.map fun _ => .done)
  | .setSwitch name value => do
    let step ← t.setSwitch r name value
    pure (step.map fun _ => .done)
  | .addMonitor ref => do
    let step ← t.addMonitor r ref
    pure (step.map fun _ => .done)
  | .removeMonitor label => pure ((r.removeMonitor label).map .trace)

/-- The run after a list of requests. -/
def performAll (r : Run net) (cs : List Command) : Except IndexFault (Run net) :=
  cs.foldlM (fun r c => do
    let step ← t.perform r c
    pure step.run) r

/-! ## Observations -/

/-- The current value of the output a reference names. -/
def value? (r : Run net) (ref : OutputRef) : Except IndexFault (Option Bool) := do
  match ← t.output ref with
  | .error _ => pure none
  | .ok o =>
    let v ← r.signals.readBit o
    pure (some v)

/-- The name and the state of a device, if it is a switch. The device is found by its name. -/
def switch? (r : Run net) : String × Component → Except IndexFault (Option (String × Bool))
  | (name, component) =>
    match component, t.index? name with
    | .switch _, some i => do
      let node ← t.node i
      let v ← r.signals.readBit node.firstOutput
      pure (some (name, v))
    | _, _ => pure none

/-- The switches and their states, in declaration order. -/
def switches (r : Run net) : Except IndexFault (List (String × Bool)) := do
  let devices ← t.devices
  let states ← devices.mapM (t.switch? r)
  pure (states.filterMap id)

end SyncCircuit.Tables

import SyncCircuit.Monitor.Basic
import SyncCircuit.Run.Cycle
import SyncCircuit.Run.Event

/-!
# Runs

A run is one simulation of a network. It starts cold, advances by whole cycles and records the
monitored outputs after every cycle that settles. A cycle that does not settle leaves the signals
as they were before it and ends the run: until a reset, every further cycle fails the same way.

## Main definitions

* `Run` — the state of a run.
* `Run.start`, `Run.reset` — the cold start.
* `Run.advance`, `Run.advanceBy` — cycles.
* `Run.setSwitch`, `Run.addMonitor`, `Run.removeMonitor` — requests between cycles.
-/
namespace SyncCircuit

/-- Settings of a run. -/
structure Config where
  /-- The passes allowed for settling on top of the number of devices. -/
  margin : Nat := 2
  /-- The number of samples kept of each trace; no bound if absent. -/
  maxTraceLength : Option Nat := none
deriving DecidableEq, Repr

/-- The passes allowed for settling a network with this many devices. -/
def Config.maxPasses (c : Config) (devices : Nat) : Nat := devices + c.margin

/-- Where a run stands. -/
inductive Phase where
  /-- The cold start has settled and no cycle has run. -/
  | idle
  /-- A cycle is under way. -/
  | stabilizing
  /-- The last cycle has settled. -/
  | settled
  /-- Signals did not settle. -/
  | failed
deriving DecidableEq, Repr

/-- The word for a phase. -/
def Phase.name : Phase → String
  | .idle => "Idle"
  | .stabilizing => "Stabilizing"
  | .settled => "Settled"
  | .failed => "Failed"

/-- A run of a network. -/
structure Run (net : Network) where
  config : Config
  state : CircuitState
  monitors : Monitors
  phase : Phase
  /-- The number of cycles that settled since the cold start. -/
  cycle : Nat
  /-- The passes the last settled cycle took. -/
  passes : Nat
  /-- What ended the run. -/
  failure : Option Oscillation

/-- The result of a request to a run: the answer, the run after it, and its log. -/
structure Step (net : Network) (α : Type) where
  answer : Except RunFault α
  run : Run net
  events : Array RunEvent := #[]

namespace Run

variable {net : Network}

/-- The value of every output. -/
def signals (r : Run net) : Signals := r.state.signals

/-- The passes allowed for settling. -/
def maxPasses (r : Run net) : Nat := r.config.maxPasses net.size

/-! ## Observations -/

/-- The monitored values after the last settled cycle. -/
def snapshot (r : Run net) : Snapshot := r.monitors.snapshot r.signals r.cycle r.passes

/-- The current value of the output a reference names. -/
def value? (r : Run net) (ref : OutputRef) : Option Bool :=
  (net.output ref).toOption.map r.signals.get

/-- The values of all outputs, by number. -/
def outputValues (r : Run net) : List Bool := (List.range net.outputCount).map r.signals.get

/-- The switches and their states, in declaration order. -/
def switches (r : Run net) : List (String × Bool) :=
  net.devices.filterMap fun d =>
    match d.component with
    | .switch _ => some (d.name, r.signals.get d.firstOutput)
    | .gate _ | .clock _ | .dtype => none

/-- The labels and samples of all traces, in monitor order. -/
def traces (r : Run net) : List (String × List Bool) :=
  r.monitors.traces.map fun t => (t.label, t.samples.toList)

/-! ## The cold start -/

/-- Ends the run. -/
def fail (r : Run net) (o : Oscillation) : Run net :=
  { r with phase := .failed, failure := some o }

/-- Puts the circuit in its cold state, as cycle zero, and settles it; flip-flops then look at
their CLK. Nothing is recorded. If the gates do not settle, the run starts failed. -/
def coldStart (r : Run net) : Run net × Array RunEvent :=
  let r : Run net := { r with phase := .stabilizing, cycle := 0, passes := 0, failure := none }
  match Propagation.settle net.devices r.maxPasses 1 ⟨net.coldState.signals, #[]⟩ with
  | (some passes, p) =>
    let state := { net.coldState with signals := p.signals }.sampleClks net.devices
    ({ r with state := state, phase := .idle, passes := passes },
      (p.probes.map (.probe 0)).push (.coldStartSettled passes))
  | (none, p) =>
    let o : Oscillation := ⟨0, r.maxPasses⟩
    ({ r with state := { net.coldState with signals := p.signals } }.fail o,
      (p.probes.map (.probe 0)).push (.oscillated o))

/-- The monitors a network wants from the start. -/
def initialMonitors (net : Network) (bound : Option Nat) : Monitors :=
  net.monitors.foldl (fun m o => (m.add? (net.outputLabel o) o 1).getD m) ⟨[], bound⟩

/-- A new run after its cold start, with the log of it. -/
def start (net : Network) (config : Config) : Run net × Array RunEvent :=
  coldStart
    { config := config
      state := net.coldState
      monitors := initialMonitors net config.maxTraceLength
      phase := .idle
      cycle := 0
      passes := 0
      failure := none }

/-- Starts again. The monitored outputs stay, without their samples. -/
def reset (r : Run net) : Step net Unit :=
  let (r, events) := coldStart { r with monitors := r.monitors.clear 1 }
  ⟨.ok (), r, events.push .restarted⟩

/-! ## Cycles -/

/-- Runs one cycle. -/
def advance (r : Run net) : Step net Snapshot :=
  match r.failure with
  | some o => ⟨.error (.oscillation o), r, #[]⟩
  | none =>
    let r : Run net := { r with phase := .stabilizing }
    let cycle := r.cycle + 1
    match r.state.attempt net.devices r.maxPasses with
    | ⟨some (passes, state), probes⟩ =>
      let r : Run net := { r with
        state := state
        cycle := cycle
        passes := passes
        phase := .settled
        monitors := r.monitors.record state.signals }
      ⟨.ok r.snapshot, r, (probes.map (.probe cycle)).push (.cycleSettled cycle passes)⟩
    | ⟨none, probes⟩ =>
      let o : Oscillation := ⟨cycle, r.maxPasses⟩
      ⟨.error (.oscillation o), r.fail o, (probes.map (.probe cycle)).push (.oscillated o)⟩

/-- Runs up to `n` cycles, stopping at the first that fails, and adds to a log. -/
def advanceLogged (r : Run net) (events : Array RunEvent) : Nat → Step net Unit
  | 0 => ⟨.ok (), r, events⟩
  | n + 1 =>
    match r.advance with
    | ⟨.ok _, r, new⟩ => r.advanceLogged (events ++ new) n
    | ⟨.error e, r, new⟩ => ⟨.error e, r, events ++ new⟩

/-- Runs up to `n` cycles, stopping at the first that fails. -/
def advanceBy (r : Run net) (n : Nat) : Step net Unit := r.advanceLogged #[] n

/-! ## Requests between cycles -/

/-- Sets a switch. The rest of the circuit follows in the next cycle. -/
def setSwitch (r : Run net) (name : String) (value : Bool) : Step net Unit :=
  match net.device? name with
  | none => ⟨.error (.unknownDevice name), r, #[]⟩
  | some d =>
    match d.component with
    | .switch _ =>
      let signals := r.signals.set d.firstOutput value
      ⟨.ok (), { r with state := { r.state with signals := signals } }, #[]⟩
    | .gate _ | .clock _ | .dtype => ⟨.error (.notASwitch name), r, #[]⟩

/-- Starts to monitor an output; its first sample is the one of the next cycle. -/
def addMonitor (r : Run net) (ref : OutputRef) : Step net Unit :=
  match net.output ref with
  | .error fault => ⟨.error (.invalidMonitorTarget ref.text (.reference fault)), r, #[]⟩
  | .ok o =>
    let label := net.outputLabel o
    match r.monitors.add? label o (r.cycle + 1) with
    | none => ⟨.error (.invalidMonitorTarget label .alreadyMonitored), r, #[]⟩
    | some monitors => ⟨.ok (), { r with monitors := monitors }, #[.monitoring ref.text]⟩

/-- Stops to monitor the output with this label; the answer is its trace. -/
def removeMonitor (r : Run net) (label : String) : Step net Trace :=
  match r.monitors.remove? label with
  | none => ⟨.error (.notMonitored label), r, #[]⟩
  | some (t, monitors) => ⟨.ok t, { r with monitors := monitors }, #[.stoppedMonitoring label]⟩

end Run

end SyncCircuit

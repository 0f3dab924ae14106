import SyncCircuit.Run.Command

/-!
# Runs in place

A run can be carried out in a workspace that is allocated once. The cold start overwrites the old
state entry by entry, a cycle copies the state to a buffer, from which it is restored if the cycle
fails, and flip-flops collect what they commit in another buffer. So a workspace holds remains of
what has happened before.

## Main definitions

* `CircuitState.work` — one cycle on the state itself.
* `Run.advanceInPlace` — a cycle that restores a copy of the state if it fails.
* `CircuitState.chillAll` — the cold state, written over another one.
* `Workspace` — a run with the buffers that it works in.
* `Workspace.perform` — a request, carried out in place.
* `Workspace.Step.view` — what is seen of a request from outside.
-/
namespace SyncCircuit

/-! ## Cycles in place -/

/-- One cycle on the state itself: the passes if it settles, and the state and the probes when it
stops. A cycle that does not settle leaves behind what it has written so far, also what flip-flops
have stored and sampled if only the second settling does not end. -/
def CircuitState.work (devices : List Device) (budget : Nat) (st : CircuitState) :
    Option Nat × CircuitState × Array Probe :=
  let st := st.tickClocks devices
  match Propagation.settle devices budget 1 ⟨st.signals, #[]⟩ with
  | (none, p) => (none, { st with signals := p.signals }, p.probes)
  | (some first, p) =>
    match { st with signals := p.signals }.clockFlipFlops devices with
    | (st, false) => (some first, st, p.probes)
    | (st, true) =>
      match Propagation.settle devices budget 1 ⟨st.signals, p.probes⟩ with
      | (second, p) => (second.map (first + ·), { st with signals := p.signals }, p.probes)

/-- Runs one cycle in place. The state is copied first, and the copy is restored if the cycle does
not settle. -/
def Run.advanceInPlace {net : Network} (r : Run net) : Step net Snapshot :=
  match r.failure with
  | some o => ⟨.error (.oscillation o), r, #[]⟩
  | none =>
    let saved := r.state
    let cycle := r.cycle + 1
    let (outcome, state, probes) := r.state.work net.devices r.maxPasses
    let r : Run net := { r with state := state, phase := .stabilizing }
    match outcome with
    | some passes =>
      let r : Run net := { r with
        cycle := cycle
        passes := passes
        phase := .settled
        monitors := r.monitors.record r.signals }
      ⟨.ok r.snapshot, r, (probes.map (.probe cycle)).push (.cycleSettled cycle passes)⟩
    | none =>
      let o : Oscillation := ⟨cycle, r.maxPasses⟩
      ⟨.error (.oscillation o), { r with state := saved }.fail o,
        (probes.map (.probe cycle)).push (.oscillated o)⟩

/-! ## The cold state in place -/

namespace CircuitState

/-- Overwrites the outputs and the memory of a device, given its index. -/
def chill (st : CircuitState) : Device × Nat → CircuitState
  | (d, i) => ⟨d.coldSignals st.signals, st.memory.set i (.cold d.component)⟩

/-- Clears the signals and overwrites what is kept of every device. -/
def chillAll (net : Network) (st : CircuitState) : CircuitState :=
  net.devices.zipIdx.foldl chill { st with signals := .ofSize net.outputCount }

end CircuitState

/-! ## Workspaces -/

/-- A run with the buffers that it works in. -/
structure Workspace (net : Network) where
  run : Run net
  /-- The copy of the state that the last cycle has made at its start. -/
  saved : CircuitState
  /-- What flip-flops have collected for the last commits. -/
  pending : List (Nat × Bool)

namespace Workspace

variable {net : Network}

/-- The result of a request: the answer, the workspace after it, and its log. -/
structure Step (net : Network) (α : Type) where
  answer : Except RunFault α
  workspace : Workspace net
  events : Array RunEvent

/-- What is seen of a request from outside: all but the buffers. -/
def Step.view {α : Type} (s : Step net α) : SyncCircuit.Step net α :=
  ⟨s.answer, s.workspace.run, s.events⟩

/-- Changes the answer of a step. -/
def Step.map {α β : Type} (f : α → β) (s : Step net α) : Step net β :=
  ⟨s.answer.map f, s.workspace, s.events⟩

/-- Replaces the run by what a request makes of it. -/
def put {α : Type} (w : Workspace net) (s : SyncCircuit.Step net α) : Step net α :=
  ⟨s.answer, { w with run := s.run }, s.events⟩

/-- Writes the state of the circuit. -/
def write (w : Workspace net) (state : CircuitState) : Workspace net :=
  { w with run := { w.run with state := state } }

/-! ### The cold start -/

/-- Starts the circuit cold in the state that is there. -/
def coldStart (w : Workspace net) : Workspace net × Array RunEvent :=
  let w : Workspace net := { w with
    run := { w.run with phase := .stabilizing, cycle := 0, passes := 0, failure := none } }
  let w := w.write (w.run.state.chillAll net)
  match Propagation.settle net.devices w.run.maxPasses 1 ⟨w.run.signals, #[]⟩ with
  | (some passes, p) =>
    let w := w.write ({ w.run.state with signals := p.signals }.sampleClks net.devices)
    ({ w with run := { w.run with phase := .idle, passes := passes } },
      (p.probes.map (.probe 0)).push (.coldStartSettled passes))
  | (none, p) =>
    let o : Oscillation := ⟨0, w.run.maxPasses⟩
    let w := w.write { w.run.state with signals := p.signals }
    ({ w with run := w.run.fail o }, (p.probes.map (.probe 0)).push (.oscillated o))

/-- A new workspace after its cold start. -/
def new (net : Network) (config : Config) : Workspace net :=
  let blank : CircuitState := ⟨.ofSize net.outputCount, List.replicate net.size .stateless⟩
  (coldStart
    { run :=
        { config := config
          state := blank
          monitors := Run.initialMonitors net config.maxTraceLength
          phase := .idle
          cycle := 0
          passes := 0
          failure := none }
      saved := blank
      pending := [] }).1

/-- Starts again, in the same workspace. -/
def reset (w : Workspace net) : Step net Unit :=
  let (w, events) := coldStart { w with
    run := { w.run with monitors := w.run.monitors.clear 1 } }
  ⟨.ok (), w, events.push .restarted⟩

/-- A new workspace that monitors other outputs than those the network asks for. -/
def newMonitoring (net : Network) (config : Config) (outputs : List Nat) : Workspace net :=
  let w := new net config
  { w with run := { w.run with
    monitors := Run.initialMonitors { net with monitors := outputs } config.maxTraceLength } }

/-! ### Cycles -/

/-- Adds what a device is about to commit to what has been collected before. -/
def collect (signals : Signals) (pending : List (Nat × Bool)) :
    Device × Memory → List (Nat × Bool)
  | (d, m) =>
    match d.commit? m signals with
    | some q => pending ++ [(d.firstOutput, q)]
    | none => pending

/-- Clocks the flip-flops through the buffer: it is emptied, filled and then written out. -/
def clockFlipFlops (w : Workspace net) : Workspace net × Bool :=
  let w := { w with pending := [] }
  let w := { w with
    pending := (net.devices.zip w.run.state.memory).foldl (collect w.run.signals) w.pending }
  let sampled := w.run.state.sampleClks net.devices
  match w.pending.foldl FlipFlop.commit (w.run.signals, false) with
  | (signals, changed) => (w.write { sampled with signals := signals }, changed)

/-- One cycle in place: the passes if it settles, and what it leaves. -/
def work (w : Workspace net) : Option Nat × Workspace net × Array Probe :=
  let w := w.write (w.run.state.tickClocks net.devices)
  match Propagation.settle net.devices w.run.maxPasses 1 ⟨w.run.signals, #[]⟩ with
  | (none, p) => (none, w.write { w.run.state with signals := p.signals }, p.probes)
  | (some first, p) =>
    match (w.write { w.run.state with signals := p.signals }).clockFlipFlops with
    | (w, false) => (some first, w, p.probes)
    | (w, true) =>
      match Propagation.settle net.devices w.run.maxPasses 1 ⟨w.run.signals, p.probes⟩ with
      | (second, p) =>
        (second.map (first + ·), w.write { w.run.state with signals := p.signals }, p.probes)

/-- Runs one cycle. The state is copied first, and the copy is restored if the cycle fails. -/
def advance (w : Workspace net) : Step net Snapshot :=
  match w.run.failure with
  | some o => ⟨.error (.oscillation o), w, #[]⟩
  | none =>
    let cycle := w.run.cycle + 1
    let w := { w with saved := w.run.state }
    match ({ w with run := { w.run with phase := .stabilizing } } : Workspace net).work with
    | (some passes, w, probes) =>
      let run : Run net := { w.run with
        cycle := cycle
        passes := passes
        phase := .settled
        monitors := w.run.monitors.record w.run.signals }
      ⟨.ok run.snapshot, { w with run := run },
        (probes.map (.probe cycle)).push (.cycleSettled cycle passes)⟩
    | (none, w, probes) =>
      let o : Oscillation := ⟨cycle, w.run.maxPasses⟩
      let w := w.write w.saved
      ⟨.error (.oscillation o), { w with run := w.run.fail o },
        (probes.map (.probe cycle)).push (.oscillated o)⟩

/-- Runs up to `n` cycles, stopping at the first that fails, and adds to a log. -/
def advanceLogged (w : Workspace net) (events : Array RunEvent) : Nat → Step net Unit
  | 0 => ⟨.ok (), w, events⟩
  | n + 1 =>
    match w.advance with
    | ⟨.ok _, w, new⟩ => w.advanceLogged (events ++ new) n
    | ⟨.error e, w, new⟩ => ⟨.error e, w, events ++ new⟩

/-! ### Requests -/

/-- Carries out a request. -/
def perform (w : Workspace net) : Command → Step net Reply
  | .advance => w.advance.map .snapshot
  | .advanceBy n => (w.advanceLogged #[] n).map fun _ => .done
  | .reset => w.reset.map fun _ => .done
  | c => w.put (w.run.perform c)

/-- The workspace after a list of requests. -/
def performAll (w : Workspace net) (cs : List Command) : Workspace net :=
  cs.foldl (fun w c => (w.perform c).workspace) w

end Workspace

end SyncCircuit

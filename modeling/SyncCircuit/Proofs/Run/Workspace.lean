import SyncCircuit.Proofs.Run.Chronicle
import SyncCircuit.Proofs.Run.Rollback

/-!
# Starting again in a used workspace

A run can be carried out in a workspace that is allocated once. The cold start overwrites the old
state entry by entry, a cycle copies the state to a buffer, from which it is restored if the cycle
fails, and flip-flops collect what they commit in another buffer. So a workspace holds remains of
what has happened before. None of them shows: whatever the buffers hold, a workspace does to its run
what the requests do to a run (`Workspace.view_perform`). After a reset not even the run remembers
more than which outputs it monitors.
-/
namespace SyncCircuit

/-- A loop that adds to a list. -/
theorem foldl_toList {α β : Type} (f : α → Option β) (xs : List α) (bs : List β) :
    xs.foldl (fun bs x => bs ++ (f x).toList) bs = bs ++ xs.filterMap f := by
  induction xs generalizing bs with
  | nil => rw [List.foldl_nil, List.filterMap_nil, List.append_nil]
  | cons x xs ih =>
    rw [List.foldl_cons, ih, List.filterMap_cons]
    cases f x with
    | none => rw [Option.toList_none, List.append_nil]
    | some b => rw [Option.toList_some, List.append_assoc, List.singleton_append]

/-! ## The cold state in place -/

namespace CircuitState

variable {net : Network} {st : CircuitState}

theorem signals_foldl_chill (ps : List (Device × Nat)) (st : CircuitState) :
    (ps.foldl chill st).signals = (ps.map Prod.fst).foldl Device.coldSignals st.signals := by
  induction ps generalizing st with
  | nil => rfl
  | cons p ps ih => exact ih _

/-- Overwriting the entries from an index on leaves those before it. -/
theorem memory_foldl_chill (devices : List Device) (i : Nat) (st : CircuitState)
    (hlength : st.memory.length = i + devices.length) :
    ((devices.zipIdx i).foldl chill st).memory =
      st.memory.take i ++ devices.map fun d => .cold d.component := by
  induction devices generalizing i st with
  | nil =>
    rw [List.length_nil, Nat.add_zero] at hlength
    rw [List.zipIdx_nil, List.foldl_nil, List.map_nil, List.append_nil,
      List.take_of_length_le (Nat.le_of_eq hlength)]
  | cons d ds ih =>
    rw [List.length_cons] at hlength
    have hset : (st.chill (d, i)).memory.take (i + 1) = st.memory.take i ++ [.cold d.component] := by
      rw [chill, List.take_add_one, List.getElem?_set_self (by omega), List.take_set_of_le le_rfl]
      rfl
    rw [List.zipIdx_cons, List.foldl_cons, ih, hset, List.map_cons, List.append_assoc]
    · rfl
    · rw [chill, List.length_set, hlength]
      omega

/-- **Nothing is left** of the old state, if it is one of the same network. -/
theorem chillAll_eq_coldState (hlength : st.memory.length = net.size) :
    st.chillAll net = net.coldState := by
  have hsignals := signals_foldl_chill net.devices.zipIdx { st with signals := .ofSize net.outputCount }
  have hmemory := memory_foldl_chill net.devices 0 { st with signals := .ofSize net.outputCount }
    (by rw [Nat.zero_add]; exact hlength)
  rw [List.zipIdx_map_fst] at hsignals
  rw [List.take_zero, List.nil_append] at hmemory
  rw [chillAll, Network.coldState, ← hsignals, ← hmemory]

/-! ## Memory has an entry for every device -/

theorem length_memory_coldState (net : Network) : net.coldState.memory.length = net.size := by
  rw [Network.coldState, List.length_map, Network.size]

theorem length_memory_tickClocks (h : st.memory.length = net.size) :
    (st.tickClocks net.devices).memory.length = net.size := by
  rw [tickClocks, List.length_zipWith, h, Network.size, Nat.min_self]

theorem length_memory_sampleClks (h : st.memory.length = net.size) :
    (st.sampleClks net.devices).memory.length = net.size := by
  rw [sampleClks, List.length_zipWith, h, Network.size, Nat.min_self]

theorem length_memory_clockFlipFlops {st' : CircuitState} {changed : Bool}
    (hclock : st.clockFlipFlops net.devices = (st', changed))
    (h : st.memory.length = net.size) : st'.memory.length = net.size :=
  (congrArg (·.1.memory.length) hclock).symm.trans (length_memory_sampleClks h)

theorem Settled.length_memory {budget passes : Nat} {st' : CircuitState}
    (hs : st.Settled net.devices budget passes st') (h : st.memory.length = net.size) :
    st'.memory.length = net.size := by
  cases hs with
  | once hfirst hclock =>
    exact length_memory_clockFlipFlops hclock (length_memory_tickClocks h)
  | twice hfirst hclock hsecond =>
    have hst' := length_memory_clockFlipFlops hclock (length_memory_tickClocks h)
    exact hst'

end CircuitState

namespace Run

variable {net : Network}

theorem length_memory_coldStart (r : Run net) :
    r.coldStart.1.state.memory.length = net.size := by
  have hcold := CircuitState.length_memory_coldState net
  rcases hsettle : Propagation.settle net.devices r.maxPasses 1 ⟨net.coldState.signals, #[]⟩
    with ⟨_ | k, p⟩
  · rw [coldStart_of_unsettled hsettle]
    exact hcold
  · rw [coldStart_of_settled hsettle]
    have hsettled : ({ net.coldState with signals := p.signals } : CircuitState).memory.length =
        net.size := hcold
    exact CircuitState.length_memory_sampleClks hsettled

theorem length_memory_perform {r : Run net} (h : r.state.memory.length = net.size) (c : Command) :
    (r.perform c).run.state.memory.length = net.size := by
  refine perform_induction (P := fun r => r.state.memory.length = net.size)
    (fun r _ => length_memory_coldStart r) (fun r hr => ?_) (fun _ _ _ _ _ _ _ hr => hr)
    (fun _ _ hr => hr) h c
  obtain ⟨phase, failure, hrun⟩ | ⟨passes, state, hsettled, hrun⟩ := r.run_advance_cases
  · rw [hrun]
    exact hr
  · rw [hrun]
    exact hsettled.length_memory hr

end Run

/-! ## Fresh monitors -/

namespace Run

variable {net : Network} {r : Run net} {h : Chronicle}

/-- **A network that asks for the outputs a run monitors** gets the monitors of the run, without
samples. -/
theorem Recorded.initialMonitors_eq (hr : r.Recorded h) :
    initialMonitors { net with monitors := r.monitors.traces.map (·.output) }
      r.config.maxTraceLength = r.monitors.clear 1 := by
  have hadd := Monitors.foldl_add? (m := ⟨[], r.config.maxTraceLength⟩)
    (fun t ht => (hr.covers t ht).label) hr.nodup
  rw [List.nil_append, ← hr.bound] at hadd
  rw [← hr.bound]
  exact hadd

/-- A cold start does not depend on anything but the settings and the monitors. -/
theorem coldStart_congr {r' : Run net} (hconfig : r.config = r'.config) :
    r.coldStart.1 = { r'.coldStart.1 with monitors := r.monitors } := by
  have hmax : r.maxPasses = r'.maxPasses := congrArg (·.maxPasses net.size) hconfig
  rcases hsettle : Propagation.settle net.devices r'.maxPasses 1 ⟨net.coldState.signals, #[]⟩
    with ⟨_ | k, p⟩
  · rw [coldStart_of_unsettled hsettle, coldStart_of_unsettled (hmax ▸ hsettle), hconfig, hmax]
  · rw [coldStart_of_settled hsettle, coldStart_of_settled (hmax ▸ hsettle), hconfig]

end Run

/-! ## Workspaces -/

namespace Workspace

variable {net : Network}

/-! ### The buffers do not show -/

/-- A cold start leaves nothing of the run but its settings and its monitors. -/
theorem view_coldStart {w : Workspace net} (h : w.run.state.memory.length = net.size) :
    (w.coldStart.1.run, w.coldStart.2) = w.run.coldStart := by
  have hcold := CircuitState.chillAll_eq_coldState h
  rw [coldStart, Run.coldStart]
  dsimp only [write, Run.signals, Run.maxPasses]
  rw [hcold]
  rcases Propagation.settle net.devices (w.run.config.maxPasses net.size) 1
    ⟨net.coldState.signals, #[]⟩ with ⟨_ | passes, p⟩ <;> rfl

theorem view_reset {w : Workspace net} (h : w.run.state.memory.length = net.size) :
    w.reset.view = w.run.reset := by
  have hstart := view_coldStart
    (w := { w with run := { w.run with monitors := w.run.monitors.clear 1 } }) h
  rw [reset, Run.reset, ← hstart]
  rfl

/-- What is collected is added to what the buffer holds. -/
theorem foldl_collect (signals : Signals) (ps : List (Device × Memory))
    (pending : List (Nat × Bool)) :
    ps.foldl (collect signals) pending =
      pending ++ ps.filterMap fun (d, m) =>
        (d.commit? m signals).map fun q => (d.firstOutput, q) := by
  have hcollect : collect signals = fun pending p =>
      pending ++ ((p.1.commit? p.2 signals).map fun q => (p.1.firstOutput, q)).toList := by
    funext pending ⟨d, m⟩
    rw [collect]
    cases d.commit? m signals with
    | none => rw [Option.map_none, Option.toList_none, List.append_nil]
    | some q => rfl
  rw [hcollect]
  exact foldl_toList _ ps pending

/-- **The buffer is emptied first**, so flip-flops commit nothing that was collected before. -/
theorem clockFlipFlops_eq (w : Workspace net) :
    w.clockFlipFlops =
      ({ w.write (w.run.state.clockFlipFlops net.devices).1 with
          pending := w.run.state.commits net.devices },
        (w.run.state.clockFlipFlops net.devices).2) := by
  rw [clockFlipFlops]
  dsimp only
  rw [foldl_collect, List.nil_append]
  rfl

theorem work_eq (w : Workspace net) : ∃ pending,
    w.work =
      ((w.run.state.work net.devices w.run.maxPasses).1,
        { w.write (w.run.state.work net.devices w.run.maxPasses).2.1 with pending := pending },
        (w.run.state.work net.devices w.run.maxPasses).2.2) := by
  rw [work, CircuitState.work]
  dsimp only [write, Run.signals, Run.maxPasses]
  rcases Propagation.settle net.devices (w.run.config.maxPasses net.size) 1
    ⟨(w.run.state.tickClocks net.devices).signals, #[]⟩ with ⟨_ | first, p⟩
  · exact ⟨w.pending, rfl⟩
  · dsimp only
    rw [clockFlipFlops_eq]
    dsimp only [write]
    rcases CircuitState.clockFlipFlops net.devices
      ⟨p.signals, (w.run.state.tickClocks net.devices).memory⟩ with ⟨state, _ | _⟩ <;>
      exact ⟨_, rfl⟩

/-- A cycle that overwrites the copy made by the last one. -/
theorem view_advance (w : Workspace net) : w.advance.view = w.run.advance := by
  rw [← Run.advanceInPlace_eq_advance, advance, Run.advanceInPlace]
  cases hfail : w.run.failure with
  | some o => rfl
  | none =>
    dsimp only
    obtain ⟨pending, hwork⟩ := work_eq
      ({ w with run := { w.run with phase := .stabilizing }, saved := w.run.state } : Workspace net)
    dsimp only [write, Run.maxPasses] at hwork ⊢
    rw [hwork, hfail]
    rcases w.run.state.work net.devices (w.run.config.maxPasses net.size)
      with ⟨_ | passes, state, probes⟩ <;> rfl

theorem view_advanceLogged (w : Workspace net) (events : Array RunEvent) (n : Nat) :
    (w.advanceLogged events n).view = w.run.advanceLogged events n := by
  induction n generalizing w events with
  | zero => rfl
  | succ n ih =>
    rw [advanceLogged, Run.advanceLogged, ← view_advance]
    rcases w.advance with ⟨_ | s, w', new⟩
    · rfl
    · exact ih w' (events ++ new)

/-- **Whatever the buffers hold**, a request does to the run what it does without them. -/
theorem view_perform {w : Workspace net} (h : w.run.state.memory.length = net.size) (c : Command) :
    (w.perform c).view = w.run.perform c := by
  cases c with
  | advance => exact congrArg (·.map Reply.snapshot) w.view_advance
  | advanceBy n => exact congrArg (·.map fun _ => Reply.done) (w.view_advanceLogged #[] n)
  | reset => exact congrArg (·.map fun _ => Reply.done) (view_reset h)
  | setSwitch name value | addMonitor ref | removeMonitor label => rfl

theorem run_new (net : Network) (config : Config) :
    (new net config).run = (Run.start net config).1 :=
  congrArg Prod.fst (view_coldStart List.length_replicate)

theorem run_performAll {w : Workspace net} (h : w.run.state.memory.length = net.size)
    (cs : List Command) : (w.performAll cs).run = w.run.performAll cs := by
  induction cs generalizing w with
  | nil => rfl
  | cons c cs ih =>
    have hrun : (w.perform c).workspace.run = (w.run.perform c).run :=
      congrArg SyncCircuit.Step.run (view_perform h c)
    have hlength := Run.length_memory_perform h c
    rw [← hrun] at hlength
    show ((w.perform c).workspace.performAll cs).run = _
    rw [ih hlength, hrun]
    rfl

/-- A workspace that has been used has room for the state of the network. -/
theorem length_memory_performAll {w : Workspace net} (h : w.run.state.memory.length = net.size)
    (cs : List Command) : (w.performAll cs).run.state.memory.length = net.size := by
  rw [run_performAll h]
  exact Run.performAll_induction (P := fun r => r.state.memory.length = net.size)
    (fun _ c hr => Run.length_memory_perform hr c) h cs

theorem length_memory_new (net : Network) (config : Config) :
    (new net config).run.state.memory.length = net.size := by
  rw [run_new]
  exact Run.length_memory_coldStart _

/-- Workspaces with the same run stay so, and cannot be told apart. -/
theorem view_perform_congr {w w' : Workspace net} (h : w.run.state.memory.length = net.size)
    (hrun : w.run = w'.run) (cs : List Command) (c : Command) :
    ((w.performAll cs).perform c).view = ((w'.performAll cs).perform c).view := by
  have h' := h
  rw [hrun] at h'
  rw [view_perform (length_memory_performAll h cs), view_perform (length_memory_performAll h' cs),
    run_performAll h, run_performAll h', hrun]

/-- **Reset is as good as new**, whatever was requested before and whether or not the run has
failed. The run is the one of a new workspace that monitors the same outputs, in the same order and
from cycle one: the same signals with the same marks, the same memory, phase, counts and failure.
What is left in the buffers never shows. -/
theorem reset_as_good_as_new (net : Network) (config : Config) (cs : List Command) :
    let w := (new net config).performAll cs
    let fresh := newMonitoring net config (w.run.monitors.traces.map (·.output))
    w.run = (Run.start net config).1.performAll cs ∧
    fresh.run.monitors =
      ⟨w.run.monitors.traces.map fun t => ⟨t.label, t.output, 1, #[]⟩, config.maxTraceLength⟩ ∧
    w.reset.answer = .ok () ∧
    w.reset.workspace.run = fresh.run ∧
    ∀ ds c,
      let again := (w.reset.workspace.performAll ds).perform c
      again.view = ((fresh.performAll ds).perform c).view ∧
      again.view = (w.run.reset.run.performAll ds).perform c := by
  intro w fresh
  have hrun : w.run = (Run.start net config).1.performAll cs := by
    rw [← run_new]
    exact run_performAll (length_memory_new net config) cs
  have hlength : w.run.state.memory.length = net.size :=
    length_memory_performAll (length_memory_new net config) cs
  have hrecorded := (Run.recorded_start net config).performAll cs
  have hconfig := Run.config_performAll net config cs
  rw [← hrun] at hrecorded hconfig
  have hmonitors : fresh.run.monitors = w.run.monitors.clear 1 := by
    rw [← hrecorded.initialMonitors_eq, hconfig]
    rfl
  have hreset : w.reset.workspace.run = w.run.reset.run :=
    congrArg SyncCircuit.Step.run (view_reset hlength)
  have hfresh : w.reset.workspace.run = fresh.run := by
    calc w.reset.workspace.run
        = { (Run.start net config).1 with monitors := w.run.monitors.clear 1 } := by
          rw [hreset]
          exact Run.coldStart_congr (r := { w.run with monitors := w.run.monitors.clear 1 }) hconfig
      _ = fresh.run := by
          rw [← hmonitors, ← run_new]
          rfl
  have hlength' : w.reset.workspace.run.state.memory.length = net.size := by
    rw [hreset]
    exact Run.length_memory_coldStart _
  refine ⟨hrun, ?_, rfl, hfresh, fun ds c => ⟨view_perform_congr hlength' hfresh ds c, ?_⟩⟩
  · rw [hmonitors, ← hconfig, ← hrecorded.bound]
    rfl
  · rw [view_perform (length_memory_performAll hlength' ds), run_performAll hlength', hreset]

end Workspace

end SyncCircuit

import SyncCircuit.Proofs.Build.Containment
import SyncCircuit.Proofs.Run.Lookups

/-!
# No lookup misses

A run on the tables of a network that has been built never misses: every request and every
observation does what it does without tables (`Run.build_no_lookup_misses`). The signals and the
memory have room for the network and the monitors record outputs of the network, which every request
preserves, failed cycles and resets included. The devices and outputs that a caller can get hold of
are devices and outputs of the network, so questions about them find an answer, too.

## Main definitions

* `Run.InRange` — what a run is sure to find.
* `Tables.Obtainable` — the devices and outputs that a caller can get hold of.
-/
namespace SyncCircuit

/-! ## Runs in range -/

/-- The state of a run has room for the network, and its monitors record outputs of the network. -/
structure Run.InRange {net : Network} (r : Run net) : Prop where
  fits : r.state.Fits net
  recorded : r.WellRecorded

namespace Run.InRange

variable {net : Network} {r : Run net}

theorem fits_coldStart (r : Run net) : r.coldStart.1.state.Fits net := by
  have hcold := CircuitState.Fits.coldState net
  rcases hsettle : Propagation.settle net.devices r.maxPasses 1 ⟨net.coldState.signals, #[]⟩
    with ⟨_ | k, p⟩
  · rw [coldStart_of_unsettled hsettle]
    exact hcold.settle hsettle
  · rw [coldStart_of_settled hsettle]
    exact (hcold.settle hsettle).sampleClks

theorem start (hmonitors : ∀ o ∈ net.monitors, o < net.outputCount) (config : Config) :
    (Run.start net config).1.InRange := ⟨fits_coldStart _, .start hmonitors config⟩

end Run.InRange

namespace CircuitState

variable {net : Network} {st st' : CircuitState} {devices : List Device} {budget passes : Nat}

theorem Fits.settled (hst : st.Fits net) (hs : st.Settled net.devices budget passes st') :
    st'.Fits net := by
  cases hs with
  | once hfirst hclock =>
    have hclocked := (hst.tickClocks.settle hfirst).clockFlipFlops
    rw [hclock] at hclocked
    exact hclocked
  | twice hfirst hclock hsecond =>
    have hclocked := (hst.tickClocks.settle hfirst).clockFlipFlops
    rw [hclock] at hclocked
    exact hclocked.settle hsecond

end CircuitState

namespace Run.InRange

variable {net : Network} {r : Run net}

theorem fits_advance (hfits : r.state.Fits net) : r.advance.run.state.Fits net := by
  obtain ⟨phase, failure, hrun⟩ | ⟨passes, state, hsettled, hrun⟩ := r.run_advance_cases
  · rw [hrun]
    exact hfits
  · rw [hrun]
    exact hfits.settled hsettled

theorem advance (hr : r.InRange) : r.advance.run.InRange :=
  ⟨fits_advance hr.fits, hr.recorded.advance⟩

/-- **Every request** leaves a run in range, whether or not it is carried out. -/
theorem perform (hr : r.InRange) (h : net.WellFormed) (c : Command) :
    (r.perform c).run.InRange where
  fits := by
    refine perform_induction (P := fun r => r.state.Fits net) (fun r _ => fits_coldStart r)
      (fun r hr => fits_advance hr) ?_ (fun _ _ hr => hr) hr.fits c
    intro r name dev initial value _ _ hr
    exact ⟨by rw [Signals.size_set]; exact hr.signals, hr.memory⟩
  recorded := hr.recorded.perform h c

theorem performAll (hr : r.InRange) (h : net.WellFormed) (cs : List Command) :
    (r.performAll cs).InRange := performAll_induction (fun _ c hr => hr.perform h c) hr cs

theorem readBit (hr : r.InRange) {o : Nat} (ho : o < net.outputCount) :
    r.signals.readBit o = .ok (r.signals.get o) :=
  Signals.readBit_of_lt (Nat.lt_of_lt_of_le ho hr.fits.signals)

theorem snapshot_ok (hr : r.InRange) : Tables.snapshot r = .ok r.snapshot := by
  have hvalues : (r.monitors.traces.mapM fun trace => do
      let v ← r.signals.readBit trace.output
      pure (trace.label, v) : Except IndexFault (List (String × Bool))) =
      .ok (r.monitors.traces.map fun trace => (trace.label, r.signals.get trace.output)) :=
    mapM_eq_ok fun trace htrace => by
      rw [hr.readBit (hr.recorded.outputs trace htrace)]
      rfl
  rw [Tables.snapshot, hvalues]
  rfl

end Run.InRange

/-! ## Requests -/

theorem Tables.record_ok {m : Monitors} {s : Signals} (hm : ∀ t ∈ m.traces, t.output < s.size) :
    Tables.record m s = .ok (m.record s) := by
  have htraces : (m.traces.mapM fun trace => do
      let v ← s.readBit trace.output
      pure (trace.push v m.bound) : Except IndexFault (List Trace)) =
      .ok (m.traces.map fun trace => trace.push (s.get trace.output) m.bound) :=
    mapM_eq_ok fun trace htrace => by
      rw [Signals.readBit_of_lt (hm trace htrace)]
      rfl
  rw [Tables.record, htraces]
  rfl

namespace Network

variable {net : Network}

theorem initialMonitors_tables (hmonitors : ∀ o ∈ net.monitors, o < net.outputCount)
    (bound : Option Nat) :
    net.tables.initialMonitors bound = .ok (Run.initialMonitors net bound) := by
  refine foldlM_eq_ok (P := fun _ => True) ?_ trivial
  intro m _ o ho
  rw [Tables.addInitial, outputLabel_tables (hmonitors o ho)]
  exact ⟨rfl, trivial⟩

theorem maxPasses_tables (r : Run net) : net.tables.maxPasses r.config = r.maxPasses := by
  rw [Tables.maxPasses, Run.maxPasses, tables, List.length_map, size]

end Network

namespace Network.WellFormed

variable {net : Network} {r : Run net}

theorem coldStart_tables (h : net.WellFormed) (hmemory : r.state.memory.length = net.size) :
    net.tables.coldStart r = .ok r.coldStart := by
  have hcold := CircuitState.Fits.coldState net
  have hmax := maxPasses_tables r
  rw [Tables.coldStart, h.chillAll_tables hmemory, ok_bind]
  dsimp only
  rw [hmax, h.settle_tables _ _ (p := ⟨net.coldState.signals, #[]⟩) hcold.signals, ok_bind]
  rcases hsettle : Propagation.settle net.devices r.maxPasses 1 ⟨net.coldState.signals, #[]⟩
    with ⟨_ | k, p⟩
  · rw [Run.coldStart_eq_of_none hsettle]
    rfl
  · dsimp only
    rw [h.sampleClks_tables (hcold.settle hsettle), Run.coldStart_eq_of_some hsettle]
    rfl

theorem start_tables (h : net.WellFormed) (hmonitors : ∀ o ∈ net.monitors, o < net.outputCount)
    (config : Config) : net.tables.start net config = .ok (Run.start net config) := by
  have hblank : (List.replicate net.tables.nodes.length Memory.stateless).length = net.size := by
    rw [List.length_replicate, tables, List.length_map, size]
  rw [Tables.start, initialMonitors_tables hmonitors, ok_bind, h.coldStart_tables hblank]
  -- A cold start does not depend on the state that it overwrites.
  rfl

theorem reset_tables (h : net.WellFormed) (hr : r.InRange) : net.tables.reset r = .ok r.reset := by
  have hcold := h.coldStart_tables (r := { r with monitors := r.monitors.clear 1 }) hr.fits.memory
  rw [Tables.reset, hcold]
  rfl

/-- **A cycle** does not miss, be it the one that fails. -/
theorem advance_tables (h : net.WellFormed) (hr : r.InRange) :
    net.tables.advance r = .ok r.advance := by
  have hnext := hr.advance
  have hmax := maxPasses_tables r
  rcases r.advance_cases with ⟨o, hfail, hadvance⟩ |
    ⟨passes, state, probes, hfail, hout, hadvance⟩ | ⟨probes, hfail, hout, hadvance⟩
  · rw [Tables.advance, hfail, hadvance]
    rfl
  · rw [hadvance] at hnext ⊢
    dsimp only at hnext
    rw [hfail] at hnext
    have hrecord : Tables.record r.monitors state.signals = .ok (r.monitors.record state.signals) :=
      Tables.record_ok fun t ht => Nat.lt_of_lt_of_le (hr.recorded.outputs t ht) hnext.fits.signals
    rw [Tables.advance, hfail]
    dsimp only
    rw [hmax, h.attempt_tables hr.fits, hout, ok_bind]
    dsimp only
    rw [hrecord, ok_bind, hnext.snapshot_ok]
    rfl
  · rw [Tables.advance, hfail, hadvance]
    dsimp only
    rw [hmax, h.attempt_tables hr.fits, hout]
    rfl

theorem advanceLogged_tables (h : net.WellFormed) (hr : r.InRange) (events : Array RunEvent)
    (n : Nat) : net.tables.advanceLogged r events n = .ok (r.advanceLogged events n) := by
  induction n generalizing r events with
  | zero => rfl
  | succ n ih =>
    have hnext := hr.advance
    rw [Tables.advanceLogged, h.advance_tables hr, ok_bind, Run.advanceLogged]
    rcases hadvance : r.advance with ⟨_ | s, r', new⟩
    · rfl
    · rw [hadvance] at hnext
      exact ih hnext (events ++ new)

theorem setSwitch_tables (h : net.WellFormed) (hr : r.InRange) (name : String) (value : Bool) :
    net.tables.setSwitch r name value = .ok (r.setSwitch name value) := by
  rw [Tables.setSwitch, Run.setSwitch, index?_tables, device?_eq_bind]
  cases hi : net.index? name with
  | none => rfl
  | some i =>
    obtain ⟨dev, hdev, -⟩ := h.index?_eq_some_iff_name.mp hi
    dsimp only
    rw [Option.bind_some, hdev, node_tables hdev, ok_bind]
    dsimp only [Device.node]
    cases hcomp : dev.component with
    | gate g | clock halfPeriod | dtype => rfl
    | switch initial =>
      have hlt : dev.firstOutput < r.signals.size :=
        Nat.lt_of_lt_of_le (h.firstOutput_lt (List.mem_of_getElem? hdev)) hr.fits.signals
      dsimp only
      rw [Signals.writeBit_of_lt hlt]
      rfl

theorem addMonitor_tables (h : net.WellFormed) (r : Run net) (ref : OutputRef) :
    net.tables.addMonitor r ref = .ok (r.addMonitor ref) := by
  rw [Tables.addMonitor, Run.addMonitor, output_tables, ok_bind]
  cases hout : net.output ref with
  | error fault => rfl
  | ok o =>
    dsimp only
    rw [outputLabel_tables (h.output_lt_of_eq_ok hout), ok_bind]
    cases r.monitors.add? (net.outputLabel o) o (r.cycle + 1) <;> rfl

/-- **No request misses**, and each does what it does without tables. -/
theorem perform_tables (h : net.WellFormed) (hr : r.InRange) (c : Command) :
    net.tables.perform r c = .ok (r.perform c) := by
  cases c with
  | advance => rw [Tables.perform, h.advance_tables hr]; rfl
  | advanceBy n => rw [Tables.perform, h.advanceLogged_tables hr]; rfl
  | reset => rw [Tables.perform, h.reset_tables hr]; rfl
  | setSwitch name value => rw [Tables.perform, h.setSwitch_tables hr]; rfl
  | addMonitor ref => rw [Tables.perform, h.addMonitor_tables]; rfl
  | removeMonitor label => rfl

theorem performAll_tables (h : net.WellFormed) (hr : r.InRange) (cs : List Command) :
    net.tables.performAll r cs = .ok (r.performAll cs) := by
  refine foldlM_eq_ok (P := fun r => r.InRange) (fun r hr c _ => ?_) hr
  rw [h.perform_tables hr]
  exact ⟨rfl, hr.perform h c⟩

end Network.WellFormed

/-! ## Observations -/

/-- The state of a device that is a switch. -/
def Run.switchState? {net : Network} (r : Run net) (dev : Device) : Option (String × Bool) :=
  match dev.component with
  | .switch _ => some (dev.name, r.signals.get dev.firstOutput)
  | .gate _ | .clock _ | .dtype => none

namespace Network.WellFormed

variable {net : Network} {r : Run net}

theorem value?_tables (h : net.WellFormed) (hr : r.InRange) (ref : OutputRef) :
    net.tables.value? r ref = .ok (r.value? ref) := by
  rw [Tables.value?, Run.value?, output_tables, ok_bind]
  cases hout : net.output ref with
  | error fault => rfl
  | ok o =>
    dsimp only
    rw [hr.readBit (h.output_lt_of_eq_ok hout)]
    rfl

/-- The name of a device leads back to it, so each switch is read at its own output. -/
theorem switch?_tables (h : net.WellFormed) (hr : r.InRange) {dev : Device}
    (hmem : dev ∈ net.devices) :
    net.tables.switch? r (dev.name, dev.component) = .ok (r.switchState? dev) := by
  obtain ⟨i, hdev⟩ := List.mem_iff_getElem?.mp hmem
  have hindex := h.index?_eq_some_iff_name.mpr ⟨dev, hdev, rfl⟩
  rw [Run.switchState?]
  cases hcomp : dev.component with
  | gate g | clock halfPeriod | dtype => rfl
  | switch initial =>
    rw [← index?_tables] at hindex
    dsimp only [Tables.switch?]
    rw [hindex]
    dsimp only
    rw [node_tables hdev, ok_bind]
    dsimp only [Device.node]
    rw [hr.readBit (h.firstOutput_lt hmem)]
    rfl

theorem switches_tables (h : net.WellFormed) (hr : r.InRange) :
    net.tables.switches r = .ok r.switches := by
  have hstates : (net.devices.map fun dev => (dev.name, dev.component)).mapM
      (net.tables.switch? r) = .ok (net.devices.map r.switchState?) := by
    rw [List.mapM_map]
    exact mapM_eq_ok fun dev hmem => h.switch?_tables hr hmem
  have hswitches : (net.devices.map r.switchState?).filterMap id = r.switches := by
    rw [List.filterMap_map]
    rfl
  rw [Tables.switches, devices_tables, ok_bind, hstates, ← hswitches]
  rfl

end Network.WellFormed

/-! ## What callers can get hold of -/

/-- What a caller holds on to of a network: a device or an output, by number. -/
inductive Handle where
  | device (i : Nat)
  | output (o : Nat)
deriving DecidableEq, Repr

/-- Whether there is such a device or such an output. -/
def Handle.InRange (net : Network) : Handle → Prop
  | .device i => i < net.size
  | .output o => o < net.outputCount

/-- **The devices and outputs that a caller can get hold of**: by name or by reference, from the
monitors of the network, from the traces of any run after any requests, and by asking about devices
and outputs that the caller has already. -/
inductive Tables.Obtainable (t : Tables) (net : Network) : Handle → Prop where
  | named {name : String} {i : Nat} (hindex : t.index? name = some i) : Obtainable t net (.device i)
  | referenced {ref : OutputRef} {o : Nat} (hout : t.output ref = .ok (.ok o)) :
      Obtainable t net (.output o)
  | monitored {o : Nat} (hmonitor : o ∈ t.monitors) : Obtainable t net (.output o)
  | recorded {config : Config} {first r : Run net} {events : Array RunEvent} {cs : List Command}
      {trace : Trace} (hstart : t.start net config = .ok (first, events))
      (hperform : t.performAll first cs = .ok r) (htrace : trace ∈ r.monitors.traces) :
      Obtainable t net (.output trace.output)
  | owner {o i : Nat} (ho : Obtainable t net (.output o)) (howner : t.outputDevice o = .ok i) :
      Obtainable t net (.device i)
  | driver {i slot o : Nat} (hi : Obtainable t net (.device i))
      (hdriver : t.driver? i slot = .ok (some o)) : Obtainable t net (.output o)
  | dependent {i j : Nat} {js : List Nat} (hi : Obtainable t net (.device i))
      (hdependents : t.dependents i = .ok js) (hj : j ∈ js) : Obtainable t net (.device j)

namespace Network.WellFormed

variable {net : Network}

/-- **Questions lead to devices and outputs of the network**, if dependents and monitors do. -/
theorem inRange_of_obtainable (h : net.WellFormed)
    (hmonitors : ∀ o ∈ net.monitors, o < net.outputCount)
    (hdependents : ∀ dev ∈ net.devices, ∀ j ∈ dev.dependents, j < net.size)
    {handle : Handle} (hobtain : net.tables.Obtainable net handle) : handle.InRange net := by
  induction hobtain with
  | named hindex =>
    rw [index?_tables] at hindex
    exact (List.findIdx?_eq_some_iff_getElem.mp hindex).1
  | referenced hout =>
    rw [output_tables] at hout
    exact h.output_lt_of_eq_ok (Except.ok.inj hout)
  | monitored hmonitor => exact hmonitors _ hmonitor
  | @recorded config first r events cs trace hstart hperform htrace =>
    have hfirst := Run.InRange.start hmonitors config
    rw [h.start_tables hmonitors] at hstart
    rw [Except.ok.inj hstart] at hfirst
    rw [h.performAll_tables hfirst] at hperform
    have hr := hfirst.performAll h cs
    rw [Except.ok.inj hperform] at hr
    exact hr.recorded.outputs trace htrace
  | @owner o i ho howner ih =>
    have hpin : net.outputs[o]? = some _ := List.getElem?_eq_getElem ih
    obtain ⟨dev, hdev, -⟩ := getElem?_outputs_eq_some_iff.mp hpin
    rw [outputDevice_tables hpin] at howner
    rw [← Except.ok.inj howner]
    exact (List.getElem?_eq_some_iff.mp hdev).1
  | @driver i slot o hi hdriver ih =>
    have hdev : net.devices[i]? = some _ := List.getElem?_eq_getElem ih
    rw [driver?_tables hdev] at hdriver
    exact h.driver_lt _ (List.mem_of_getElem? hdev) o
      (List.mem_of_getElem? (Except.ok.inj hdriver))
  | @dependent i j js hi hjs hj ih =>
    have hdev : net.devices[i]? = some _ := List.getElem?_eq_getElem ih
    rw [dependents_tables hdev] at hjs
    rw [← Except.ok.inj hjs] at hj
    exact hdependents _ (List.mem_of_getElem? hdev) j hj

end Network.WellFormed

namespace Description

variable {d : Description} {options : BuildOptions} {net : Network}

theorem build_dependents_lt (hb : d.build options = .ok net) {dev : Device}
    (hmem : dev ∈ net.devices) {j : Nat} (hj : j ∈ dev.dependents) : j < net.size := by
  obtain ⟨i, hdev⟩ := List.mem_iff_getElem?.mp hmem
  have hdependents := (build_realizes d options net hb).dependents i dev hdev
  obtain ⟨dev', hdev', -⟩ := (hdependents.2.1 j).mp hj
  exact (List.getElem?_eq_some_iff.mp hdev').1

theorem build_name_ne_empty (hb : d.build options = .ok net) {dev : Device}
    (hmem : dev ∈ net.devices) : dev.name ≠ "" := by
  obtain ⟨hv, rfl⟩ := build_eq_ok_iff.mp hb
  obtain ⟨c, hc, hname⟩ := hv.toWellDeclared.exists_name_eq hmem
  obtain ⟨first, rest, hletters, -⟩ := (hv.names c hc).letter
  rw [← hname]
  intro hempty
  rw [hempty] at hletters
  cases hletters

end Description

namespace Run

/-- **No lookup misses**, on the tables that the builder leaves behind for whatever it builds. A run
starts and carries out any requests as it does without tables, with any names, references and
labels, and so do the questions to the run after that and to the network. Every device that a caller
can get hold of is one of the network: its name is not empty, and its component, the labels and
drivers of its slots, whichever are asked for, and its dependents are found. Every output that a
caller can get hold of has a device, a label and a bit in the signals. A flip-flop has a driver for
each of its inputs. -/
theorem build_no_lookup_misses {d : Description} {options : BuildOptions} {net : Network}
    (hb : d.build options = .ok net) (config : Config) (cs : List Command) :
    let t := d.tables
    let r := (start net config).1.performAll cs
    t.start net config = .ok (start net config) ∧
    t.performAll (start net config).1 cs = .ok r ∧
    (∀ c, t.perform r c = .ok (r.perform c)) ∧
    Tables.snapshot r = .ok r.snapshot ∧
    t.switches r = .ok r.switches ∧
    (∀ ref, t.value? r ref = .ok (r.value? ref)) ∧
    t.devices = .ok (net.devices.map fun dev => (dev.name, dev.component)) ∧
    t.dot = .ok net.dot ∧
    (∀ name, t.index? name = net.index? name) ∧
    (∀ ref, t.output ref = .ok (net.output ref)) ∧
    (∀ i, t.Obtainable net (.device i) → ∃ dev, net.devices[i]? = some dev ∧ dev.name ≠ "" ∧
      t.deviceName i = .ok dev.name ∧ t.component i = .ok dev.component ∧
      (∀ slot, t.inputLabel i slot = .ok (dev.inputLabel slot)) ∧
      (∀ slot, t.driver? i slot = .ok (dev.driver? slot)) ∧
      t.dependents i = .ok dev.dependents) ∧
    (∀ o, t.Obtainable net (.output o) →
      (∃ i, net.outputDevice? o = some i ∧ t.outputDevice o = .ok i) ∧
      t.outputLabel o = .ok (net.outputLabel o) ∧
      r.signals.readBit o = .ok (r.signals.get o)) ∧
    ∀ i dev, net.devices[i]? = some dev → dev.component = .dtype → ∀ pin : FlipFlop.Input,
      ∃ o, dev.driver? pin.index = some o ∧ t.input r.signals i pin = .ok (r.signals.get o) := by
  have h := Description.build_wellFormed hb
  have hmonitors := Description.build_monitors_lt hb
  have htables : d.tables = net.tables := by
    obtain ⟨hv, rfl⟩ := Description.build_eq_ok_iff.mp hb
    exact hv.toWellDeclared.tables_eq
  have hstart := InRange.start hmonitors config
  have hr := hstart.performAll h cs
  have hrange : ∀ {handle}, net.tables.Obtainable net handle → handle.InRange net :=
    h.inRange_of_obtainable hmonitors fun dev hmem j hj =>
      Description.build_dependents_lt hb hmem hj
  dsimp only
  rw [htables]
  refine ⟨h.start_tables hmonitors config, h.performAll_tables hstart cs, h.perform_tables hr,
    hr.snapshot_ok, h.switches_tables hr, h.value?_tables hr, net.devices_tables, h.dot_tables,
    net.index?_tables, net.output_tables, ?_, ?_, ?_⟩
  · intro i hi
    have hdev : net.devices[i]? = some _ := List.getElem?_eq_getElem (hrange hi)
    exact ⟨_, hdev, Description.build_name_ne_empty hb (List.mem_of_getElem? hdev),
      Network.deviceName_tables hdev, Network.component_tables hdev,
      Network.inputLabel_tables hdev, Network.driver?_tables hdev, Network.dependents_tables hdev⟩
  · intro o ho
    have hlt : o < net.outputCount := hrange ho
    have hpin : net.outputs[o]? = some _ := List.getElem?_eq_getElem hlt
    refine ⟨⟨_, ?_, Network.outputDevice_tables hpin⟩, Network.outputLabel_tables hlt,
      hr.readBit hlt⟩
    rw [Network.outputDevice?, hpin]
    rfl
  · intro i dev hdev hcomp pin
    obtain ⟨o, ho, -⟩ := h.exists_driver (List.mem_of_getElem? hdev) hcomp pin
    have hinput := h.input_tables hdev hcomp hr.fits.signals pin
    rw [Device.input, ho] at hinput
    exact ⟨o, ho, hinput⟩

theorem latchAndRing_no_lookup_misses :
    latchAndRing.build { allowFeedback := true } = .ok latchAndRing.network ∧
    let t := latchAndRing.tables
    let cs : List Command := [.advanceBy 3, .setSwitch "X" true, .reset,
      .addMonitor ⟨"F", some "QBAR"⟩, .removeMonitor "N", .advance]
    let r := (start latchAndRing.network {}).1.performAll cs
    t.performAll (start latchAndRing.network {}).1 cs = .ok r ∧
    t.perform r .advance = .ok (r.perform .advance) ∧
    t.dot = .ok latchAndRing.network.dot ∧
    t.deviceName 3 = .ok "F" ∧ t.driver? 3 9 = .ok none ∧
    t.outputLabel 4 = .ok (latchAndRing.network.outputLabel 4) ∧
    r.signals.readBit 4 = .ok (r.signals.get 4) ∧
    t.input r.signals 3 .data = .ok (r.signals.get 1) ∧
    -- There is no eighth device and no ninth output.
    t.deviceName 7 = .error (.entry .names 7 7) ∧ t.outputLabel 8 = .error (.entry .outputs 8 8) := by
  have hb : latchAndRing.build { allowFeedback := true } = .ok latchAndRing.network := rfl
  obtain ⟨-, hall, hperform, -, -, -, -, hdot, -, -, hdevice, houtput, hinput⟩ :=
    build_no_lookup_misses hb {} [.advanceBy 3, .setSwitch "X" true, .reset,
      .addMonitor ⟨"F", some "QBAR"⟩, .removeMonitor "N", .advance]
  have hdev : latchAndRing.network.devices[3]? = some ⟨"F", .dtype, [1, 0, 2, 2], 3, [4]⟩ := by
    decide
  have hindex : latchAndRing.tables.index? "F" = some 3 := by decide
  have hqbar : latchAndRing.tables.output ⟨"F", some "QBAR"⟩ = .ok (.ok 4) := by decide
  obtain ⟨dev, hdev', -, hname, -, -, hdriver, -⟩ := hdevice 3 (.named hindex)
  obtain rfl := Option.some.inj (hdev.symm.trans hdev')
  obtain ⟨-, hlabel, hread⟩ := houtput 4 (.referenced hqbar)
  obtain ⟨o, ho, hdata⟩ := hinput 3 _ hdev rfl .data
  obtain rfl : 1 = o := Option.some.inj ho
  exact ⟨hb, hall, hperform .advance, hdot, hname, hdriver 9, hlabel, hread, hdata, by decide,
    by decide⟩

end Run

end SyncCircuit

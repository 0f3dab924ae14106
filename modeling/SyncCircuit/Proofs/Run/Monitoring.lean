import SyncCircuit.Proofs.Build.Monitoring
import SyncCircuit.Proofs.Network.Labels
import SyncCircuit.Proofs.Run.Workspace

/-!
# Monitoring from the start and on request

A network says which outputs are monitored from the start, and a run of it can be asked to monitor
more. Nothing else in a run looks at the monitors of the network (`Run.perform_transfer`). So a
monitor that the description asks for is the same as one that is requested before the first cycle:
the same references are accepted, and later on the runs cannot be told apart.

## Main definitions

* `Run.transfer` — a run, taken as one of a network with other monitors.
* `Run.Accepts` — a run accepts a list of monitors, one after the other.
* `Run.Same` — runs of two networks hold the same.
-/
namespace SyncCircuit

variable {net : Network}

/-! ## Runs of networks with the same devices -/

/-- A run, taken as one of a network that monitors other outputs from the start. -/
def Run.transfer (r : Run net) (monitors : List Nat) : Run { net with monitors := monitors } where
  config := r.config
  state := r.state
  monitors := r.monitors
  phase := r.phase
  cycle := r.cycle
  passes := r.passes
  failure := r.failure

/-- A step, taken as one of a network that monitors other outputs from the start. -/
def Step.transfer {α : Type} (s : Step net α) (monitors : List Nat) :
    Step { net with monitors := monitors } α where
  answer := s.answer
  run := s.run.transfer monitors
  events := s.events

namespace Run

variable {r : Run net} (monitors : List Nat)

theorem coldStart_transfer (r : Run net) :
    (r.transfer monitors).coldStart = (r.coldStart.1.transfer monitors, r.coldStart.2) := by
  rcases hsettle : Propagation.settle net.devices r.maxPasses 1 ⟨net.coldState.signals, #[]⟩
    with ⟨_ | k, p⟩
  · rw [coldStart_eq_of_none hsettle]
    exact coldStart_eq_of_none (r := r.transfer monitors) hsettle
  · rw [coldStart_eq_of_some hsettle]
    exact coldStart_eq_of_some (r := r.transfer monitors) hsettle

theorem advance_transfer (r : Run net) :
    (r.transfer monitors).advance = r.advance.transfer monitors := by
  rcases r.advance_cases with ⟨o, hfail, hadvance⟩ |
    ⟨passes, state, probes, hfail, hout, hadvance⟩ | ⟨probes, hfail, hout, hadvance⟩
  · rw [hadvance]
    exact advance_of_failure (r := r.transfer monitors) hfail
  · rw [hadvance]
    exact advance_eq_of_some (r := r.transfer monitors) hfail hout
  · rw [hadvance]
    exact advance_eq_of_none (r := r.transfer monitors) hfail hout

theorem advanceLogged_transfer (r : Run net) (events : Array RunEvent) (n : Nat) :
    (r.transfer monitors).advanceLogged events n =
      (r.advanceLogged events n).transfer monitors := by
  induction n generalizing r events with
  | zero => rfl
  | succ n ih =>
    have hstep := r.advance_transfer monitors
    cases hanswer : r.advance.answer with
    | ok s =>
      have hanswer' : (r.transfer monitors).advance.answer = .ok s := by
        rw [hstep]
        exact hanswer
      rw [advanceLogged_succ_of_ok hanswer, advanceLogged_succ_of_ok hanswer', hstep]
      exact ih _ _
    | error e =>
      have hanswer' : (r.transfer monitors).advance.answer = .error e := by
        rw [hstep]
        exact hanswer
      rw [advanceLogged_succ_of_error hanswer, advanceLogged_succ_of_error hanswer', hstep]
      rfl

theorem reset_transfer (r : Run net) : (r.transfer monitors).reset = r.reset.transfer monitors := by
  have hcold := coldStart_transfer monitors ({ r with monitors := r.monitors.clear 1 } : Run net)
  exact congrArg (fun p => (⟨.ok (), p.1, p.2.push .restarted⟩ : Step _ Unit)) hcold

theorem setSwitch_transfer (r : Run net) (name : String) (value : Bool) :
    (r.transfer monitors).setSwitch name value = (r.setSwitch name value).transfer monitors := by
  cases hdev : net.device? name with
  | none =>
    have hdev' : ({ net with monitors := monitors } : Network).device? name = none := hdev
    rw [setSwitch, setSwitch, hdev, hdev']
    rfl
  | some dev =>
    have hdev' : ({ net with monitors := monitors } : Network).device? name = some dev := hdev
    rw [setSwitch, setSwitch, hdev, hdev']
    dsimp only
    cases dev.component <;> rfl

theorem addMonitor_transfer (r : Run net) (ref : OutputRef) :
    (r.transfer monitors).addMonitor ref = (r.addMonitor ref).transfer monitors := by
  cases hout : net.output ref with
  | error fault =>
    have hout' : ({ net with monitors := monitors } : Network).output ref = .error fault := hout
    rw [addMonitor, addMonitor, hout, hout']
    rfl
  | ok o =>
    have hout' : ({ net with monitors := monitors } : Network).output ref = .ok o := hout
    rw [addMonitor, addMonitor, hout, hout']
    dsimp only [transfer]
    cases hadd : r.monitors.add? (net.outputLabel o) o (r.cycle + 1) with
    | none =>
      have hadd' : r.monitors.add? (({ net with monitors := monitors } : Network).outputLabel o) o
          (r.cycle + 1) = none := hadd
      rw [hadd']
      rfl
    | some m =>
      have hadd' : r.monitors.add? (({ net with monitors := monitors } : Network).outputLabel o) o
          (r.cycle + 1) = some m := hadd
      rw [hadd']
      rfl

theorem removeMonitor_transfer (r : Run net) (label : String) :
    (r.transfer monitors).removeMonitor label = (r.removeMonitor label).transfer monitors := by
  rw [removeMonitor, removeMonitor]
  dsimp only [transfer]
  cases r.monitors.remove? label <;> rfl

/-- **No request looks at the monitors of the network.** -/
theorem perform_transfer (r : Run net) (c : Command) :
    (r.transfer monitors).perform c = (r.perform c).transfer monitors := by
  cases c with
  | advance => exact congrArg (·.map Reply.snapshot) (r.advance_transfer monitors)
  | advanceBy n =>
    exact congrArg (·.map fun _ => Reply.done) (r.advanceLogged_transfer monitors #[] n)
  | reset => exact congrArg (·.map fun _ => Reply.done) (r.reset_transfer monitors)
  | setSwitch name value =>
    exact congrArg (·.map fun _ => Reply.done) (r.setSwitch_transfer monitors name value)
  | addMonitor ref =>
    exact congrArg (·.map fun _ => Reply.done) (r.addMonitor_transfer monitors ref)
  | removeMonitor label => exact congrArg (·.map Reply.trace) (r.removeMonitor_transfer monitors label)

theorem performAll_transfer (r : Run net) (cs : List Command) :
    (r.transfer monitors).performAll cs = (r.performAll cs).transfer monitors := by
  induction cs generalizing r with
  | nil => rfl
  | cons c cs ih =>
    rw [performAll_cons, performAll_cons, perform_transfer]
    exact ih _

/-! ## Runs that hold the same -/

/-- Runs of two networks hold the same. -/
structure Same {net net' : Network} (r' : Run net') (r : Run net) : Prop where
  config : r'.config = r.config
  state : r'.state = r.state
  monitors : r'.monitors = r.monitors
  phase : r'.phase = r.phase
  cycle : r'.cycle = r.cycle
  passes : r'.passes = r.passes
  failure : r'.failure = r.failure

theorem same_transfer (r : Run net) : (r.transfer monitors).Same r :=
  ⟨rfl, rfl, rfl, rfl, rfl, rfl, rfl⟩

theorem Same.trans {net' net'' : Network} {r' : Run net'} {r'' : Run net''} (h' : r''.Same r')
    (h : r'.Same r) : r''.Same r :=
  ⟨h'.config.trans h.config, h'.state.trans h.state, h'.monitors.trans h.monitors,
    h'.phase.trans h.phase, h'.cycle.trans h.cycle, h'.passes.trans h.passes,
    h'.failure.trans h.failure⟩

theorem Same.eq_transfer {r' : Run { net with monitors := monitors }} (h : r'.Same r) :
    r' = r.transfer monitors := by
  obtain ⟨hconfig, hstate, hmonitors, hphase, hcycle, hpasses, hfailure⟩ := h
  cases r'
  subst hconfig hstate hmonitors hphase hcycle hpasses hfailure
  rfl

section Same

variable {net' : Network} {r' : Run net'}

/-- Networks with the same devices differ in their monitors only. -/
theorem Same.performAll (h : r'.Same r) (hdevices : net'.devices = net.devices)
    (cs : List Command) : (r'.performAll cs).Same (r.performAll cs) := by
  obtain ⟨devices, monitors⟩ := net'
  obtain rfl : devices = net.devices := hdevices
  rw [h.eq_transfer, performAll_transfer]
  exact same_transfer monitors _

/-- Runs that hold the same show the same. -/
theorem Same.observations (h : r'.Same r) (hdevices : net'.devices = net.devices) :
    r'.snapshot = r.snapshot ∧ r'.traces = r.traces ∧ r'.switches = r.switches ∧
      ∀ ref, r'.value? ref = r.value? ref := by
  obtain ⟨devices, monitors⟩ := net'
  obtain rfl : devices = net.devices := hdevices
  rw [h.eq_transfer]
  exact ⟨rfl, rfl, rfl, fun _ => rfl⟩

/-- Runs that hold the same answer the same. -/
theorem Same.perform (h : r'.Same r) (hdevices : net'.devices = net.devices) (c : Command) :
    (r'.perform c).answer = (r.perform c).answer ∧ (r'.perform c).events = (r.perform c).events := by
  obtain ⟨devices, monitors⟩ := net'
  obtain rfl : devices = net.devices := hdevices
  rw [h.eq_transfer, perform_transfer]
  exact ⟨rfl, rfl⟩

end Same

/-! ## The first monitors -/

/-- A run accepts a list of monitors, one after the other. -/
def Accepts (r : Run net) : List OutputRef → Prop
  | [] => True
  | ref :: refs => (r.addMonitor ref).answer = .ok () ∧ (r.addMonitor ref).run.Accepts refs

theorem accepts_transfer (r : Run net) (refs : List OutputRef) :
    (r.transfer monitors).Accepts refs ↔ r.Accepts refs := by
  induction refs generalizing r with
  | nil => rfl
  | cons ref refs ih =>
    rw [Accepts, Accepts, addMonitor_transfer]
    exact and_congr_right fun _ => ih _

section Start

variable (hnet : net.WellFormed) (hdots : ∀ dev ∈ net.devices, '.' ∉ dev.name.toList)
  (hmonitors : ∀ o ∈ net.monitors, o < net.outputCount) (config : Config) {ref : OutputRef}

include hnet hdots hmonitors in
/-- **A new run accepts a monitor** exactly if its reference names an output that the network does
not ask for. -/
theorem answer_addMonitor_start_iff : ((start net config).1.addMonitor ref).answer = .ok () ↔
    ∃ o, net.output ref = .ok o ∧ o ∉ net.monitors := by
  have hused : ∀ o < net.outputCount,
      (net.outputLabel o ∈ (start net config).1.monitors.labels ↔ o ∈ net.monitors) := by
    intro o ho
    rw [monitors_start, Monitors.mem_labels_initialMonitors_iff]
    constructor
    · rintro ⟨p, hp, hlabel⟩
      exact hnet.outputLabel_inj hdots (hmonitors p hp) ho hlabel ▸ hp
    · exact fun hmem => ⟨o, hmem, rfl⟩
  constructor
  · intro hok
    rcases (start net config).1.addMonitor_cases ref with ⟨e, hrun⟩ | ⟨o, m, hout, hadd, -⟩
    · rw [hrun] at hok
      cases hok
    · have ho := hnet.output_lt_of_eq_ok hout
      exact ⟨o, hout, fun hmem => (Monitors.add?_cases hadd).1 ((hused o ho).mpr hmem)⟩
  · rintro ⟨o, hout, hnew⟩
    have ho := hnet.output_lt_of_eq_ok hout
    rw [addMonitor_eq_of_some hout (Monitors.add?_of_notMem (fun hmem => hnew ((hused o ho).mp hmem))
      _ _)]

/-- The run is then the new run of a network that asks for this output, too. -/
theorem start_append_monitor (hok : ((start net config).1.addMonitor ref).answer = .ok ()) {o : Nat}
    (hout : net.output ref = .ok o) :
    (start { net with monitors := net.monitors ++ [o] } config).1 =
      ((start net config).1.addMonitor ref).run.transfer (net.monitors ++ [o]) := by
  rcases (start net config).1.addMonitor_cases ref with ⟨e, hrun⟩ | ⟨p, m, hout', hadd, hrun⟩
  · rw [hrun] at hok
    cases hok
  · obtain rfl := Except.ok.inj (hout.symm.trans hout')
    have hcycle : (start net config).1.cycle = 0 := by
      obtain ⟨state, phase, passes, failure, hcold⟩ := exists_coldStart _
      rw [start, hcold]
    rw [monitors_start, hcycle] at hadd
    have hadded : initialMonitors { net with monitors := net.monitors ++ [o] }
        config.maxTraceLength = m := by
      rw [initialMonitors, List.foldl_append]
      exact congrArg (·.getD (initialMonitors net config.maxTraceLength)) hadd
    -- The cold start does not look at the monitors, neither those of the run nor of the network.
    let before : Run net :=
      ⟨config, net.coldState, initialMonitors net config.maxTraceLength, .idle, 0, 0, none⟩
    calc (start { net with monitors := net.monitors ++ [o] } config).1
        = { (before.transfer (net.monitors ++ [o])).coldStart.1 with
            monitors := initialMonitors { net with monitors := net.monitors ++ [o] }
              config.maxTraceLength } := coldStart_congr rfl
      _ = { (start net config).1.transfer (net.monitors ++ [o]) with monitors := m } := by
          rw [coldStart_transfer, hadded]
          rfl
      _ = ((start net config).1.addMonitor ref).run.transfer (net.monitors ++ [o]) := by
          rw [hrun]
          rfl

end Start

/-! ## Monitors of the description -/

/-- The monitors of a description, against those requested at the start. -/
theorem accepts_and_same_start {d : Description} {options : BuildOptions} (hv : d.Valid options)
    (config : Config) (refs : List OutputRef) :
    ((d.monitoring refs).Valid options ↔ (start d.network config).1.Accepts refs) ∧
      ((d.monitoring refs).Valid options →
        (start (d.monitoring refs).network config).1.Same
          ((start d.network config).1.performAll (refs.map .addMonitor))) := by
  induction refs generalizing d with
  | nil =>
    rw [d.monitoring_nil]
    exact ⟨iff_of_true hv trivial, fun _ => ⟨rfl, rfl, rfl, rfl, rfl, rfl, rfl⟩⟩
  | cons ref refs ih =>
    have hb : d.build options = .ok d.network := Description.build_eq_ok_iff.mpr ⟨hv, rfl⟩
    have hstart : ((start d.network config).1.addMonitor ref).answer = .ok () ↔ _ :=
      answer_addMonitor_start_iff (Description.build_wellFormed hb) (Description.build_noDots hb)
        (Description.build_monitors_lt hb) config
    rw [← hv.monitor_iff_output] at hstart
    rw [d.monitoring_cons, Accepts]
    by_cases hok : ((start d.network config).1.addMonitor ref).answer = .ok ()
    · have hv' := hstart.mp hok
      obtain ⟨o, hout, -⟩ := hv.monitor_iff_output.mp hv'
      obtain ⟨haccepts, hsame⟩ := ih hv'
      have hrun := start_append_monitor config hok hout
      rw [hv.network_monitor hv' hout, hrun] at haccepts hsame
      rw [accepts_transfer] at haccepts
      rw [performAll_transfer] at hsame
      exact ⟨haccepts.trans (and_iff_right hok).symm, fun h => (hsame h).trans (same_transfer _ _)⟩
    · have hrefused : ¬ ((d.monitor ref).monitoring refs).Valid options :=
        fun h => hok (hstart.mpr h.of_monitoring)
      exact ⟨iff_of_false hrefused fun h => hok h.1, fun h => absurd h hrefused⟩

/-- **Monitoring in the description and on request is the same.** A description that asks for further
monitors builds exactly if a new run of the original network accepts them one after the other. The
new run of its network then has the same monitors, in the same order and all from cycle one, as the
run that has been asked for them; and whatever is requested later, both runs hold and show the same
and answer with the same log. -/
theorem build_monitoring_on_request (d : Description) (options : BuildOptions) (net : Network)
    (hb : d.build options = .ok net) (config : Config) (refs : List OutputRef) :
    let r := (start net config).1
    let asked := r.performAll (refs.map .addMonitor)
    ((∃ net', (d.monitoring refs).build options = .ok net') ↔ r.Accepts refs) ∧
    ∀ net', (d.monitoring refs).build options = .ok net' →
      let r' := (start net' config).1
      r'.monitors = asked.monitors ∧
      (∀ t ∈ asked.monitors.traces, t.firstCycle = 1) ∧
      ∀ cs,
        (r'.performAll cs).Same (asked.performAll cs) ∧
        (r'.performAll cs).snapshot = (asked.performAll cs).snapshot ∧
        (r'.performAll cs).traces = (asked.performAll cs).traces ∧
        (r'.performAll cs).switches = (asked.performAll cs).switches ∧
        (∀ ref, (r'.performAll cs).value? ref = (asked.performAll cs).value? ref) ∧
        ∀ c, ((r'.performAll cs).perform c).answer = ((asked.performAll cs).perform c).answer ∧
          ((r'.performAll cs).perform c).events = ((asked.performAll cs).perform c).events := by
  obtain ⟨hv, rfl⟩ := Description.build_eq_ok_iff.mp hb
  obtain ⟨haccepts, hsame⟩ := accepts_and_same_start hv config refs
  dsimp only
  refine ⟨?_, fun net' hb' => ?_⟩
  · rw [(Description.build_accepts_exactly_valid _ options).1, haccepts]
  · obtain ⟨hv', rfl⟩ := Description.build_eq_ok_iff.mp hb'
    have hstart := hsame hv'
    have hdevices : (d.monitoring refs).network.devices = d.network.devices := rfl
    refine ⟨hstart.monitors, ?_, fun cs => ?_⟩
    · rw [← hstart.monitors, monitors_start]
      exact (Monitors.fresh_initialMonitors _ _).firstCycle
    · have hafter := hstart.performAll hdevices cs
      obtain ⟨hsnapshot, htraces, hswitches, hvalue⟩ := hafter.observations hdevices
      exact ⟨hafter, hsnapshot, htraces, hswitches, hvalue, hafter.perform hdevices⟩

theorem latchAndRing_monitoring_on_request :
    latchAndRing.build { allowFeedback := true } = .ok latchAndRing.network ∧
    let refs : List OutputRef := [⟨"A", none⟩, ⟨"F", some "Q"⟩]
    let r' := (start (latchAndRing.monitoring refs).network {}).1
    let asked := (start latchAndRing.network {}).1.performAll (refs.map .addMonitor)
    let cs : List Command := [.advance, .removeMonitor "N", .advance, .setSwitch "L" true]
    (∃ net', (latchAndRing.monitoring refs).build { allowFeedback := true } = .ok net') ∧
    r'.monitors = asked.monitors ∧ asked.monitors.labels = ["N", "A", "F.Q"] ∧
    (asked.performAll cs).failure = some ⟨2, 9⟩ ∧
    (r'.performAll cs).Same (asked.performAll cs) ∧
    (r'.performAll cs).snapshot = (asked.performAll cs).snapshot ∧
    -- One of these is monitored already.
    ¬ ∃ net', (latchAndRing.monitoring [⟨"A", none⟩, ⟨"N", none⟩]).build
      { allowFeedback := true } = .ok net' := by
  have hb : latchAndRing.build { allowFeedback := true } = .ok latchAndRing.network := rfl
  obtain ⟨haccepts, hsame⟩ := build_monitoring_on_request latchAndRing _ _ hb {}
    [⟨"A", none⟩, ⟨"F", some "Q"⟩]
  obtain ⟨hrefuses, -⟩ := build_monitoring_on_request latchAndRing _ _ hb {}
    [⟨"A", none⟩, ⟨"N", none⟩]
  obtain ⟨hmonitors, -, hlater⟩ := hsame _ rfl
  obtain ⟨hholds, hshows, -⟩ := hlater [.advance, .removeMonitor "N", .advance, .setSwitch "L" true]
  refine ⟨hb, haccepts.mpr ⟨by decide +kernel, by decide +kernel, trivial⟩, hmonitors,
    by decide +kernel, by decide +kernel, hholds, hshows, hrefuses.not.mpr ?_⟩
  rintro ⟨-, hok, -⟩
  revert hok
  decide +kernel

end Run

end SyncCircuit

import Mathlib.Logic.Function.Iterate
import SyncCircuit.Run.Command

/-!
# What requests do to a run

A request changes a run in one of four ways: it starts the circuit again, runs cycles, sets the
output of a switch, or replaces the monitors. What all four preserve holds after every history
(`performAll_induction`).
-/
namespace SyncCircuit.Run

variable {net : Network}

/-! ## Cycles -/

theorem advance_of_failure {r : Run net} {o : Oscillation} (h : r.failure = some o) :
    r.advance = ⟨.error (.oscillation o), r, #[]⟩ := by
  rw [advance, h]

/-- The whole step of a cycle that settles. -/
theorem advance_eq_of_some {r : Run net} (h : r.failure = none) {passes : Nat}
    {state : CircuitState} {probes : Array Probe}
    (hout : r.state.attempt net.devices r.maxPasses = ⟨some (passes, state), probes⟩) :
    r.advance =
      let r' : Run net := { r with
        state := state
        cycle := r.cycle + 1
        passes := passes
        phase := .settled
        monitors := r.monitors.record state.signals }
      ⟨.ok r'.snapshot, r',
        (probes.map (.probe (r.cycle + 1))).push (.cycleSettled (r.cycle + 1) passes)⟩ := by
  rw [advance, h]
  dsimp only [maxPasses] at hout ⊢
  rw [hout]

/-- The whole step of a cycle that does not settle. -/
theorem advance_eq_of_none {r : Run net} (h : r.failure = none) {probes : Array Probe}
    (hout : r.state.attempt net.devices r.maxPasses = ⟨none, probes⟩) :
    r.advance =
      let o : Oscillation := ⟨r.cycle + 1, r.maxPasses⟩
      ⟨.error (.oscillation o), { r with phase := .failed, failure := some o },
        (probes.map (.probe (r.cycle + 1))).push (.oscillated o)⟩ := by
  rw [advance, h]
  dsimp only [maxPasses] at hout ⊢
  rw [hout]
  rfl

/-- **What one cycle of a run can do**: nothing if the run has failed before, otherwise it settles
or it fails. A cycle that fails leaves all but the phase and the failure as it was. -/
theorem advance_cases (r : Run net) :
    (∃ o, r.failure = some o ∧ r.advance = ⟨.error (.oscillation o), r, #[]⟩) ∨
    (∃ passes state probes, r.failure = none ∧
      r.state.attempt net.devices r.maxPasses = ⟨some (passes, state), probes⟩ ∧
      r.advance =
        let r' : Run net := { r with
          state := state
          cycle := r.cycle + 1
          passes := passes
          phase := .settled
          monitors := r.monitors.record state.signals }
        ⟨.ok r'.snapshot, r',
          (probes.map (.probe (r.cycle + 1))).push (.cycleSettled (r.cycle + 1) passes)⟩) ∨
    (∃ probes, r.failure = none ∧ r.state.attempt net.devices r.maxPasses = ⟨none, probes⟩ ∧
      r.advance =
        let o : Oscillation := ⟨r.cycle + 1, r.maxPasses⟩
        ⟨.error (.oscillation o), { r with phase := .failed, failure := some o },
          (probes.map (.probe (r.cycle + 1))).push (.oscillated o)⟩) := by
  obtain hfail | ⟨o, hfail⟩ := Option.eq_none_or_eq_some r.failure
  · right
    rcases hout : r.state.attempt net.devices r.maxPasses with ⟨_ | ⟨passes, state⟩, probes⟩
    · exact .inr ⟨probes, hfail, rfl, advance_eq_of_none hfail hout⟩
    · exact .inl ⟨passes, state, probes, hfail, rfl, advance_eq_of_some hfail hout⟩
  · exact .inl ⟨o, hfail, advance_of_failure hfail⟩

/-- A cycle that settles. -/
theorem advance_of_settled {r : Run net} (h : r.failure = none) {passes : Nat}
    {state : CircuitState}
    (hs : (r.state.attempt net.devices r.maxPasses).outcome = some (passes, state)) :
    r.advance.run =
      { r with
        state := state
        cycle := r.cycle + 1
        passes := passes
        phase := .settled
        monitors := r.monitors.record state.signals } := by
  rcases hout : r.state.attempt net.devices r.maxPasses with ⟨outcome, probes⟩
  rw [hout] at hs
  obtain rfl : outcome = some (passes, state) := hs
  rw [advance_eq_of_some h hout]

theorem failure_advance_of_error {r : Run net} {e : RunFault}
    (h : r.advance.answer = .error e) :
    ∃ o, e = .oscillation o ∧ r.advance.run.failure = some o := by
  rcases r.advance_cases with ⟨o, ho, hadvance⟩ | ⟨passes, state, probes, -, -, hadvance⟩ |
    ⟨probes, -, -, hadvance⟩
  · rw [hadvance] at h ⊢
    exact ⟨o, (Except.error.inj h).symm, ho⟩
  · rw [hadvance] at h
    cases h
  · rw [hadvance] at h ⊢
    exact ⟨_, (Except.error.inj h).symm, rfl⟩

theorem failure_advance_of_ok {r : Run net} {s : Snapshot} (h : r.advance.answer = .ok s) :
    r.advance.run.failure = none := by
  rcases r.advance_cases with ⟨o, ho, hadvance⟩ | ⟨passes, state, probes, hfail, -, hadvance⟩ |
    ⟨probes, -, -, hadvance⟩
  · rw [hadvance] at h
    cases h
  · rw [hadvance]
    exact hfail
  · rw [hadvance] at h
    cases h

/-- After a cycle, a run that has not failed has answered with its snapshot. -/
theorem answer_advance_of_failure_eq_none {r : Run net} (h : r.advance.run.failure = none) :
    r.advance.answer = .ok r.advance.run.snapshot := by
  rcases r.advance_cases with ⟨o, ho, hadvance⟩ | ⟨passes, state, probes, -, -, hadvance⟩ |
    ⟨probes, -, -, hadvance⟩
  · rw [hadvance, ho] at h
    cases h
  · rw [hadvance]
  · rw [hadvance] at h
    cases h

theorem config_advance (r : Run net) : r.advance.run.config = r.config := by
  rcases r.advance_cases with ⟨o, -, hadvance⟩ | ⟨passes, state, probes, -, -, hadvance⟩ |
    ⟨probes, -, -, hadvance⟩ <;> rw [hadvance]

/-- The next of several cycles, if it settles. -/
theorem advanceLogged_succ_of_ok {r : Run net} {s : Snapshot} (h : r.advance.answer = .ok s)
    (events : Array RunEvent) (n : Nat) :
    r.advanceLogged events (n + 1) =
      r.advance.run.advanceLogged (events ++ r.advance.events) n := by
  rw [advanceLogged]
  cases hstep : r.advance with
  | mk answer r' new =>
    rw [hstep] at h
    obtain rfl : answer = .ok s := h
    rfl

/-- The next of several cycles, if it fails. -/
theorem advanceLogged_succ_of_error {r : Run net} {e : RunFault} (h : r.advance.answer = .error e)
    (events : Array RunEvent) (n : Nat) :
    r.advanceLogged events (n + 1) = ⟨.error e, r.advance.run, events ++ r.advance.events⟩ := by
  rw [advanceLogged]
  cases hstep : r.advance with
  | mk answer r' new =>
    rw [hstep] at h
    obtain rfl : answer = .error e := h
    rfl

/-- **Several cycles** are that many single ones: once a cycle has failed, the next ones change
nothing. -/
theorem run_advanceLogged (r : Run net) (events : Array RunEvent) (n : Nat) :
    (r.advanceLogged events n).run = (fun r => r.advance.run)^[n] r := by
  induction n generalizing r events with
  | zero => rfl
  | succ n ih =>
    rw [Function.iterate_succ_apply]
    cases hanswer : r.advance.answer with
    | ok s =>
      rw [advanceLogged_succ_of_ok hanswer]
      exact ih _ _
    | error e =>
      obtain ⟨o, -, ho⟩ := failure_advance_of_error hanswer
      rw [advanceLogged_succ_of_error hanswer]
      exact (Function.iterate_fixed (by rw [advance_of_failure ho]) n).symm

theorem run_advanceBy (r : Run net) (n : Nat) :
    (r.advanceBy n).run = (fun r => r.advance.run)^[n] r := r.run_advanceLogged #[] n

/-! ## The cold start -/

/-- The whole step of a cold start that settles. -/
theorem coldStart_eq_of_some {r : Run net} {passes : Nat} {p : Propagation}
    (h : Propagation.settle net.devices r.maxPasses 1 ⟨net.coldState.signals, #[]⟩ =
      (some passes, p)) :
    r.coldStart =
      ({ r with
        state := { net.coldState with signals := p.signals }.sampleClks net.devices
        phase := .idle
        cycle := 0
        passes := passes
        failure := none },
      (p.probes.map (.probe 0)).push (.coldStartSettled passes)) := by
  rw [coldStart]
  dsimp only [maxPasses] at h ⊢
  rw [h]

/-- A cold start that settles. -/
theorem coldStart_of_settled {r : Run net} {passes : Nat} {p : Propagation}
    (h : Propagation.settle net.devices r.maxPasses 1 ⟨net.coldState.signals, #[]⟩ =
      (some passes, p)) :
    r.coldStart.1 =
      { r with
        state := { net.coldState with signals := p.signals }.sampleClks net.devices
        phase := .idle
        cycle := 0
        passes := passes
        failure := none } := by
  rw [coldStart_eq_of_some h]

/-- The whole step of a cold start that does not settle. -/
theorem coldStart_eq_of_none {r : Run net} {p : Propagation}
    (h : Propagation.settle net.devices r.maxPasses 1 ⟨net.coldState.signals, #[]⟩ = (none, p)) :
    r.coldStart =
      ({ r with
        state := { net.coldState with signals := p.signals }
        phase := .failed
        cycle := 0
        passes := 0
        failure := some ⟨0, r.maxPasses⟩ },
      (p.probes.map (.probe 0)).push (.oscillated ⟨0, r.maxPasses⟩)) := by
  rw [coldStart]
  dsimp only [maxPasses] at h ⊢
  rw [h]
  rfl

/-- A cold start that does not settle. -/
theorem coldStart_of_unsettled {r : Run net} {p : Propagation}
    (h : Propagation.settle net.devices r.maxPasses 1 ⟨net.coldState.signals, #[]⟩ = (none, p)) :
    r.coldStart.1 =
      { r with
        state := { net.coldState with signals := p.signals }
        phase := .failed
        cycle := 0
        passes := 0
        failure := some ⟨0, r.maxPasses⟩ } := by
  rw [coldStart_eq_of_none h]

/-- A cold start keeps the settings and the monitors. -/
theorem exists_coldStart (r : Run net) : ∃ state phase passes failure,
    r.coldStart.1 =
      { r with state := state, phase := phase, cycle := 0, passes := passes, failure := failure } := by
  rcases hsettle : Propagation.settle net.devices r.maxPasses 1 ⟨net.coldState.signals, #[]⟩
    with ⟨_ | k, p⟩
  · exact ⟨_, _, _, _, coldStart_of_unsettled hsettle⟩
  · exact ⟨_, _, _, _, coldStart_of_settled hsettle⟩

theorem monitors_coldStart (r : Run net) : r.coldStart.1.monitors = r.monitors := by
  obtain ⟨state, phase, passes, failure, hrun⟩ := r.exists_coldStart
  rw [hrun]

theorem monitors_start (net : Network) (config : Config) :
    (start net config).1.monitors = initialMonitors net config.maxTraceLength :=
  monitors_coldStart _

/-! ## The other requests -/

/-- The whole step of setting a switch. -/
theorem setSwitch_eq_of_switch {r : Run net} {name : String} {value : Bool} {dev : Device}
    {initial : Bool} (hdev : net.device? name = some dev)
    (hswitch : dev.component = .switch initial) :
    r.setSwitch name value =
      ⟨.ok (),
        { r with state := { r.state with signals := r.state.signals.set dev.firstOutput value } },
        #[]⟩ := by
  rw [setSwitch, hdev]
  dsimp only
  rw [hswitch]
  rfl

theorem run_setSwitch {r : Run net} {name : String} {value : Bool} {dev : Device} {initial : Bool}
    (hdev : net.device? name = some dev) (hswitch : dev.component = .switch initial) :
    (r.setSwitch name value).run =
      { r with state := { r.state with signals := r.state.signals.set dev.firstOutput value } } := by
  rw [setSwitch_eq_of_switch hdev hswitch]

/-- Nothing but a switch can be set. -/
theorem setSwitch_eq_error (r : Run net) {name : String} (value : Bool)
    (h : ∀ dev initial, net.device? name = some dev → dev.component ≠ .switch initial) :
    ∃ e, r.setSwitch name value = ⟨.error e, r, #[]⟩ := by
  cases hdev : net.device? name with
  | none => exact ⟨_, by rw [setSwitch, hdev]⟩
  | some dev =>
    refine ⟨.notASwitch name, ?_⟩
    rw [setSwitch, hdev]
    cases hcomp : dev.component with
    | switch initial => exact absurd hcomp (h dev initial hdev)
    | gate g | clock halfPeriod | dtype => simp [hcomp]

theorem run_setSwitch_of_refused {r : Run net} {name : String} {value : Bool}
    (h : ∀ dev initial, net.device? name = some dev → dev.component ≠ .switch initial) :
    (r.setSwitch name value).run = r := by
  obtain ⟨e, hrefused⟩ := r.setSwitch_eq_error value h
  rw [hrefused]

/-- A switch is set in every run of the network, or the request is refused by every run. -/
theorem setSwitch_cases (net : Network) (name : String) (value : Bool) :
    (∃ e, ∀ r : Run net, r.setSwitch name value = ⟨.error e, r, #[]⟩) ∨
    (∃ o, ∀ r : Run net, r.setSwitch name value =
      ⟨.ok (), { r with state := { r.state with signals := r.state.signals.set o value } }, #[]⟩) := by
  cases hdev : net.device? name with
  | none => exact .inl ⟨_, fun r => by rw [setSwitch, hdev]⟩
  | some dev =>
    cases hcomp : dev.component with
    | switch initial =>
      refine .inr ⟨dev.firstOutput, fun r => ?_⟩
      rw [setSwitch, hdev]
      dsimp only
      rw [hcomp]
      rfl
    | gate g | clock halfPeriod | dtype =>
      refine .inl ⟨.notASwitch name, fun r => ?_⟩
      rw [setSwitch, hdev]
      dsimp only
      rw [hcomp]

theorem exists_run_setSwitch (r : Run net) (name : String) (value : Bool) :
    ∃ state, (r.setSwitch name value).run = { r with state := state } := by
  rcases setSwitch_cases net name value with ⟨e, hrefused⟩ | ⟨o, hset⟩
  · rw [hrefused]
    exact ⟨r.state, rfl⟩
  · rw [hset]
    exact ⟨_, rfl⟩

/-- The whole step of adding a monitor. -/
theorem addMonitor_eq_of_some {r : Run net} {ref : OutputRef} {o : Nat} {monitors : Monitors}
    (hout : net.output ref = .ok o)
    (hadd : r.monitors.add? (net.outputLabel o) o (r.cycle + 1) = some monitors) :
    r.addMonitor ref = ⟨.ok (), { r with monitors := monitors }, #[.monitoring ref.text]⟩ := by
  rw [addMonitor, hout]
  dsimp only
  rw [hadd]

/-- A monitor is added under the label of its output, unless that is in use. -/
theorem addMonitor_cases (r : Run net) (ref : OutputRef) :
    (∃ e, r.addMonitor ref = ⟨.error e, r, #[]⟩) ∨
    (∃ o monitors, net.output ref = .ok o ∧
      r.monitors.add? (net.outputLabel o) o (r.cycle + 1) = some monitors ∧
      r.addMonitor ref = ⟨.ok (), { r with monitors := monitors }, #[.monitoring ref.text]⟩) := by
  cases hout : net.output ref with
  | error fault =>
    left
    rw [addMonitor, hout]
    exact ⟨_, rfl⟩
  | ok o =>
    cases hadd : r.monitors.add? (net.outputLabel o) o (r.cycle + 1) with
    | none =>
      left
      rw [addMonitor, hout]
      dsimp only
      rw [hadd]
      exact ⟨_, rfl⟩
    | some monitors => exact .inr ⟨o, monitors, rfl, hadd, addMonitor_eq_of_some hout hadd⟩

theorem run_addMonitor_of_error {r : Run net} {ref : OutputRef} {fault : ReferenceFault}
    (h : net.output ref = .error fault) : (r.addMonitor ref).run = r := by
  rw [addMonitor, h]

theorem run_addMonitor_of_ok {r : Run net} {ref : OutputRef} {o : Nat}
    (h : net.output ref = .ok o) :
    (r.addMonitor ref).run =
      { r with
        monitors := (r.monitors.add? (net.outputLabel o) o (r.cycle + 1)).getD r.monitors } := by
  rw [addMonitor, h]
  dsimp only
  cases r.monitors.add? (net.outputLabel o) o (r.cycle + 1) <;> rfl

theorem run_removeMonitor (r : Run net) (label : String) :
    (r.removeMonitor label).run =
      { r with monitors := ((r.monitors.remove? label).map Prod.snd).getD r.monitors } := by
  rw [removeMonitor]
  cases r.monitors.remove? label <;> rfl

theorem exists_run_addMonitor (r : Run net) (ref : OutputRef) :
    ∃ monitors, (r.addMonitor ref).run = { r with monitors := monitors } := by
  cases hout : net.output ref with
  | error fault => exact ⟨_, run_addMonitor_of_error hout⟩
  | ok o => exact ⟨_, run_addMonitor_of_ok hout⟩

theorem exists_run_removeMonitor (r : Run net) (label : String) :
    ∃ monitors, (r.removeMonitor label).run = { r with monitors := monitors } :=
  ⟨_, r.run_removeMonitor label⟩

/-! ## Histories -/

/-- What a run satisfies after every request but a reset, if the three other ways to change it
preserve it. -/
theorem perform_induction_of_ne_reset {P : Run net → Prop}
    (hadvance : ∀ r, P r → P r.advance.run)
    (hswitch : ∀ r name dev initial value, net.device? name = some dev →
      dev.component = .switch initial → P r →
      P { r with state := { r.state with signals := r.state.signals.set dev.firstOutput value } })
    (hmonitors : ∀ r monitors, P r → P { r with monitors := monitors }) {r : Run net} (h : P r)
    {c : Command} (hc : c ≠ .reset) : P (r.perform c).run := by
  cases c with
  | advance => exact hadvance r h
  | advanceBy n =>
    show P (r.advanceBy n).run
    rw [run_advanceBy]
    exact Function.Iterate.rec P h hadvance n
  | reset => exact absurd rfl hc
  | setSwitch name value =>
    show P (r.setSwitch name value).run
    by_cases hfound : ∃ dev initial, net.device? name = some dev ∧ dev.component = .switch initial
    · obtain ⟨dev, initial, hdev, hcomp⟩ := hfound
      rw [run_setSwitch hdev hcomp]
      exact hswitch r name dev initial value hdev hcomp h
    · rw [run_setSwitch_of_refused fun dev initial hdev hcomp =>
        hfound ⟨dev, initial, hdev, hcomp⟩]
      exact h
  | addMonitor ref =>
    obtain ⟨monitors, hrun⟩ := r.exists_run_addMonitor ref
    show P (r.addMonitor ref).run
    rw [hrun]
    exact hmonitors r monitors h
  | removeMonitor label =>
    obtain ⟨monitors, hrun⟩ := r.exists_run_removeMonitor label
    show P (r.removeMonitor label).run
    rw [hrun]
    exact hmonitors r monitors h

/-- What a run satisfies after every request, if the four ways to change it preserve it. -/
theorem perform_induction {P : Run net → Prop} (hcold : ∀ r, P r → P r.coldStart.1)
    (hadvance : ∀ r, P r → P r.advance.run)
    (hswitch : ∀ r name dev initial value, net.device? name = some dev →
      dev.component = .switch initial → P r →
      P { r with state := { r.state with signals := r.state.signals.set dev.firstOutput value } })
    (hmonitors : ∀ r monitors, P r → P { r with monitors := monitors }) {r : Run net} (h : P r)
    (c : Command) : P (r.perform c).run := by
  by_cases hc : c = .reset
  · rw [hc]
    exact hcold _ (hmonitors r _ h)
  · exact perform_induction_of_ne_reset hadvance hswitch hmonitors h hc

/-- **What every request preserves** holds after every history. -/
theorem performAll_induction {P : Run net → Prop}
    (hperform : ∀ r c, P r → P (r.perform c).run) {r : Run net} (h : P r) (cs : List Command) :
    P (r.performAll cs) := by
  induction cs generalizing r with
  | nil => exact h
  | cons c cs ih => exact ih (hperform r c h)

/-- The settings of a run are those it was started with. -/
theorem config_performAll (net : Network) (config : Config) (cs : List Command) :
    ((start net config).1.performAll cs).config = config := by
  have hcold : ∀ r : Run net, r.config = config → r.coldStart.1.config = config := by
    intro r hr
    obtain ⟨state, phase, passes, failure, hrun⟩ := r.exists_coldStart
    rw [hrun]
    exact hr
  refine performAll_induction (P := fun r => r.config = config) (fun r c hr => ?_) (hcold _ rfl) cs
  refine perform_induction (P := fun r => r.config = config) hcold ?_ ?_ ?_ hr c
  · intro r hr
    rw [config_advance, hr]
  · intro r name dev initial value _ _ hr
    exact hr
  · intro r monitors hr
    exact hr

end SyncCircuit.Run

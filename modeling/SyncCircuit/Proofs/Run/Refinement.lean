import SyncCircuit.Proofs.Run.Stability
import SyncCircuit.Proofs.Run.Tracking

/-!
# Runs of loop-free circuits follow the reference machine

In a loop-free circuit settling makes the gates show the evaluation of the registers that the state
tracks, so a run does what the machine does. When the second settling is skipped, no stored value
has changed, so the evaluation reached before is still the right one.

## Main definitions

* `Run.Follows` — a run that has not failed tracks registers.
-/
namespace SyncCircuit

variable {net : Network}

namespace CircuitState

variable {st : CircuitState} {r : Registers}

/-- Settling leaves the registers alone and makes all outputs show the evaluation. -/
theorem Tracks.settle (ht : st.Tracks net r) (hl : net.LoopFree) (h : net.WellFormed)
    {probes : Array Probe} {budget k : Nat} {p : Propagation}
    (hsettle : Propagation.settle net.devices budget 1 ⟨st.signals, probes⟩ = (some k, p)) :
    ({ st with signals := p.signals } : CircuitState).Tracks net r ∧
      p.signals.Shows net (r.visible net) :=
  ⟨ht.of_settle h hsettle, hl.get_settle h (.refl _) ht.size ht.source hsettle⟩

/-- **A second settling that is skipped is not needed**: if no Q is reported changed, the outputs
show the evaluation of the new registers already. -/
theorem Tracks.shows_of_unchanged (ht : st.Tracks net r) (hl : net.LoopFree) (h : net.WellFormed)
    (hv : st.signals.Shows net (r.visible net))
    (hflag : (st.clockFlipFlops net.devices).2 = false) :
    (st.clockFlipFlops net.devices).1.signals.Shows net
      ((r.clockFlipFlops net (r.visible net)).visible net) := by
  have hclock := ht.clockFlipFlops h hv
  have hsame : ∀ o, net.IsSource o →
      r.source net o = (r.clockFlipFlops net (r.visible net)).source net o := by
    intro o ho
    rw [← ht.source o ho, ← ht.get_clockFlipFlops_of_unchanged h hflag (h.lt_of_isSource ho),
      hclock.source o ho]
  have heval := ((hl.eval_solves h (r.source net)).congr hsame).eq_eval hl h
  intro o ho
  rw [ht.get_clockFlipFlops_of_unchanged h hflag ho, hv o ho]
  exact heval o ho

/-- **One cycle** of a circuit is one cycle of the machine. -/
theorem Tracks.attempt (ht : st.Tracks net r) (hl : net.LoopFree) (h : net.WellFormed)
    {budget bound : Nat} (hs : st.SettlesWithin net.devices budget bound) :
    ∃ passes st', (st.attempt net.devices budget).outcome = some (passes, st') ∧
      st'.Tracks net (r.cycle net) ∧ st'.signals.Shows net ((r.cycle net).visible net) := by
  obtain ⟨k, p, hfirst, -, k', p', hsecond, -⟩ := hs
  rw [attempt_of_settled hfirst hsecond]
  obtain ⟨htick, hshown⟩ := (ht.tickClocks h).settle hl h hfirst
  have hclock := htick.clockFlipFlops h hshown
  by_cases hchanged :
      ({ st.tickClocks net.devices with signals := p.signals }.clockFlipFlops net.devices).2
  · obtain ⟨hdone, hvisible⟩ := hclock.settle hl h hsecond
    exact ⟨_, _, if_pos hchanged, hdone, hvisible⟩
  · have hvisible := htick.shows_of_unchanged hl h hshown (by simpa using hchanged)
    exact ⟨_, _, if_neg hchanged, hclock, hvisible⟩

end CircuitState

/-! ## Runs -/

/-- The requests after which all gates have settled: a reset, and one cycle or more. -/
def Command.Settles : Command → Prop
  | .advance | .reset => True
  | .advanceBy n => 0 < n
  | .setSwitch _ _ | .addMonitor _ | .removeMonitor _ => False

namespace Run

variable {config : Config} {r : Run net} {regs : Registers}

/-- A run that has not failed and tracks registers. -/
structure Follows (config : Config) (r : Run net) (regs : Registers) : Prop where
  intact : r.Intact config
  tracks : r.state.Tracks net regs

/-- The cold start of a run is that of the machine. -/
theorem follows_coldStart (hl : net.LoopFree) (h : net.WellFormed)
    (hbudget : net.gateCount < config.maxPasses net.size) (hconfig : r.config = config) :
    r.coldStart.1.Follows config (.cold net) ∧
      r.coldStart.1.signals.Shows net ((Registers.cold net).visible net) := by
  have hintact := intact_coldStart hl h hbudget hconfig
  have hmax : net.gateCount < r.maxPasses := by rwa [maxPasses, hconfig]
  obtain ⟨k, p, hsettle, -⟩ := hl.exists_settle h (.refl _) net.size_coldState #[] hmax
  obtain ⟨htracks, hshown⟩ := (CircuitState.tracks_coldState h).settle hl h hsettle
  rw [coldStart_of_settled hsettle] at hintact ⊢
  exact ⟨⟨hintact, htracks.sampleClks h hshown⟩, hshown⟩

/-- A cycle of a run is a cycle of the machine. -/
theorem Follows.advance (hr : r.Follows config regs) (hl : net.LoopFree) (h : net.WellFormed)
    (hbudget : net.gateCount < config.maxPasses net.size) :
    r.advance.run.Follows config (regs.cycle net) ∧
      r.advance.run.signals.Shows net ((regs.cycle net).visible net) := by
  have hintact := hr.intact.advance hl h hbudget
  obtain ⟨passes, state, hout, htracks, hshown⟩ :=
    hr.tracks.attempt hl h (hr.intact.settlesWithin hl h hbudget)
  rw [advance_of_settled hr.intact.failure hout] at hintact ⊢
  exact ⟨⟨hintact, htracks⟩, hshown⟩

theorem Follows.iterate_advance (hr : r.Follows config regs) (hl : net.LoopFree)
    (h : net.WellFormed) (hbudget : net.gateCount < config.maxPasses net.size) (n : Nat) :
    ((fun r : Run net => r.advance.run)^[n] r).Follows config ((Registers.cycle net)^[n] regs) := by
  induction n with
  | zero => exact hr
  | succ n ih =>
    rw [Function.iterate_succ_apply', Function.iterate_succ_apply']
    exact (ih.advance hl h hbudget).1

theorem Follows.setSwitch (hr : r.Follows config regs) (h : net.WellFormed) (name : String)
    (value : Bool) :
    (r.setSwitch name value).run.Follows config (regs.setSwitch net name value) := by
  rw [Registers.setSwitch]
  cases hindex : net.index? name with
  | none =>
    have hdevice : net.device? name = none := (net.device?_eq_none_iff name).mpr hindex
    rw [run_setSwitch_of_refused fun dev initial hdev => by rw [hdevice] at hdev; cases hdev]
    exact hr
  | some i =>
    have hlt : i < net.devices.length := (h.index?_eq_some_iff.mp hindex).1
    have hi : net.devices[i]? = some net.devices[i] := List.getElem?_eq_getElem hlt
    have hdevice : net.device? name = some net.devices[i] := by
      rw [net.device?_eq_bind, hindex, Option.bind_some, hi]
    dsimp only
    rw [Network.component?_eq hi]
    cases hcomp : net.devices[i].component with
    | switch initial =>
      rw [run_setSwitch hdevice hcomp]
      exact ⟨hr.intact.setOutput _ value, hr.tracks.setSwitch h hi hcomp value⟩
    | gate g | clock halfPeriod | dtype =>
      rw [run_setSwitch_of_refused]
      · exact hr
      · intro dev initial hdev
        obtain rfl := Option.some.inj (hdevice.symm.trans hdev)
        rw [hcomp]
        simp

/-- **Every request** does to a run what it does to the registers. -/
theorem Follows.perform (hr : r.Follows config regs) (hl : net.LoopFree) (h : net.WellFormed)
    (hbudget : net.gateCount < config.maxPasses net.size) (c : Command) :
    (r.perform c).run.Follows config (regs.perform net c) := by
  cases c with
  | advance => exact (hr.advance hl h hbudget).1
  | advanceBy n =>
    show (r.advanceBy n).run.Follows config _
    rw [run_advanceBy]
    exact hr.iterate_advance hl h hbudget n
  | reset =>
    exact (follows_coldStart (r := { r with monitors := r.monitors.clear 1 }) hl h hbudget
      hr.intact.config_eq).1
  | setSwitch name value => exact hr.setSwitch h name value
  | addMonitor ref =>
    obtain ⟨monitors, hrun⟩ := r.exists_run_addMonitor ref
    show (r.addMonitor ref).run.Follows config regs
    rw [hrun]
    exact ⟨hr.intact.setMonitors monitors, hr.tracks⟩
  | removeMonitor label =>
    obtain ⟨monitors, hrun⟩ := r.exists_run_removeMonitor label
    show (r.removeMonitor label).run.Follows config regs
    rw [hrun]
    exact ⟨hr.intact.setMonitors monitors, hr.tracks⟩

theorem Follows.performAll (hr : r.Follows config regs) (hl : net.LoopFree) (h : net.WellFormed)
    (hbudget : net.gateCount < config.maxPasses net.size) (cs : List Command) :
    (r.performAll cs).Follows config (regs.performAll net cs) := by
  induction cs generalizing r regs with
  | nil => exact hr
  | cons c cs ih => exact ih (hr.perform hl h hbudget c)

/-- After a request that settles, a run shows what the machine shows. -/
theorem Follows.shows (hr : r.Follows config regs) (hl : net.LoopFree) (h : net.WellFormed)
    (hbudget : net.gateCount < config.maxPasses net.size) {c : Command} (hc : c.Settles) :
    (r.perform c).run.signals.Shows net ((regs.perform net c).visible net) := by
  cases c with
  | advance => exact (hr.advance hl h hbudget).2
  | advanceBy n =>
    obtain ⟨m, rfl⟩ := Nat.exists_eq_succ_of_ne_zero (Nat.pos_iff_ne_zero.mp hc)
    show (r.advanceBy (m + 1)).run.signals.Shows net _
    rw [run_advanceBy, Function.iterate_succ_apply', Registers.perform,
      Function.iterate_succ_apply']
    exact ((hr.iterate_advance hl h hbudget m).advance hl h hbudget).2
  | reset =>
    exact (follows_coldStart (r := { r with monitors := r.monitors.clear 1 }) hl h hbudget
      hr.intact.config_eq).2
  | setSwitch name value | addMonitor ref | removeMonitor label => exact hc.elim

/-- **Refinement of the reference machine.** In a loop-free network the values of the sources
determine those of all outputs. After every history that ends with a settling request, a run shows
exactly what the machine shows. What settling ends in depends neither on the values the gates had
before nor on the order in which the devices are recomputed. -/
theorem build_refines_machine (d : Description) (options : BuildOptions) (net : Network)
    (hb : d.build options = .ok net) (hl : net.LoopFree) (config : Config) :
    (∀ src, net.Solves src (net.eval src) ∧
      ∀ v, net.Solves src v → ∀ o < net.outputCount, v o = net.eval src o) ∧
    (∀ (cs : List Command) (c : Command), c.Settles → ∀ o < net.outputCount,
      ((start net config).1.performAll (cs ++ [c])).signals.get o =
        ((Registers.cold net).performAll net (cs ++ [c])).visible net o) ∧
    (∀ devices : List Device, devices.Perm net.devices →
      ∀ (s : Signals) (src : Nat → Bool), net.outputCount ≤ s.size →
        (∀ o, net.IsSource o → s.get o = src o) →
        ∀ (probes : Array Probe) (budget pass k : Nat) (p : Propagation),
          Propagation.settle devices budget pass ⟨s, probes⟩ = (some k, p) →
            ∀ o < net.outputCount, p.signals.get o = net.eval src o) := by
  have h := Description.build_wellFormed hb
  refine ⟨fun src => ⟨hl.eval_solves h src, fun v hv => hv.eq_eval hl h⟩, ?_, ?_⟩
  · intro cs c hc o ho
    have hne : net.size ≠ 0 := by
      intro hempty
      rw [Network.outputCount, Network.outputs, List.length_eq_zero_iff.mp hempty] at ho
      exact absurd ho (Nat.not_lt_zero o)
    have hbudget : net.gateCount < config.maxPasses net.size :=
      hl.gateCount_lt_maxPasses h fun hempty => hne hempty.1
    have hcold : (start net config).1.Follows config (.cold net) :=
      (follows_coldStart hl h hbudget rfl).1
    have hshown := (hcold.performAll hl h hbudget cs).shows hl h hbudget hc o ho
    rw [performAll_append, Registers.performAll, List.foldl_append]
    exact hshown
  · intro devices hperm s src hsize hsrc probes budget pass k p hsettle
    exact hl.get_settle h hperm hsize hsrc hsettle

/-- A clock that toggles a flip-flop, and a gate that inverts the stored value. -/
def toggle : Description where
  devices := [⟨"C", .clock, some 1⟩, ⟨"L", .switch, some 0⟩, ⟨"F", .dtype, none⟩,
    ⟨"N", .gate .not, none⟩]
  connections := [⟨⟨"F", some "QBAR"⟩, ⟨"F", "DATA"⟩⟩, ⟨⟨"C", none⟩, ⟨"F", "CLK"⟩⟩,
    ⟨⟨"L", none⟩, ⟨"F", "SET"⟩⟩, ⟨⟨"L", none⟩, ⟨"F", "CLEAR"⟩⟩, ⟨⟨"F", some "Q"⟩, ⟨"N", "I1"⟩⟩]

theorem toggle_refines_machine :
    toggle.build {} = .ok toggle.network ∧ toggle.network.LoopFree ∧
      ((start toggle.network {}).1.performAll ([.advance] ++ [.advanceBy 2])).signals.get 4 =
        true := by
  have hb : toggle.build {} = .ok toggle.network := rfl
  have hl : toggle.network.LoopFree := Description.build_loopFree hb rfl
  refine ⟨hb, hl, ?_⟩
  rw [(build_refines_machine toggle {} toggle.network hb hl {}).2.1 [.advance] (.advanceBy 2)
    Nat.two_pos 4 (by decide)]
  rfl

end Run

end SyncCircuit
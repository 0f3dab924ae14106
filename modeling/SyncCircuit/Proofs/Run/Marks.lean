import SyncCircuit.Proofs.Run.Schedule
import SyncCircuit.Proofs.Run.Settlings

/-!
# Runs that differ in their marks

Setting a switch marks its output, and the marks stay until gates settle again. Different ways to set
the same switches leave different marks. They do not matter: a pass over the gates removes all marks
before it looks at any of them, so two runs that are alike but for their marks do the same, request by
request (`Run.Alike.perform`), and a cycle that settles leaves them the same, marks and all.

## Main definitions

* `Signals.Alike`, `CircuitState.Alike`, `Run.Alike` — the same but for the marks.
* `Step.Alike` — the same answer and log, and runs that are alike.
-/
namespace SyncCircuit

/-! ## Signals -/

/-- The same values, whatever is marked. -/
def Signals.Alike (s s' : Signals) : Prop := s.values = s'.values

namespace Signals.Alike

variable {s s' : Signals}

theorem get (h : s.Alike s') (i : Nat) : s.get i = s'.get i := congrArg (·.get i) h

theorem set (h : s.Alike s') (i : Nat) (v : Bool) : (s.set i v).Alike (s'.set i v) := by
  have hdiffers : s.differs i v = s'.differs i v := congrArg (· != v) (h.get i)
  rw [Signals.set, Signals.set, hdiffers]
  split
  · exact congrArg (·.set i v) h
  · exact h

/-- Without marks there is no difference. -/
theorem tick (h : s.Alike s') : s.tick = s'.tick := by
  have hsize : s.size = s'.size := congrArg Bits.size h
  exact Signals.ext_get hsize h.get fun i => by rw [isChanged_tick, isChanged_tick]

theorem of_get (hsize : s.size = s'.size) (hget : ∀ i, s.get i = s'.get i) : s.Alike s' :=
  Bits.ext_get hsize hget

end Signals.Alike

/-! ## Circuit states -/

namespace CircuitState

/-- The same values and the same memory. -/
structure Alike (st st' : CircuitState) : Prop where
  signals : st.signals.Alike st'.signals
  memory : st.memory = st'.memory

variable {st st' : CircuitState}

theorem Alike.tickClocks (h : st.Alike st') (devices : List Device) :
    (st.tickClocks devices).Alike (st'.tickClocks devices) := by
  refine ⟨?_, congrArg (devices.zipWith Device.tickMemory) h.memory⟩
  show ((devices.zip st.memory).foldl Device.tickSignals st.signals).Alike
    ((devices.zip st'.memory).foldl Device.tickSignals st'.signals)
  rw [← h.memory]
  have hsignals := h.signals
  generalize st.signals = s at hsignals ⊢
  generalize st'.signals = s' at hsignals ⊢
  induction devices.zip st.memory generalizing s s' with
  | nil => exact hsignals
  | cons p ps ih =>
    refine ih _ _ ?_
    rw [Device.tickSignals, Device.tickSignals]
    split
    · rw [hsignals.get]
      exact hsignals.set _ _
    · exact hsignals

/-- Gates settle the same: the first pass removes the marks, and without a pass nothing settles. -/
theorem Alike.settle (h : st.Alike st') (devices : List Device) (budget : Nat)
    (probes : Array Probe) : st.settle devices budget probes = st'.settle devices budget probes := by
  cases budget with
  | zero => rfl
  | succ budget =>
    have hsweep : Propagation.sweep devices 1 ⟨st.signals, probes⟩ =
        Propagation.sweep devices 1 ⟨st'.signals, probes⟩ := by
      rw [Propagation.sweep, Propagation.sweep]
      dsimp only
      rw [h.signals.tick]
    rw [CircuitState.settle, CircuitState.settle, Propagation.settle, Propagation.settle, hsweep,
      h.memory]

/-- **A cycle does not depend on the marks** that it starts with. -/
theorem Alike.attempt (h : st.Alike st') (devices : List Device) (budget : Nat) :
    st.attempt devices budget = st'.attempt devices budget := by
  rw [CircuitState.attempt, CircuitState.attempt, (h.tickClocks devices).settle]

end CircuitState

/-! ## Runs -/

variable {net : Network} {α β : Type}

/-- The same but for the marks. -/
structure Run.Alike (r r' : Run net) : Prop where
  state : r.state.Alike r'.state
  rest : r' = { r with state := r'.state }

/-- The same answer and log, and runs that are the same but for the marks. -/
structure Step.Alike (s s' : Step net α) : Prop where
  answer : s.answer = s'.answer
  events : s.events = s'.events
  run : s.run.Alike s'.run

theorem Step.Alike.map {s s' : Step net α} (h : s.Alike s') (f : α → β) :
    (s.map f).Alike (s'.map f) := ⟨congrArg (·.map f) h.answer, h.events, h.run⟩

theorem Run.Alike.refl (r : Run net) : r.Alike r := ⟨⟨rfl, rfl⟩, rfl⟩

theorem Step.Alike.refl (s : Step net α) : s.Alike s := ⟨rfl, rfl, .refl _⟩

namespace Run

variable {r r' : Run net}

/-- **A cycle** of runs that are alike ends alike, and if it settles, no difference is left. -/
theorem Alike.advance (h : r.Alike r') :
    r.advance.Alike r'.advance ∧ ∀ s, r.advance.answer = .ok s → r.advance = r'.advance := by
  obtain ⟨hstate, hrest⟩ := h
  generalize r'.state = state at hstate hrest
  subst hrest
  have hattempt := hstate.attempt net.devices r.maxPasses
  rcases r.advance_cases with ⟨o, hfail, hadvance⟩ | ⟨passes, st, probes, hfail, hout, hadvance⟩ |
    ⟨probes, hfail, hout, hadvance⟩
  · have hadvance' := advance_of_failure (r := ({ r with state := state } : Run net)) hfail
    rw [hadvance, hadvance']
    exact ⟨⟨rfl, rfl, hstate, rfl⟩, fun s hs => by cases hs⟩
  · have hadvance' := advance_eq_of_some (r := ({ r with state := state } : Run net)) hfail
      (hattempt.symm.trans hout)
    rw [hadvance, hadvance']
    exact ⟨.refl _, fun _ _ => rfl⟩
  · have hadvance' := advance_eq_of_none (r := ({ r with state := state } : Run net)) hfail
      (hattempt.symm.trans hout)
    rw [hadvance, hadvance']
    exact ⟨⟨rfl, rfl, hstate, rfl⟩, fun s hs => by cases hs⟩

theorem Alike.advanceLogged (h : r.Alike r') (events : Array RunEvent) (n : Nat) :
    (r.advanceLogged events n).Alike (r'.advanceLogged events n) := by
  induction n generalizing r r' events with
  | zero => exact ⟨rfl, rfl, h⟩
  | succ n ih =>
    obtain ⟨hstep, -⟩ := h.advance
    cases hanswer : r.advance.answer with
    | ok s =>
      rw [advanceLogged_succ_of_ok hanswer,
        advanceLogged_succ_of_ok (hstep.answer.symm.trans hanswer), hstep.events]
      exact ih hstep.run _
    | error e =>
      rw [advanceLogged_succ_of_error hanswer,
        advanceLogged_succ_of_error (hstep.answer.symm.trans hanswer), hstep.events]
      exact ⟨rfl, rfl, hstep.run⟩

theorem Alike.setSwitch (h : r.Alike r') (name : String) (value : Bool) :
    (r.setSwitch name value).Alike (r'.setSwitch name value) := by
  rcases setSwitch_cases net name value with ⟨e, hrefused⟩ | ⟨o, hset⟩
  · rw [hrefused, hrefused]
    exact ⟨rfl, rfl, h⟩
  · rw [hset, hset]
    exact ⟨rfl, rfl, ⟨h.state.signals.set o value, h.state.memory⟩, by rw [h.rest]⟩

theorem Alike.addMonitor (h : r.Alike r') (ref : OutputRef) :
    (r.addMonitor ref).Alike (r'.addMonitor ref) := by
  rw [Run.addMonitor, Run.addMonitor, h.rest]
  dsimp only
  split
  · exact ⟨rfl, rfl, h.state, rfl⟩
  · split
    · exact ⟨rfl, rfl, h.state, rfl⟩
    · exact ⟨rfl, rfl, h.state, rfl⟩

theorem Alike.removeMonitor (h : r.Alike r') (label : String) :
    (r.removeMonitor label).Alike (r'.removeMonitor label) := by
  rw [Run.removeMonitor, Run.removeMonitor, h.rest]
  dsimp only
  split
  · exact ⟨rfl, rfl, h.state, rfl⟩
  · exact ⟨rfl, rfl, h.state, rfl⟩

/-- The cold start gives every signal its value anew. -/
theorem Alike.reset (h : r.Alike r') : r.reset.Alike r'.reset := by
  have hcold : ({ r' with monitors := r'.monitors.clear 1 } : Run net).coldStart =
      ({ r with monitors := r.monitors.clear 1 } : Run net).coldStart := by
    rw [h.rest]
    rfl
  rw [Run.reset, Run.reset, hcold]
  exact .refl _

/-- **Every request** to runs that are alike is answered the same and leaves them alike. -/
theorem Alike.perform (h : r.Alike r') (c : Command) : (r.perform c).Alike (r'.perform c) := by
  cases c with
  | advance => exact h.advance.1.map _
  | advanceBy n => exact (h.advanceLogged #[] n).map _
  | reset => exact h.reset.map _
  | setSwitch name value => exact (h.setSwitch name value).map _
  | addMonitor ref => exact (h.addMonitor ref).map _
  | removeMonitor label => exact (h.removeMonitor label).map _

theorem Alike.performAll (h : r.Alike r') (cs : List Command) :
    (r.performAll cs).Alike (r'.performAll cs) := by
  induction cs generalizing r r' with
  | nil => exact h
  | cons c cs ih => exact ih (h.perform c).run

/-! ## What a run shows -/

theorem Alike.get (h : r.Alike r') (o : Nat) : r'.signals.get o = r.signals.get o :=
  (h.state.signals.get o).symm

theorem Alike.outputValues (h : r.Alike r') : r'.outputValues = r.outputValues :=
  List.map_congr_left fun o _ => h.get o

theorem Alike.value? (h : r.Alike r') (ref : OutputRef) : r'.value? ref = r.value? ref := by
  rw [Run.value?, Run.value?, funext h.get]

theorem Alike.switches (h : r.Alike r') : r'.switches = r.switches := by
  simp only [Run.switches, h.get]

theorem Alike.monitors (h : r.Alike r') : r'.monitors = r.monitors := by
  rw [h.rest]

theorem Alike.snapshot (h : r.Alike r') : r'.snapshot = r.snapshot := by
  rw [h.rest]
  simp only [Run.snapshot, Monitors.snapshot, Run.signals, h.state.signals.get]

/-! ## Switches set between two cycles -/

/-- The second run is the first but for marks and the values of switches. -/
structure Switched (r r' : Run net) : Prop where
  size : r'.signals.size = r.signals.size
  get : ∀ o, (∀ dev ∈ net.devices, ∀ initial, dev.component = .switch initial →
    dev.firstOutput ≠ o) → r'.signals.get o = r.signals.get o
  memory : r'.state.memory = r.state.memory
  rest : r' = { r with state := r'.state }

theorem Switched.refl (r : Run net) : r.Switched r := ⟨rfl, fun _ _ => rfl, rfl, rfl⟩

theorem Switched.trans {r'' : Run net} (h : r.Switched r') (h' : r'.Switched r'') :
    r.Switched r'' where
  size := h'.size.trans h.size
  get o ho := (h'.get o ho).trans (h.get o ho)
  memory := h'.memory.trans h.memory
  rest := by
    rw [h'.rest, h.rest]

/-- One call: it is refused, or it writes the output of a switch. -/
theorem switched_setSwitch (r : Run net) (name : String) (value : Bool) :
    r.Switched (r.setSwitch name value).run := by
  cases hdev : net.device? name with
  | none =>
    rw [setSwitch, hdev]
    exact .refl r
  | some dev =>
    cases hcomp : dev.component with
    | switch initial =>
      have hrun : (r.setSwitch name value).run =
          { r with state :=
            { r.state with signals := r.state.signals.set dev.firstOutput value } } := by
        rw [setSwitch, hdev]
        dsimp only
        rw [hcomp]
        rfl
      rw [hrun]
      refine ⟨Signals.size_set _ _ _, fun o ho => ?_, rfl, rfl⟩
      have hne := ho dev (List.mem_of_find?_eq_some hdev) initial hcomp
      exact (Signals.get_set _ _ _ _).trans (if_neg fun h => hne h.1)
    | gate g | clock halfPeriod | dtype =>
      rw [setSwitch, hdev]
      dsimp only
      rw [hcomp]
      exact .refl r

theorem switched_switchCommands (r : Run net) (calls : List (String × Bool)) :
    r.Switched (r.performAll (switchCommands calls)) := by
  induction calls generalizing r with
  | nil => exact .refl r
  | cons call calls ih => exact (r.switched_setSwitch call.1 call.2).trans (ih _)

/-- Runs that show the same for every switch have the same values at the outputs of switches. -/
theorem get_eq_of_switches (h : r.switches = r'.switches) {dev : Device} (hmem : dev ∈ net.devices)
    {initial : Bool} (hcomp : dev.component = .switch initial) :
    r.signals.get dev.firstOutput = r'.signals.get dev.firstOutput := by
  rw [switches, switches] at h
  generalize net.devices = devices at h hmem
  induction devices with
  | nil => cases hmem
  | cons d devices ih =>
    rcases List.mem_cons.mp hmem with rfl | hmem
    · simp only [List.filterMap_cons, hcomp, List.cons.injEq, Prod.mk.injEq] at h
      exact h.1.2
    · refine ih ?_ hmem
      cases hd : d.component <;> simp only [List.filterMap_cons, hd, List.cons.injEq] at h
      case switch => exact h.2
      all_goals exact h

/-- **Switch positions determine** a run up to marks. -/
theorem Switched.alike {r₁ r₂ : Run net} (h₁ : r.Switched r₁) (h₂ : r.Switched r₂)
    (h : r₁.switches = r₂.switches) : r₁.Alike r₂ := by
  refine ⟨⟨.of_get (h₁.size.trans h₂.size.symm) fun o => ?_, h₁.memory.trans h₂.memory.symm⟩, ?_⟩
  · by_cases ho : ∃ dev ∈ net.devices, ∃ initial, dev.component = .switch initial ∧
      dev.firstOutput = o
    · obtain ⟨dev, hmem, initial, hcomp, rfl⟩ := ho
      exact get_eq_of_switches h hmem hcomp
    · have hother : ∀ dev ∈ net.devices, ∀ initial, dev.component = .switch initial →
          dev.firstOutput ≠ o := fun dev hmem initial hcomp hfirst =>
        ho ⟨dev, hmem, initial, hcomp, hfirst⟩
      exact (h₁.get o hother).trans (h₂.get o hother).symm
  · rw [h₂.rest, h₁.rest]

/-- **Only the final positions of switches count** between two requests, whatever the wiring. Two
lists of calls that leave every switch at the same value lead to runs that show the same, answer the
same and log the same, however they go on; a refused call changes nothing and may stand in either.
Once a cycle settles, the two runs are the same, marks and all. In particular what a cycle does is a
function of values and memory only: how it ends, its passes and its log do not depend on marks. -/
theorem future_determined_by_switches (r : Run net) (calls calls' : List (String × Bool))
    (hswitches : (r.performAll (switchCommands calls')).switches =
      (r.performAll (switchCommands calls)).switches) :
    (∀ cs,
      let u := (r.performAll (switchCommands calls)).performAll cs
      let u' := (r.performAll (switchCommands calls')).performAll cs
      u'.outputValues = u.outputValues ∧ (∀ ref, u'.value? ref = u.value? ref) ∧
      u'.switches = u.switches ∧ u'.snapshot = u.snapshot ∧ u'.monitors = u.monitors ∧
      u'.traces = u.traces ∧ u'.phase = u.phase ∧ u'.cycle = u.cycle ∧ u'.passes = u.passes ∧
      u'.failure = u.failure ∧
      (∀ c, (u'.perform c).answer = (u.perform c).answer ∧
        (u'.perform c).events = (u.perform c).events) ∧
      ∀ s, u.advance.answer = .ok s → u'.advance = u.advance) ∧
    ∀ (st st' : CircuitState) (budget : Nat), st'.signals.values = st.signals.values →
      st'.memory = st.memory → st'.attempt net.devices budget = st.attempt net.devices budget := by
  have halike := (r.switched_switchCommands calls).alike (r.switched_switchCommands calls')
    hswitches.symm
  refine ⟨fun cs => ?_, fun st st' budget hvalues hmemory => ?_⟩
  · have h := halike.performAll cs
    dsimp only
    generalize (r.performAll (switchCommands calls)).performAll cs = u at h ⊢
    generalize (r.performAll (switchCommands calls')).performAll cs = u' at h ⊢
    refine ⟨h.outputValues, h.value?, h.switches, h.snapshot, h.monitors, ?_, ?_, ?_, ?_, ?_,
      fun c => ⟨(h.perform c).answer.symm, (h.perform c).events.symm⟩,
      fun s hs => (h.advance.2 s hs).symm⟩
    · rw [traces, traces, h.monitors]
    all_goals rw [h.rest]
  · exact (CircuitState.Alike.mk hvalues hmemory).attempt net.devices budget

theorem latchAndRing_future_determined_by_switches :
    let net := latchAndRing.network
    let r := (start net {}).1
    let calls := [("H", false), ("L", true), ("H", true), ("L", false)]
    let u := r.performAll (switchCommands calls)
    let u' := r.performAll (switchCommands [])
    latchAndRing.build { allowFeedback := true } = .ok net ∧
    u.signals.anyChanged = true ∧ u'.signals.anyChanged = false ∧
    u'.switches = u.switches ∧
    (∀ cs, (u'.performAll cs).snapshot = (u.performAll cs).snapshot) ∧
    (u'.performAll [.advanceBy 2]).failure = (u.performAll [.advanceBy 2]).failure ∧
    (u.performAll [.advanceBy 2]).failure = some ⟨2, 9⟩ ∧
    u'.state.attempt net.devices 9 = u.state.attempt net.devices 9 := by
  have hswitches : ((start latchAndRing.network {}).1.performAll (switchCommands [])).switches =
      ((start latchAndRing.network {}).1.performAll
        (switchCommands [("H", false), ("L", true), ("H", true), ("L", false)])).switches := by
    decide +kernel
  obtain ⟨hfuture, hcycle⟩ := future_determined_by_switches (start latchAndRing.network {}).1
    [("H", false), ("L", true), ("H", true), ("L", false)] [] hswitches
  obtain ⟨-, -, -, -, -, -, -, -, -, hfailure, -⟩ := hfuture [.advanceBy 2]
  refine ⟨rfl, by decide +kernel, by decide +kernel, hswitches, fun cs => ?_, hfailure,
    by decide +kernel, hcycle _ _ 9 (by decide +kernel) (by decide +kernel)⟩
  exact (hfuture cs).2.2.2.1

end Run

end SyncCircuit

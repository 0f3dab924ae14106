import SyncCircuit.Proofs.Network.Labels
import SyncCircuit.Proofs.Run.Probes
import SyncCircuit.Proofs.Run.Settlings

/-!
# What the log says about cycles

The log of a cold start or a cycle is that of its settlings, one after the other, and a last line.
The lines of a settling are faithful (`Settlement.Faithful`): applied in order to the gate values
before the settling they give those after it, and their pass numbers tell how long it took. So the
log of a cycle can be replayed, whether or not the gates feed back on each other.

## Main definitions

* `Settlement` — one settling, however it goes.
* `Settlement.Faithful` — what the lines of a settling say is what happened.
* `CircuitState.settlements` — the settlings of a cycle.
-/
namespace SyncCircuit

/-! ## One settling -/

/-- One settling of the gates: the signals before and after it, the passes it took if it ended, and
the changes it has written down. -/
structure Settlement where
  before : Signals
  after : Signals
  passes : Option Nat
  probes : List Probe

namespace Settlement

/-- The settling that starts from these signals. -/
def ofSignals (devices : List Device) (budget : Nat) (s : Signals) : Settlement where
  before := s
  after := (Propagation.settle devices budget 1 ⟨s, #[]⟩).2.signals
  passes := (Propagation.settle devices budget 1 ⟨s, #[]⟩).1
  probes := (Propagation.settle devices budget 1 ⟨s, #[]⟩).2.probes.toList

theorem ofSignals_of_settle {devices : List Device} {budget : Nat} {s : Signals}
    {passes : Option Nat} {p : Propagation}
    (h : Propagation.settle devices budget 1 ⟨s, #[]⟩ = (passes, p)) :
    ofSignals devices budget s = ⟨s, p.signals, passes, p.probes.toList⟩ := by
  rw [ofSignals, h]

/-- The lines of the settling in the log. -/
def lines (cycle : Nat) (s : Settlement) : List RunEvent := s.probes.map (.probe cycle)

/-- What the lines of a settling say is what happened. -/
structure Faithful (net : Network) (cycle budget : Nat) (s : Settlement) : Prop where
  /-- A line names the cycle, the pass and a gate, and gives the opposite of the value that the gate
  has by then. -/
  line : ∀ earlier p later, s.probes = earlier ++ p :: later → ∃ i dev,
    net.devices[i]? = some dev ∧ dev.component.isGate ∧ net.outputDevice? p.output = some i ∧
      p.value = !replay s.before.get earlier dev.firstOutput ∧
      (RunEvent.probe cycle p).message net =
        s!"cycle {cycle} pass {p.pass}: {dev.name} -> {p.value.toNat}"
  /-- Passes come one after the other, and within a pass gates in declaration order, none twice. -/
  ordered : s.probes.Pairwise fun p q => p.pass < q.pass ∨ p.pass = q.pass ∧
    ∃ i j, net.outputDevice? p.output = some i ∧ net.outputDevice? q.output = some j ∧ i < j
  /-- All passes but the last have lines, if the settling ended. -/
  settled : ∀ k, s.passes = some k →
    1 ≤ k ∧ ∀ n, (∃ p ∈ s.probes, p.pass = n) ↔ 1 ≤ n ∧ n ≤ k - 1
  /-- All passes of the budget have lines, if it did not. -/
  unsettled : s.passes = none → ∀ n, (∃ p ∈ s.probes, p.pass = n) ↔ 1 ≤ n ∧ n ≤ budget
  /-- The lines lead from the gate values before to the gate values after. -/
  replayed : ∀ dev ∈ net.devices, dev.component.isGate →
    replay s.before.get s.probes dev.firstOutput = s.after.get dev.firstOutput

end Settlement

namespace Network

variable {net : Network}

/-- The outputs of gates are listed as the gates are declared. -/
theorem WellFormed.declared_of_sublist (h : net.WellFormed) {o o' : Nat}
    (hsub : [o, o'].Sublist (Device.gateOutputs net.devices)) :
    ∃ i j, net.outputDevice? o = some i ∧ net.outputDevice? o' = some j ∧ i < j := by
  have hdeclared : (net.devices.map (·.firstOutput)).Pairwise fun o o' =>
      ∃ i j, net.outputDevice? o = some i ∧ net.outputDevice? o' = some j ∧ i < j := by
    rw [List.pairwise_map, List.pairwise_iff_getElem]
    intro i j hi hj hij
    exact ⟨i, j, h.outputDevice?_firstOutput (List.getElem?_eq_getElem hi),
      h.outputDevice?_firstOutput (List.getElem?_eq_getElem hj), hij⟩
  exact List.pairwise_iff_forall_sublist.mp hdeclared
    (hsub.trans (List.filter_sublist.map _))

/-- The label of the output of a gate is the name of the gate. -/
theorem WellFormed.outputLabel_of_isGate (h : net.WellFormed) {i : Nat} {dev : Device}
    (hdev : net.devices[i]? = some dev) (hgate : dev.component.isGate) :
    net.outputLabel dev.firstOutput = dev.name := by
  have hlabel := h.outputLabel_output hdev dev.component.outputCount_pos
  rw [Nat.add_zero] at hlabel
  rw [hlabel, Device.outputLabel]
  cases hcomp : dev.component with
  | gate g => rfl
  | switch initial | clock halfPeriod | dtype =>
    rw [hcomp] at hgate
    cases hgate

/-- **The lines of a settling are faithful**, from whatever signals it starts. -/
theorem WellFormed.faithful (h : net.WellFormed) {s : Signals} (hsize : net.outputCount ≤ s.size)
    (cycle budget : Nat) :
    (Settlement.ofSignals net.devices budget s).Faithful net cycle budget := by
  have hlt : ∀ d ∈ net.devices, d.firstOutput < s.size :=
    fun d hd => Nat.lt_of_lt_of_le (h.firstOutput_lt hd) hsize
  obtain ⟨probes, hprobes, hle, htold⟩ := Propagation.exists_told (p := ⟨s, #[]⟩) hlt budget 1
  rcases hsettle : Propagation.settle net.devices budget 1 ⟨s, #[]⟩ with ⟨passes, p⟩
  rw [hsettle] at hprobes hle htold
  obtain rfl : p.probes.toList = probes := by simpa using hprobes
  rw [Settlement.ofSignals_of_settle hsettle]
  constructor
  case line =>
    intro earlier q later hq
    have hq : p.probes.toList = earlier ++ q :: later := hq
    have hmem : q ∈ p.probes.toList := hq ▸ List.mem_append_cons_self
    have hturns := htold.turns
    rw [hq] at hturns
    obtain ⟨dev, hdev, hgate, hout⟩ :=
      Device.isGateOutput_of_mem_gateOutputs (htold.outputs q hmem)
    obtain ⟨i, hi⟩ := List.mem_iff_getElem?.mp hdev
    have howner := h.outputDevice?_firstOutput hi
    have hlabel := h.outputLabel_of_isGate hi hgate
    rw [hout] at howner hlabel
    refine ⟨i, dev, hi, hgate, howner, ?_, ?_⟩
    · rw [hout]
      exact hturns.value_eq
    · rw [← hlabel]
      rfl
  case ordered =>
    exact htold.ordered.imp fun hor => hor.imp_right fun hand =>
      ⟨hand.1, h.declared_of_sublist hand.2⟩
  case settled =>
    intro k hk
    obtain rfl : passes = some k := hk
    refine ⟨hle, fun n => (htold.passes n).trans ?_⟩
    rw [Option.getD_some] at hle ⊢
    omega
  case unsettled =>
    intro hnone
    obtain rfl : passes = none := hnone
    refine fun n => (htold.passes n).trans ?_
    rw [Option.getD_none]
    omega
  case replayed =>
    intro dev _ _
    exact congrFun htold.turns.replay_eq dev.firstOutput

end Network

/-! ## The settlings of a cycle -/

/-- The passes of some settlings together, if all of them ended. -/
def totalPasses : List Settlement → Option Nat
  | [] => some 0
  | s :: settlements => s.passes.bind fun k => (totalPasses settlements).map (k + ·)

namespace CircuitState

variable {devices : List Device} {budget k : Nat} {st st' : CircuitState} {p p' : Propagation}

/-- The settlings of a cycle: one after the clocks have ticked and, if it ends and some Q changes
then, one more after the commits. -/
def settlements (devices : List Device) (budget : Nat) (st : CircuitState) : List Settlement :=
  let st := st.tickClocks devices
  let first := Settlement.ofSignals devices budget st.signals
  match first.passes with
  | none => [first]
  | some _ =>
    match { st with signals := first.after }.clockFlipFlops devices with
    | (_, false) => [first]
    | (st, true) => [first, Settlement.ofSignals devices budget st.signals]

theorem settlements_of_first_unsettled
    (hfirst : Propagation.settle devices budget 1 ⟨(st.tickClocks devices).signals, #[]⟩ =
      (none, p)) :
    st.settlements devices budget =
      [⟨(st.tickClocks devices).signals, p.signals, none, p.probes.toList⟩] := by
  rw [settlements, Settlement.ofSignals_of_settle hfirst]

theorem settlements_of_once
    (hfirst : Propagation.settle devices budget 1 ⟨(st.tickClocks devices).signals, #[]⟩ =
      (some k, p))
    (hclock : { st.tickClocks devices with signals := p.signals }.clockFlipFlops devices =
      (st', false)) :
    st.settlements devices budget =
      [⟨(st.tickClocks devices).signals, p.signals, some k, p.probes.toList⟩] := by
  rw [settlements, Settlement.ofSignals_of_settle hfirst]
  dsimp only
  rw [hclock]

theorem settlements_of_second
    (hfirst : Propagation.settle devices budget 1 ⟨(st.tickClocks devices).signals, #[]⟩ =
      (some k, p))
    (hclock : { st.tickClocks devices with signals := p.signals }.clockFlipFlops devices =
      (st', true)) :
    st.settlements devices budget =
      [⟨(st.tickClocks devices).signals, p.signals, some k, p.probes.toList⟩,
        Settlement.ofSignals devices budget st'.signals] := by
  rw [settlements, Settlement.ofSignals_of_settle hfirst]
  dsimp only
  rw [hclock]

/-- **A cycle writes down its settlings** in order, and takes as many passes as they do together. -/
theorem attempt_eq_settlements (devices : List Device) (budget : Nat) (st : CircuitState) :
    (st.attempt devices budget).probes.toList =
        (st.settlements devices budget).flatMap (·.probes) ∧
      (st.attempt devices budget).outcome.map Prod.fst =
        totalPasses (st.settlements devices budget) := by
  rcases hfirst : Propagation.settle devices budget 1 ⟨(st.tickClocks devices).signals, #[]⟩
    with ⟨_ | k, p⟩
  · rw [attempt_of_first_unsettled hfirst, settlements_of_first_unsettled hfirst]
    exact ⟨by simp, rfl⟩
  rcases hclock : { st.tickClocks devices with signals := p.signals }.clockFlipFlops devices
    with ⟨st', _ | _⟩
  · rw [attempt_of_once hfirst hclock, settlements_of_once hfirst hclock]
    exact ⟨by simp, by simp [totalPasses]⟩
  · rcases hfresh : Propagation.settle devices budget 1 ⟨st'.signals, #[]⟩ with ⟨o, p'⟩
    have hsecond := Propagation.settle_prepend devices p.probes budget 1
      ⟨st'.signals, #[]⟩
    rw [Propagation.prepend, Array.append_empty, hfresh] at hsecond
    rw [attempt_of_second hfirst hclock hsecond, settlements_of_second hfirst hclock,
      Settlement.ofSignals_of_settle hfresh]
    refine ⟨by simp [Propagation.prepend], ?_⟩
    cases o <;> simp [totalPasses]

section Gates

variable {net : Network} {r : Registers} {dev : Device}

theorem Tracks.get_tickClocks_of_isGate (ht : st.Tracks net r) (h : net.WellFormed)
    (hmem : dev ∈ net.devices) (hgate : dev.component.isGate) :
    (st.tickClocks net.devices).signals.get dev.firstOutput = st.signals.get dev.firstOutput := by
  obtain ⟨i, hi⟩ := List.mem_iff_getElem?.mp hmem
  have hget := get_tickClocks h hi (ht.memory i dev hi) dev.component.outputCount_pos ht.size
  cases hcomp : dev.component with
  | gate g =>
    have hnone : dev.clockTick? (r.memory dev.component i) = none := by
      simp [Device.clockTick?, hcomp]
    rw [hnone, Nat.add_zero] at hget
    simpa using hget
  | switch initial | clock halfPeriod | dtype =>
    rw [hcomp] at hgate
    cases hgate

theorem Tracks.get_clockFlipFlops_of_isGate (ht : st.Tracks net r) (h : net.WellFormed)
    (hmem : dev ∈ net.devices) (hgate : dev.component.isGate) :
    (st.clockFlipFlops net.devices).1.signals.get dev.firstOutput =
      st.signals.get dev.firstOutput := by
  obtain ⟨i, hi⟩ := List.mem_iff_getElem?.mp hmem
  have hget := get_clockFlipFlops h hi (ht.memory i dev hi) dev.component.outputCount_pos ht.size
  cases hq : dev.commit? (r.memory dev.component i) st.signals with
  | none =>
    rw [hq, Nat.add_zero] at hget
    exact hget
  | some q =>
    rw [Device.isGate_of_commit? hq] at hgate
    cases hgate

/-- **The lines of a cycle that settles** lead from the gate values before the cycle to the gate
values after it: ticks and commits do not touch a gate. -/
theorem Tracks.replay_settlements (ht : st.Tracks net r) (h : net.WellFormed) {passes : Nat}
    (hs : st.Settled net.devices budget passes st') (hmem : dev ∈ net.devices)
    (hgate : dev.component.isGate) :
    replay st.signals.get ((st.settlements net.devices budget).flatMap (·.probes))
      dev.firstOutput = st'.signals.get dev.firstOutput := by
  have htick := ht.tickClocks h
  have hbefore := (ht.get_tickClocks_of_isGate h hmem hgate).symm
  have hfaithful := fun s hsize => (h.faithful (s := s) hsize 0 budget).replayed dev hmem hgate
  have hfirst' := hfaithful _ htick.size
  cases hs with
  | @once k p st' hfirst hclock =>
    have hafter := (htick.of_settle h hfirst).get_clockFlipFlops_of_isGate h hmem hgate
    rw [hclock] at hafter
    rw [Settlement.ofSignals_of_settle hfirst] at hfirst'
    rw [settlements_of_once hfirst hclock, List.flatMap_singleton, replay_congr hbefore, hfirst']
    exact hafter.symm
  | @twice k k' p p' st' hfirst hclock hsecond =>
    have hlook := htick.of_settle h hfirst
    have hbetween := hlook.get_clockFlipFlops_of_isGate h hmem hgate
    have hdone := hlook.clockFlipFlops h (v := p.signals.get) fun _ _ => rfl
    rw [hclock] at hbetween hdone
    have hsecond' := hfaithful _ hdone.size
    rw [Settlement.ofSignals_of_settle hfirst] at hfirst'
    have hsignals : (Settlement.ofSignals net.devices budget st'.signals).after = p'.signals := by
      have hprepend := Propagation.settle_prepend net.devices p.probes budget 1
        ⟨st'.signals, #[]⟩
      rw [Propagation.prepend, Array.append_empty, hsecond] at hprepend
      exact congrArg (·.2.signals) hprepend.symm
    rw [settlements_of_second hfirst hclock, List.flatMap_cons, List.flatMap_singleton,
      replay_append, replay_congr (v := replay st.signals.get p.probes.toList)
        (w := st'.signals.get), ← hsignals]
    · exact hsecond'
    · rw [replay_congr hbefore, hfirst']
      exact hbetween.symm

end Gates

end CircuitState

/-! ## Runs -/

/-- The line behind the settling of a cold start, given the passes if it ended. -/
def RunEvent.coldStartEnd (maxPasses : Nat) : Option Nat → RunEvent
  | some passes => .coldStartSettled passes
  | none => .oscillated ⟨0, maxPasses⟩

/-- The line behind the settlings of a cycle, given their passes together if they ended. -/
def RunEvent.cycleEnd (cycle maxPasses : Nat) : Option Nat → RunEvent
  | some passes => .cycleSettled cycle passes
  | none => .oscillated ⟨cycle, maxPasses⟩

namespace Run

variable {net : Network} {r : Run net}

/-- The settling of a cold start. -/
def coldSettlement (r : Run net) : Settlement :=
  .ofSignals net.devices r.maxPasses net.coldState.signals

/-- The settlings of the next cycle, if the run has not failed. -/
def nextSettlements (r : Run net) : List Settlement :=
  r.state.settlements net.devices r.maxPasses

/-- **A cold start** writes down its settling, and ends with the signals and the passes of it. -/
theorem coldStart_told (r : Run net) :
    r.coldStart.2.toList = r.coldSettlement.lines 0 ++
        [.coldStartEnd r.maxPasses r.coldSettlement.passes] ∧
      r.coldStart.1.signals = r.coldSettlement.after ∧
      ∀ k, r.coldSettlement.passes = some k → r.coldStart.1.passes = k := by
  rcases hsettle : Propagation.settle net.devices r.maxPasses 1 ⟨net.coldState.signals, #[]⟩
    with ⟨_ | k, p⟩
  · rw [coldStart_eq_of_none hsettle, coldSettlement, Settlement.ofSignals_of_settle hsettle]
    exact ⟨by simp [Settlement.lines, RunEvent.coldStartEnd], rfl, nofun⟩
  · rw [coldStart_eq_of_some hsettle, coldSettlement, Settlement.ofSignals_of_settle hsettle]
    exact ⟨by simp [Settlement.lines, RunEvent.coldStartEnd], rfl, fun _ => Option.some.inj⟩

/-- **A cycle of a run that has not failed** writes down its settlings, and answers with the passes
they took together, or with a failure. -/
theorem advance_told (h : r.failure = none) :
    r.advance.events.toList = r.nextSettlements.flatMap (·.lines (r.cycle + 1)) ++
        [.cycleEnd (r.cycle + 1) r.maxPasses (totalPasses r.nextSettlements)] ∧
      (∀ k, totalPasses r.nextSettlements = some k →
        ∃ s, r.advance.answer = .ok s ∧ s.cycle = r.cycle + 1 ∧ s.passes = k) ∧
      (totalPasses r.nextSettlements = none →
        r.advance.answer = .error (.oscillation ⟨r.cycle + 1, r.maxPasses⟩)) := by
  obtain ⟨hprobes, hpasses⟩ :=
    CircuitState.attempt_eq_settlements net.devices r.maxPasses r.state
  have hlines : ∀ probes : Array Probe,
      (r.state.attempt net.devices r.maxPasses).probes = probes →
        (probes.map (RunEvent.probe (r.cycle + 1))).toList =
          r.nextSettlements.flatMap (·.lines (r.cycle + 1)) := by
    rintro probes rfl
    rw [Array.toList_map, hprobes, List.map_flatMap]
    rfl
  rw [← nextSettlements] at hpasses
  rcases r.advance_cases with ⟨o, ho, -⟩ | ⟨passes, state, probes, -, hout, hadvance⟩ |
    ⟨probes, -, hout, hadvance⟩
  · rw [h] at ho
    cases ho
  · rw [hadvance, ← hpasses, hout, Array.toList_push, hlines probes (by rw [hout])]
    exact ⟨rfl, fun k hk => ⟨_, rfl, rfl, Option.some.inj hk⟩, nofun⟩
  · rw [hadvance, ← hpasses, hout, Array.toList_push, hlines probes (by rw [hout])]
    exact ⟨rfl, nofun, fun _ => rfl⟩

/-- A cycle that settles leads from gate values to gate values as its lines say. -/
theorem Tracked.replay_advance (hr : r.Tracked) (h : net.WellFormed) {s : Snapshot}
    (hok : r.advance.answer = .ok s) {dev : Device} (hmem : dev ∈ net.devices)
    (hgate : dev.component.isGate) :
    replay r.signals.get (r.nextSettlements.flatMap (·.probes)) dev.firstOutput =
      r.advance.run.signals.get dev.firstOutput := by
  obtain ⟨regs, ht⟩ := hr
  exact ht.replay_settlements h (settled_advance_of_ok hok) hmem hgate

/-- Every settling of a cycle is faithful. -/
theorem Tracked.faithful_nextSettlements (hr : r.Tracked) (h : net.WellFormed) :
    ∀ s ∈ r.nextSettlements, s.Faithful net (r.cycle + 1) r.maxPasses := by
  obtain ⟨regs, ht⟩ := hr
  have htick := ht.tickClocks h
  have hfirst := h.faithful htick.size (r.cycle + 1) r.maxPasses
  rcases hsettle : Propagation.settle net.devices r.maxPasses 1
    ⟨(r.state.tickClocks net.devices).signals, #[]⟩ with ⟨_ | k, p⟩
  · rw [Settlement.ofSignals_of_settle hsettle] at hfirst
    rw [nextSettlements, CircuitState.settlements_of_first_unsettled hsettle]
    simpa using hfirst
  rw [Settlement.ofSignals_of_settle hsettle] at hfirst
  rcases hclock : { r.state.tickClocks net.devices with signals := p.signals }.clockFlipFlops
    net.devices with ⟨st', _ | _⟩
  · rw [nextSettlements, CircuitState.settlements_of_once hsettle hclock]
    simpa using hfirst
  · have hdone := (htick.of_settle h hsettle).clockFlipFlops h (v := p.signals.get) fun _ _ => rfl
    rw [hclock] at hdone
    have hsecond := h.faithful hdone.size (r.cycle + 1) r.maxPasses
    rw [nextSettlements, CircuitState.settlements_of_second hsettle hclock]
    simpa using ⟨hfirst, hsecond⟩

/-- **The log tells what happened**, whatever the wiring. A cold start, and every cycle of a run
that has not failed, writes down its settlings one after the other and then how they ended; the
lines of each settling are faithful. A cycle that settles reports the passes of its settlings
together, in its last line as in its snapshot, and its lines lead from the gate values before it to
those after it. -/
theorem build_log_tells (d : Description) (options : BuildOptions) (net : Network)
    (hb : d.build options = .ok net) (config : Config) :
    let maxPasses := net.size + config.margin
    let cold := Settlement.ofSignals net.devices maxPasses net.coldState.signals
    let ending : RunEvent := .coldStartEnd maxPasses cold.passes
    cold.Faithful net 0 maxPasses ∧
    ((start net config).2.toList = cold.lines 0 ++ [ending] ∧
      (start net config).1.signals = cold.after ∧
      ∀ k, cold.passes = some k → (start net config).1.snapshot.passes = k ∧
        ending.message net = s!"cold start settled after {k} passes") ∧
    ∀ cs : List Command, let r := (start net config).1.performAll cs
      (r.reset.events.toList = cold.lines 0 ++ [ending, .restarted] ∧
        r.reset.run.signals = cold.after ∧
        ∀ k, cold.passes = some k → r.reset.run.snapshot.passes = k) ∧
      (r.failure = none →
        let cycle := r.cycle + 1
        let settlements := r.state.settlements net.devices maxPasses
        let ending : RunEvent := .cycleEnd cycle maxPasses (totalPasses settlements)
        (∀ s ∈ settlements, s.Faithful net cycle maxPasses) ∧
        r.advance.events.toList = settlements.flatMap (·.lines cycle) ++ [ending] ∧
        (∀ k, totalPasses settlements = some k →
          ending.message net = s!"cycle {cycle} settled after {k} passes" ∧
          (∃ s, r.advance.answer = .ok s ∧ s.cycle = cycle ∧ s.passes = k) ∧
          ∀ dev ∈ net.devices, dev.component.isGate →
            replay r.signals.get (settlements.flatMap (·.probes)) dev.firstOutput =
              r.advance.run.signals.get dev.firstOutput) ∧
        (totalPasses settlements = none →
          r.advance.answer = .error (.oscillation ⟨cycle, maxPasses⟩))) := by
  have h := Description.build_wellFormed hb
  refine ⟨h.faithful net.size_coldState 0 _, ?_, fun cs => ?_⟩
  · obtain ⟨hevents, hsignals, hpasses⟩ := coldStart_told
      ({ config := config
         state := net.coldState
         monitors := initialMonitors net config.maxTraceLength
         phase := .idle
         cycle := 0
         passes := 0
         failure := none } : Run net)
    refine ⟨hevents, hsignals, fun k hk => ⟨hpasses k hk, ?_⟩⟩
    rw [hk]
    rfl
  have hr := tracked_performAll h config cs
  have hconfig := config_performAll net config cs
  dsimp only
  generalize (start net config).1.performAll cs = r at hr hconfig ⊢
  have hmax : r.maxPasses = net.size + config.margin := by rw [maxPasses, hconfig]; rfl
  rw [← hmax]
  constructor
  · obtain ⟨hevents, hsignals, hpasses⟩ :=
      coldStart_told { r with monitors := r.monitors.clear 1 }
    refine ⟨?_, hsignals, hpasses⟩
    rw [reset]
    dsimp only
    rw [Array.toList_push, hevents, List.append_assoc]
    rfl
  · intro hfail
    obtain ⟨hevents, hsettled, hunsettled⟩ := advance_told hfail
    refine ⟨hr.faithful_nextSettlements h, hevents, fun k hk => ⟨?_, hsettled k hk, ?_⟩, hunsettled⟩
    · rw [hk]
      rfl
    · obtain ⟨s, hok, -⟩ := hsettled k hk
      exact fun dev hmem hgate => hr.replay_advance h hok hmem hgate

/-- The gates of the second cycle settle at once, and then, when the flip-flop has stored its input,
the gate that rings has a line in every pass of the budget. -/
theorem latchAndRing_log_tells :
    latchAndRing.build { allowFeedback := true } = .ok latchAndRing.network ∧
    let net := latchAndRing.network
    let r := (start net {}).1.performAll [.advance]
    let settlements := r.state.settlements net.devices 9
    (start net {}).2.toList.map (·.message net) =
      ["cycle 0 pass 1: N -> 1", "cycle 0 pass 1: A -> 1", "cold start settled after 2 passes"] ∧
    (start net {}).1.snapshot.passes = 2 ∧
    r.failure = none ∧
    settlements.map (·.passes) = [some 1, none] ∧
    settlements.map (·.probes.map (·.pass)) = [[], [1, 2, 3, 4, 5, 6, 7, 8, 9]] ∧
    (∀ s ∈ settlements, s.Faithful net 2 9) ∧
    r.advance.events.toList =
      settlements.flatMap (·.lines 2) ++ [.oscillated ⟨2, 9⟩] ∧
    r.advance.answer = .error (.oscillation ⟨2, 9⟩) := by
  obtain ⟨-, ⟨-, -, hcold⟩, hlog⟩ :=
    build_log_tells latchAndRing { allowFeedback := true } latchAndRing.network rfl {}
  have hok : ((start latchAndRing.network {}).1.performAll [.advance]).failure = none := by
    decide +kernel
  have htotal : totalPasses (((start latchAndRing.network {}).1.performAll
      [.advance]).state.settlements latchAndRing.network.devices 9) = none := by decide +kernel
  obtain ⟨hfaithful, hevents, -, hunsettled⟩ := (hlog [.advance]).2 hok
  have hmax : latchAndRing.network.size + ({} : Config).margin = 9 := rfl
  have hcycle : ((start latchAndRing.network {}).1.performAll [.advance]).cycle + 1 = 2 := by
    decide +kernel
  rw [hmax, hcycle] at hfaithful hevents hunsettled
  rw [htotal] at hevents
  exact ⟨rfl, by decide +kernel, (hcold 2 (by decide +kernel)).1, hok, by decide +kernel,
    by decide +kernel, hfaithful, hevents, hunsettled htotal⟩

end Run

end SyncCircuit

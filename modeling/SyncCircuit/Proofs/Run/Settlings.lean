import SyncCircuit.Proofs.Run.Requests
import SyncCircuit.Proofs.Run.Tracking

/-!
# The settlings of a cycle

The gates settle once after the clocks have ticked and, if some Q has changed, once more after the
commits. A cycle settles if each of its settlings ends (`attempt_cases`), and fails with the first
that does not (`attempt_eq_none_iff`). So a cycle of a run settles, or it leaves all but the phase
and the failure as it was (`run_advance_cases`). Whatever the wiring, the state of a run tracks
registers at every moment between requests, also after a failure (`tracked_performAll`).

## Main definitions

* `CircuitState.Settling` — what the settlings of a cycle start from.
* `CircuitState.Settled` — how a cycle settles, and in which state.
* `Run.Tracked` — the state of a run tracks some registers.
-/
namespace SyncCircuit

/-! ## One cycle -/

namespace CircuitState

section Attempt

variable {devices : List Device} {budget : Nat} {st st' : CircuitState} {k : Nat}
  {p q : Propagation}

/-- The signals and probes that a settling of the cycle starts from. -/
inductive Settling (devices : List Device) (budget : Nat) (st : CircuitState) : Propagation → Prop
  /-- The clocks have ticked. -/
  | first : Settling devices budget st ⟨(st.tickClocks devices).signals, #[]⟩
  /-- The gates have settled after that, and flip-flops have stored values that changed some Q. -/
  | second {k : Nat} {p : Propagation} {st' : CircuitState}
      (hfirst : Propagation.settle devices budget 1 ⟨(st.tickClocks devices).signals, #[]⟩ =
        (some k, p))
      (hclock : { st.tickClocks devices with signals := p.signals }.clockFlipFlops devices =
        (st', true)) :
      Settling devices budget st ⟨st'.signals, p.probes⟩

/-- The passes and the final state of a cycle that settles. -/
inductive Settled (devices : List Device) (budget : Nat) (st : CircuitState) :
    Nat → CircuitState → Prop
  /-- No Q has changed. -/
  | once {k : Nat} {p : Propagation} {st' : CircuitState}
      (hfirst : Propagation.settle devices budget 1 ⟨(st.tickClocks devices).signals, #[]⟩ =
        (some k, p))
      (hclock : { st.tickClocks devices with signals := p.signals }.clockFlipFlops devices =
        (st', false)) :
      Settled devices budget st k st'
  /-- Some Q has changed, and the gates have settled again. -/
  | twice {k k' : Nat} {p p' : Propagation} {st' : CircuitState}
      (hfirst : Propagation.settle devices budget 1 ⟨(st.tickClocks devices).signals, #[]⟩ =
        (some k, p))
      (hclock : { st.tickClocks devices with signals := p.signals }.clockFlipFlops devices =
        (st', true))
      (hsecond : Propagation.settle devices budget 1 ⟨st'.signals, p.probes⟩ = (some k', p')) :
      Settled devices budget st (k + k') { st' with signals := p'.signals }

theorem attempt_of_first_unsettled
    (hfirst : Propagation.settle devices budget 1 ⟨(st.tickClocks devices).signals, #[]⟩ =
      (none, p)) : st.attempt devices budget = ⟨none, p.probes⟩ := by
  rw [attempt, settle, hfirst]
  rfl

theorem attempt_of_once
    (hfirst : Propagation.settle devices budget 1 ⟨(st.tickClocks devices).signals, #[]⟩ =
      (some k, p))
    (hclock : { st.tickClocks devices with signals := p.signals }.clockFlipFlops devices =
      (st', false)) : st.attempt devices budget = ⟨some (k, st'), p.probes⟩ := by
  rw [attempt, settle, hfirst]
  dsimp only [Option.map_some]
  rw [hclock]

theorem attempt_of_second
    (hfirst : Propagation.settle devices budget 1 ⟨(st.tickClocks devices).signals, #[]⟩ =
      (some k, p))
    (hclock : { st.tickClocks devices with signals := p.signals }.clockFlipFlops devices =
      (st', true)) {o : Option Nat} {p' : Propagation}
    (hsecond : Propagation.settle devices budget 1 ⟨st'.signals, p.probes⟩ = (o, p')) :
    st.attempt devices budget =
      ⟨o.map fun k' => (k + k', { st' with signals := p'.signals }), p'.probes⟩ := by
  rw [attempt, settle, hfirst]
  dsimp only [Option.map_some]
  rw [hclock]
  dsimp only
  rw [settle, hsecond]
  cases o <;> rfl

/-- **What a cycle can do**: it settles in a known way, or one of its settlings does not end. -/
theorem attempt_cases (devices : List Device) (budget : Nat) (st : CircuitState) :
    (∃ passes st', (st.attempt devices budget).outcome = some (passes, st') ∧
      st.Settled devices budget passes st' ∧
      ∀ q, st.Settling devices budget q → (Propagation.settle devices budget 1 q).1.isSome) ∨
    ((st.attempt devices budget).outcome = none ∧
      ∃ q, st.Settling devices budget q ∧ (Propagation.settle devices budget 1 q).1 = none) := by
  rcases hfirst : Propagation.settle devices budget 1 ⟨(st.tickClocks devices).signals, #[]⟩
    with ⟨_ | k, p⟩
  · right
    refine ⟨by rw [attempt_of_first_unsettled hfirst], _, .first, ?_⟩
    rw [hfirst]
  rcases hclock : { st.tickClocks devices with signals := p.signals }.clockFlipFlops devices
    with ⟨st', _ | _⟩
  · left
    refine ⟨k, st', by rw [attempt_of_once hfirst hclock], .once hfirst hclock, fun q hq => ?_⟩
    cases hq with
    | first => rw [hfirst]; rfl
    | second hfirst' hclock' =>
      obtain ⟨hk, rfl⟩ := Prod.mk.inj (hfirst.symm.trans hfirst')
      exact absurd (congrArg Prod.snd (hclock.symm.trans hclock')) Bool.false_ne_true
  rcases hsecond : Propagation.settle devices budget 1 ⟨st'.signals, p.probes⟩ with ⟨_ | k', p'⟩
  · right
    refine ⟨by rw [attempt_of_second hfirst hclock hsecond]; rfl, _, .second hfirst hclock, ?_⟩
    rw [hsecond]
  · left
    refine ⟨k + k', _, by rw [attempt_of_second hfirst hclock hsecond]; rfl,
      .twice hfirst hclock hsecond, fun q hq => ?_⟩
    cases hq with
    | first => rw [hfirst]; rfl
    | second hfirst' hclock' =>
      obtain ⟨hk, rfl⟩ := Prod.mk.inj (hfirst.symm.trans hfirst')
      obtain ⟨rfl, -⟩ := Prod.mk.inj (hclock.symm.trans hclock')
      rw [hsecond]
      rfl

theorem settled_of_attempt {passes : Nat}
    (h : (st.attempt devices budget).outcome = some (passes, st')) :
    st.Settled devices budget passes st' := by
  rcases attempt_cases devices budget st with ⟨passes', st'', hout, hsettled, -⟩ | ⟨hout, -⟩
  · obtain ⟨rfl, rfl⟩ := Prod.mk.inj (Option.some.inj (hout.symm.trans h))
    exact hsettled
  · rw [hout] at h
    cases h

/-- **A cycle fails** exactly if one of its settlings does not end. -/
theorem attempt_eq_none_iff : (st.attempt devices budget).outcome = none ↔
    ∃ q, st.Settling devices budget q ∧ (Propagation.settle devices budget 1 q).1 = none := by
  rcases attempt_cases devices budget st with ⟨passes, st', hout, -, hall⟩ | ⟨hout, hsome⟩
  · rw [hout]
    refine iff_of_false (by simp) ?_
    rintro ⟨q, hq, hnone⟩
    have := hall q hq
    rw [hnone] at this
    cases this
  · exact iff_of_true hout hsome

end Attempt

/-! ## Registers -/

section Registers

variable {net : Network} {budget : Nat} {st st' : CircuitState} {r : Registers}

/-- A cycle that settles is a cycle of the registers, for the signals `v` that the flip-flops have
looked at. -/
theorem Tracks.of_settled (ht : st.Tracks net r) (h : net.WellFormed) {passes : Nat}
    (hs : st.Settled net.devices budget passes st') :
    ∃ v, st'.Tracks net ((r.tick net).clockFlipFlops net v) := by
  cases hs with
  | @once k p st' hfirst hclock =>
    have hlook := (ht.tickClocks h).of_settle h hfirst
    have hdone := hlook.clockFlipFlops h (v := p.signals.get) fun _ _ => rfl
    rw [hclock] at hdone
    exact ⟨_, hdone⟩
  | @twice k k' p p' st' hfirst hclock hsecond =>
    have hlook := (ht.tickClocks h).of_settle h hfirst
    have hdone := hlook.clockFlipFlops h (v := p.signals.get) fun _ _ => rfl
    rw [hclock] at hdone
    exact ⟨_, hdone.of_settle h hsecond⟩

end Registers

end CircuitState

/-! ## Runs -/

namespace Run

variable {net : Network} {r : Run net}

/-- The state of the run tracks some registers. -/
def Tracked (r : Run net) : Prop := ∃ regs, r.state.Tracks net regs

/-- After a cold start the registers are those of the cold state, but for what flip-flops have seen
of their CLK. -/
theorem exists_tracks_coldStart (h : net.WellFormed) (r : Run net) :
    ∃ sample, r.coldStart.1.state.Tracks net { Registers.powerUp net with sample := sample } := by
  have hcold := CircuitState.tracks_coldState h
  rcases hsettle : Propagation.settle net.devices r.maxPasses 1 ⟨net.coldState.signals, #[]⟩
    with ⟨_ | k, p⟩
  · rw [coldStart_of_unsettled hsettle]
    exact ⟨_, hcold.of_settle h hsettle⟩
  · rw [coldStart_of_settled hsettle]
    exact ⟨_, (hcold.of_settle h hsettle).sampleClks h (v := p.signals.get) fun _ _ => rfl⟩

/-- **What one cycle does to a run**: it leaves all but the phase and the failure as it was, or it
settles, is counted and recorded. -/
theorem run_advance_cases (r : Run net) :
    (∃ phase failure, r.advance.run = { r with phase := phase, failure := failure }) ∨
    ∃ passes state, r.state.Settled net.devices r.maxPasses passes state ∧
      r.advance.run =
        { r with
          state := state
          cycle := r.cycle + 1
          passes := passes
          phase := .settled
          monitors := r.monitors.record state.signals } := by
  rcases r.advance_cases with ⟨o, -, hadvance⟩ | ⟨passes, state, probes, -, hout, hadvance⟩ |
    ⟨probes, -, -, hadvance⟩
  · exact .inl ⟨r.phase, r.failure, by rw [hadvance]⟩
  · exact .inr ⟨passes, state, CircuitState.settled_of_attempt (by rw [hout]), by rw [hadvance]⟩
  · exact .inl ⟨.failed, some ⟨r.cycle + 1, r.maxPasses⟩, by rw [hadvance]⟩

/-- A cycle that answers with a snapshot has settled, in the state of the run after it. -/
theorem settled_advance_of_ok {s : Snapshot} (hok : r.advance.answer = .ok s) :
    r.state.Settled net.devices r.maxPasses r.advance.run.passes r.advance.run.state := by
  rcases r.advance_cases with ⟨o, -, hadvance⟩ | ⟨passes, state, probes, -, hout, hadvance⟩ |
    ⟨probes, -, -, hadvance⟩
  · rw [hadvance] at hok
    cases hok
  · rw [hadvance]
    exact CircuitState.settled_of_attempt (by rw [hout])
  · rw [hadvance] at hok
    cases hok

/-- **A cycle of a run** is forgotten, or it is a cycle of the registers and counted. -/
theorem tracks_advance_cases {regs : Registers} (ht : r.state.Tracks net regs) (h : net.WellFormed) :
    (r.advance.run.state = r.state ∧ r.advance.run.cycle = r.cycle) ∨
    (∃ v, r.advance.run.state.Tracks net ((regs.tick net).clockFlipFlops net v) ∧
      r.advance.run.cycle = r.cycle + 1) := by
  obtain ⟨phase, failure, hrun⟩ | ⟨passes, state, hsettled, hrun⟩ := r.run_advance_cases
  · left
    rw [hrun]
    exact ⟨rfl, rfl⟩
  · right
    rw [hrun]
    obtain ⟨v, hdone⟩ := ht.of_settled h hsettled
    exact ⟨v, hdone, rfl⟩

theorem tracked_coldStart (h : net.WellFormed) (r : Run net) : r.coldStart.1.Tracked := by
  obtain ⟨sample, ht⟩ := exists_tracks_coldStart h r
  exact ⟨_, ht⟩

theorem Tracked.advance (hr : r.Tracked) (h : net.WellFormed) : r.advance.run.Tracked := by
  obtain ⟨regs, ht⟩ := hr
  rcases tracks_advance_cases ht h with ⟨hstate, -⟩ | ⟨v, hdone, -⟩
  · rw [Tracked, hstate]
    exact ⟨regs, ht⟩
  · exact ⟨_, hdone⟩

/-- Every request keeps the state to registers. -/
theorem Tracked.perform (hr : r.Tracked) (h : net.WellFormed) (c : Command) :
    (r.perform c).run.Tracked := by
  refine perform_induction (fun r _ => tracked_coldStart h r) (fun r hr => hr.advance h) ?_
    (fun r monitors hr => hr) hr c
  rintro r name dev initial value hdev hswitch ⟨regs, ht⟩
  obtain ⟨i, hi⟩ := List.mem_iff_getElem?.mp (List.mem_of_find?_eq_some hdev)
  exact ⟨_, ht.setSwitch h hi hswitch value⟩

/-- **Between requests** the state of a run tracks registers, whatever has happened to the run. -/
theorem tracked_performAll (h : net.WellFormed) (config : Config) (cs : List Command) :
    ((start net config).1.performAll cs).Tracked :=
  performAll_induction (fun _ c hr => hr.perform h c) (tracked_coldStart h _) cs

/-! ## A circuit that fails in its second cycle -/

/-- A latch at rest, and a NAND gate that rings as soon as the flip-flop has stored its high input,
which it does in the second cycle. -/
def latchAndRing : Description where
  devices := [⟨"C", .clock, some 2⟩, ⟨"H", .switch, some 1⟩, ⟨"L", .switch, some 0⟩,
    ⟨"F", .dtype, none⟩, ⟨"N", .gate .nand, some 2⟩, ⟨"A", .gate .nor, some 2⟩,
    ⟨"B", .gate .nor, some 2⟩]
  connections := [⟨⟨"C", none⟩, ⟨"F", "CLK"⟩⟩, ⟨⟨"H", none⟩, ⟨"F", "DATA"⟩⟩,
    ⟨⟨"L", none⟩, ⟨"F", "SET"⟩⟩, ⟨⟨"L", none⟩, ⟨"F", "CLEAR"⟩⟩,
    ⟨⟨"F", some "Q"⟩, ⟨"N", "I1"⟩⟩, ⟨⟨"N", none⟩, ⟨"N", "I2"⟩⟩,
    ⟨⟨"L", none⟩, ⟨"A", "I1"⟩⟩, ⟨⟨"B", none⟩, ⟨"A", "I2"⟩⟩,
    ⟨⟨"A", none⟩, ⟨"B", "I1"⟩⟩, ⟨⟨"L", none⟩, ⟨"B", "I2"⟩⟩]
  monitors := [⟨"N", none⟩]

end Run

end SyncCircuit

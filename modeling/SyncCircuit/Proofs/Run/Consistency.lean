import SyncCircuit.Proofs.Build.Realization
import SyncCircuit.Proofs.Catalog.Gate
import SyncCircuit.Proofs.Run.Settlings

/-!
# Settled means consistent

Gates may feed back on each other, and then the sources do not determine what they show. All the
same, after a cold start or a cycle that settles, every gate shows the value its inputs call for. A
settling ends only with a pass that finds every gate right, and when the second settling is skipped,
the commits have changed no output at all. So a cycle whose gate equations have no solution fails.

## Main definitions

* `Network.Consistent` — every gate has the value that its inputs call for.
-/
namespace SyncCircuit

/-! ## Consistent values -/

/-- Two valuations that agree on a gate and on what drives it. -/
theorem Device.Solved.congr {d : Device} {v w : Nat → Bool} (hv : d.Solved v)
    (hself : v d.firstOutput = w d.firstOutput) (hdrivers : ∀ o ∈ d.drivers, v o = w o) :
    d.Solved w := by
  intro b hb
  rw [← hself]
  exact hv b (by rw [d.output?_congr hdrivers, hb])

namespace Network

variable {net : Network} {v w : Nat → Bool}

/-- Every gate has the value that its inputs call for. -/
def Consistent (net : Network) (v : Nat → Bool) : Prop :=
  ∀ dev ∈ net.devices, ∀ g, dev.component = .gate g →
    v dev.firstOutput = g.evaluate (dev.drivers.map v)

theorem consistent_iff : net.Consistent v ↔ ∀ dev ∈ net.devices, dev.Solved v := by
  constructor
  · intro h dev hmem b hb
    rw [Device.output?] at hb
    split at hb
    · rename_i g hcomp
      rw [h dev hmem g hcomp]
      exact Option.some.inj hb
    · cases hb
    · cases hb
    · cases hb
  · intro h dev hmem g hcomp
    exact h dev hmem _ (by rw [Device.output?, hcomp])

theorem Solves.consistent {src : Nat → Bool} (hv : net.Solves src v) : net.Consistent v :=
  consistent_iff.mpr hv.gates

/-- Only the values of outputs matter. -/
theorem Consistent.congr (hv : net.Consistent v) (h : net.WellFormed)
    (heq : ∀ o < net.outputCount, v o = w o) : net.Consistent w := by
  rw [consistent_iff] at hv ⊢
  intro dev hmem
  exact (hv dev hmem).congr (heq _ (h.firstOutput_lt hmem))
    fun o ho => heq o (h.driver_lt dev hmem o ho)

/-- **Cross-coupled NOR gates** are never both high: each is an input of the other. -/
theorem Consistent.not_both_high (hv : net.Consistent v) {dev dev' : Device}
    (hmem : dev ∈ net.devices) (hnor : dev.component = .gate .nor)
    (hdrives : dev'.firstOutput ∈ dev.drivers) :
    ¬ (v dev.firstOutput = true ∧ v dev'.firstOutput = true) := by
  rintro ⟨hhigh, hhigh'⟩
  have hinput : true ∈ dev.drivers.map v := List.mem_map.mpr ⟨_, hdrives, hhigh'⟩
  rw [hv dev hmem .nor hnor, Gate.evaluate_nor_of_mem hinput] at hhigh
  cases hhigh

end Network

/-! ## Cycles -/

namespace CircuitState

variable {net : Network} {budget passes : Nat} {st st' : CircuitState} {r : Registers}

/-- **A cycle that settles** ends in consistent values, also if its second settling was skipped. -/
theorem Settled.consistent (hs : st.Settled net.devices budget passes st') (h : net.WellFormed)
    (ht : st.Tracks net r) : net.Consistent st'.signals.get := by
  have htick := ht.tickClocks h
  cases hs with
  | @once k p st' hfirst hclock =>
    have hlook := htick.of_settle h hfirst
    have hflag := congrArg Prod.snd hclock
    have hsame : ∀ o < net.outputCount, p.signals.get o = st'.signals.get o := by
      intro o ho
      rw [← hlook.get_clockFlipFlops_of_unchanged h hflag ho, hclock]
    exact (h.solves_of_settle (.refl _) htick.size hfirst).consistent.congr h hsame
  | @twice k k' p p' st' hfirst hclock hsecond =>
    have hdone := (htick.of_settle h hfirst).clockFlipFlops h (v := p.signals.get) fun _ _ => rfl
    rw [hclock] at hdone
    exact (h.solves_of_settle (.refl _) hdone.size hsecond).consistent

/-- **A cycle without a solution** for the sources of one of its settlings does not settle. -/
theorem attempt_eq_none_of_no_solution (h : net.WellFormed) (ht : st.Tracks net r)
    {q : Propagation} (hq : st.Settling net.devices budget q)
    (hnone : ¬ ∃ v, net.Solves q.signals.get v) :
    (st.attempt net.devices budget).outcome = none := by
  rw [attempt_eq_none_iff]
  refine ⟨q, hq, ?_⟩
  have hsize : net.outputCount ≤ q.signals.size := by
    have htick := ht.tickClocks h
    cases hq with
    | first => exact htick.size
    | @second k p st' hfirst hclock =>
      have hdone := (htick.of_settle h hfirst).clockFlipFlops h (v := p.signals.get) fun _ _ => rfl
      rw [hclock] at hdone
      exact hdone.size
  rcases hsettle : Propagation.settle net.devices budget 1 q with ⟨_ | k, p⟩
  · rfl
  · exact absurd ⟨_, h.solves_of_settle (.refl _) hsize hsettle⟩ hnone

end CircuitState

/-! ## Runs -/

namespace Run

variable {net : Network} {r : Run net}

theorem consistent_coldStart (h : net.WellFormed) (r : Run net)
    (hok : r.coldStart.1.failure = none) : net.Consistent r.coldStart.1.signals.get := by
  rcases hsettle : Propagation.settle net.devices r.maxPasses 1 ⟨net.coldState.signals, #[]⟩
    with ⟨_ | k, p⟩
  · rw [coldStart_of_unsettled hsettle] at hok
    cases hok
  · rw [coldStart_of_settled hsettle]
    exact (h.solves_of_settle (.refl _) net.size_coldState hsettle).consistent

theorem Tracked.consistent_advance (hr : r.Tracked) (h : net.WellFormed) {s : Snapshot}
    (hok : r.advance.answer = .ok s) : net.Consistent r.advance.run.signals.get := by
  obtain ⟨regs, ht⟩ := hr
  exact (settled_advance_of_ok hok).consistent h ht

theorem Tracked.advance_of_no_solution (hr : r.Tracked) (h : net.WellFormed) {q : Propagation}
    (hq : r.state.Settling net.devices r.maxPasses q)
    (hnone : ¬ ∃ v, net.Solves q.signals.get v) :
    r.advance.answer =
      .error (.oscillation (r.failure.getD ⟨r.cycle + 1, r.maxPasses⟩)) := by
  obtain ⟨regs, ht⟩ := hr
  have hattempt := CircuitState.attempt_eq_none_of_no_solution h ht hq hnone
  rcases r.advance_cases with ⟨o, hfail, hadvance⟩ | ⟨passes, state, probes, -, hout, -⟩ |
    ⟨probes, hfail, -, hadvance⟩
  · rw [hadvance, hfail]
    rfl
  · rw [hout] at hattempt
    cases hattempt
  · rw [hadvance, hfail]
    rfl

/-- **Settled means consistent**, whatever the wiring: after a cold start or a cycle that settles,
every gate shows the value its inputs call for, and of two cross-coupled NOR gates at most one is
high. A cycle fails if the gate equations have no solution for the sources of one of its settlings.
-/
theorem build_settles_consistent (d : Description) (options : BuildOptions) (net : Network)
    (hb : d.build options = .ok net) (config : Config) :
    ((start net config).1.failure = none → net.Consistent (start net config).1.signals.get) ∧
    ∀ cs : List Command, let r := (start net config).1.performAll cs
      (r.reset.run.failure = none → net.Consistent r.reset.run.signals.get) ∧
      (∀ s, r.advance.answer = .ok s →
        net.Consistent r.advance.run.signals.get ∧
        ∀ dev ∈ net.devices, ∀ dev' ∈ net.devices,
          dev.component = .gate .nor → dev'.component = .gate .nor →
          dev'.firstOutput ∈ dev.drivers → dev.firstOutput ∈ dev'.drivers →
          ¬ (r.advance.run.signals.get dev.firstOutput = true ∧
            r.advance.run.signals.get dev'.firstOutput = true)) ∧
      (∀ q, r.state.Settling net.devices r.maxPasses q → (¬ ∃ v, net.Solves q.signals.get v) →
        r.advance.answer =
          .error (.oscillation (r.failure.getD ⟨r.cycle + 1, r.maxPasses⟩))) := by
  have h := Description.build_wellFormed hb
  refine ⟨consistent_coldStart h _, fun cs => ?_⟩
  have hr := tracked_performAll h config cs
  refine ⟨consistent_coldStart h _, fun s hok => ?_, fun q hq hnone => ?_⟩
  · have hv := hr.consistent_advance h hok
    refine ⟨hv, ?_⟩
    intro dev hmem dev' _ hnor _ hdrives _
    exact hv.not_both_high hmem hnor hdrives
  · exact hr.advance_of_no_solution h hq hnone

set_option maxRecDepth 4000 in
theorem latchAndRing_settles_consistent :
    latchAndRing.build { allowFeedback := true } = .ok latchAndRing.network ∧
    let net := latchAndRing.network
    let r := (start net {}).1
    net.Consistent r.signals.get ∧
    net.Consistent (r.performAll [.advance, .advance]).reset.run.signals.get ∧
    net.Consistent r.advance.run.signals.get ∧
    ¬ (r.advance.run.signals.get 6 = true ∧ r.advance.run.signals.get 7 = true) ∧
    (r.performAll [.advance]).advance.answer = .error (.oscillation ⟨2, 9⟩) := by
  have hb : latchAndRing.build { allowFeedback := true } = .ok latchAndRing.network := rfl
  obtain ⟨hcold, hruns⟩ := build_settles_consistent latchAndRing { allowFeedback := true } _ hb {}
  obtain ⟨hcycle, hlatch⟩ :=
    (hruns []).2.1 _ (answer_advance_of_failure_eq_none (by decide +kernel))
  refine ⟨hb, hcold (by decide +kernel), (hruns [.advance, .advance]).1 (by decide +kernel),
    hcycle, ?_, ?_⟩
  · have hA : latchAndRing.network.devices[5]? = some ⟨"A", .gate .nor, [2, 7], 6, [6]⟩ := by
      decide +kernel
    have hB : latchAndRing.network.devices[6]? = some ⟨"B", .gate .nor, [6, 2], 7, [5]⟩ := by
      decide +kernel
    have hnors := hlatch _ (List.mem_of_getElem? hA) _ (List.mem_of_getElem? hB) rfl rfl
      (by decide) (by decide)
    exact hnors
  · -- The second settling starts after the flip-flop has stored a high value.
    refine ((hruns [.advance]).2.2 _ (.second (k := 1) (Prod.ext (by decide +kernel) rfl)
      (Prod.ext rfl (by decide +kernel))) ?_).trans (by decide +kernel)
    rintro ⟨v, hv⟩
    have hstored : v 3 = true :=
      (hv.sources 3 ⟨3, 0, _, rfl, rfl, by decide, rfl⟩).trans (by decide +kernel)
    have hring : v 5 = Gate.nand.evaluate [v 3, v 5] :=
      hv.consistent _ (List.getElem_mem (n := 4) (by decide)) _ rfl
    rw [hstored] at hring
    cases hlevel : v 5 <;> rw [hlevel] at hring <;> exact absurd hring (by decide)

end Run

end SyncCircuit

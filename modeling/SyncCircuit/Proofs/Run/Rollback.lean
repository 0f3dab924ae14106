import SyncCircuit.Build.Basic
import SyncCircuit.Proofs.Run.Settlings
import SyncCircuit.Run.Workspace

/-!
# Failed cycles leave no trace

A cycle can be carried out on the state itself, from a copy made at its start: if it does not
settle, the turned clocks, the restless gates and perhaps the stored values and samples of
flip-flops are overwritten with the copy. This is the same as a cycle that keeps its result only if
it settles (`advanceInPlace_eq_advance`), so a failed cycle changes nothing but the phase and the
failure of the run. The failure stays until a reset: every other request leaves it as it is.

## Main definitions

* `Run.after`, `Run.logOf` — the run after a number of single cycles, and their log.
-/
namespace SyncCircuit

/-! ## Cycles in place -/

namespace CircuitState

variable {devices : List Device} {budget : Nat} {st : CircuitState}

/-- A cycle keeps what was written if it settles, and forgets it otherwise. -/
theorem attempt_eq_work (devices : List Device) (budget : Nat) (st : CircuitState) :
    st.attempt devices budget =
      ⟨(st.work devices budget).1.map (·, (st.work devices budget).2.1),
        (st.work devices budget).2.2⟩ := by
  rw [work]
  dsimp only
  rcases hfirst : Propagation.settle devices budget 1 ⟨(st.tickClocks devices).signals, #[]⟩
    with ⟨_ | k, p⟩
  · exact attempt_of_first_unsettled hfirst
  rcases hclock : { st.tickClocks devices with signals := p.signals }.clockFlipFlops devices
    with ⟨st', _ | _⟩
  · rw [attempt_of_once hfirst hclock]
    simp [hclock]
  · rcases hsecond : Propagation.settle devices budget 1 ⟨st'.signals, p.probes⟩ with ⟨o, p'⟩
    rw [attempt_of_second hfirst hclock hsecond]
    cases o <;> simp [hclock, hsecond]

end CircuitState

namespace Run

variable {net : Network} {r : Run net}

/-- **Restoring the copy undoes a failed cycle** in whole: what it has left behind does not show. -/
theorem advanceInPlace_eq_advance (r : Run net) : r.advanceInPlace = r.advance := by
  have hwork := CircuitState.attempt_eq_work net.devices r.maxPasses r.state
  rcases hleft : r.state.work net.devices r.maxPasses with ⟨outcome, state, probes⟩
  rw [hleft] at hwork
  rcases r.advance_cases with ⟨o, hfail, hadvance⟩ |
    ⟨passes, state', probes', hfail, hout, hadvance⟩ | ⟨probes', hfail, hout, hadvance⟩
  · rw [hadvance, advanceInPlace, hfail]
  · rw [hout] at hwork
    cases outcome with
    | none => cases hwork
    | some passes' =>
      cases hwork
      rw [hadvance, advanceInPlace, hfail]
      dsimp only
      rw [hleft]
      rfl
  · rw [hout] at hwork
    cases outcome with
    | some passes' => cases hwork
    | none =>
      cases hwork
      rw [hadvance, advanceInPlace, hfail]
      dsimp only
      rw [hleft]
      rfl

/-! ## Failures stay -/

/-- No request but a reset touches a failure. -/
theorem failure_perform {o : Oscillation} (h : r.failure = some o) {c : Command}
    (hc : c ≠ .reset) : (r.perform c).run.failure = some o := by
  refine perform_induction_of_ne_reset (P := fun r => r.failure = some o) ?_ ?_ ?_ h hc
  · intro r hr
    rw [advance_of_failure hr]
    exact hr
  · intro r name dev initial value _ _ hr
    exact hr
  · intro r monitors hr
    exact hr

theorem failure_performAll {o : Oscillation} (h : r.failure = some o) {cs : List Command}
    (hcs : Command.reset ∉ cs) : (r.performAll cs).failure = some o := by
  induction cs generalizing r with
  | nil => exact h
  | cons c cs ih =>
    rw [List.mem_cons, not_or] at hcs
    exact ih (failure_perform h (Ne.symm hcs.1)) hcs.2

/-! ## Several cycles -/

/-- The run after a number of single cycles. -/
def after (r : Run net) (n : Nat) : Run net := (fun r => r.advance.run)^[n] r

/-- The log of a number of single cycles. -/
def logOf (r : Run net) : Nat → Array RunEvent
  | 0 => #[]
  | n + 1 => r.advance.events ++ r.advance.run.logOf n

theorem after_succ (r : Run net) (n : Nat) : r.after (n + 1) = r.advance.run.after n :=
  Function.iterate_succ_apply _ _ _

theorem logOf_succ (r : Run net) (n : Nat) :
    r.logOf (n + 1) = r.advance.events ++ r.advance.run.logOf n := rfl

/-- **Several cycles** are single ones up to the first that fails. -/
theorem advanceLogged_cases (r : Run net) (events : Array RunEvent) (n : Nat) :
    ((∀ k < n, ∃ s, (r.after k).advance.answer = .ok s) ∧
      r.advanceLogged events n = ⟨.ok (), r.after n, events ++ r.logOf n⟩) ∨
    (∃ k < n, ∃ e, (∀ j < k, ∃ s, (r.after j).advance.answer = .ok s) ∧
      (r.after k).advance.answer = .error e ∧
      r.advanceLogged events n = ⟨.error e, r.after (k + 1), events ++ r.logOf (k + 1)⟩) := by
  induction n generalizing r events with
  | zero =>
    left
    refine ⟨fun k hk => absurd hk k.not_lt_zero, ?_⟩
    rw [logOf, Array.append_empty]
    rfl
  | succ n ih =>
    cases hanswer : r.advance.answer with
    | error e =>
      right
      refine ⟨0, Nat.succ_pos n, e, fun j hj => absurd hj j.not_lt_zero, hanswer, ?_⟩
      rw [advanceLogged_succ_of_error hanswer, logOf_succ, logOf, Array.append_empty]
      rfl
    | ok s =>
      have hfirst : ∀ k, (∀ j < k, ∃ s, (r.advance.run.after j).advance.answer = .ok s) →
          ∀ j < k + 1, ∃ s, (r.after j).advance.answer = .ok s := by
        intro k hk j hj
        cases j with
        | zero => exact ⟨s, hanswer⟩
        | succ j => exact hk j (Nat.lt_of_succ_lt_succ hj)
      rw [advanceLogged_succ_of_ok hanswer]
      rcases ih r.advance.run (events ++ r.advance.events) with
        ⟨hok, hall⟩ | ⟨k, hk, e, hok, herror, hstop⟩
      · left
        refine ⟨hfirst n hok, ?_⟩
        rw [hall, after_succ, logOf_succ, Array.append_assoc]
      · right
        refine ⟨k + 1, Nat.succ_lt_succ hk, e, hfirst k hok, herror, ?_⟩
        rw [hstop, r.after_succ, r.logOf_succ, Array.append_assoc]

/-! ## The whole story -/

/-- The failure of a run that has not failed before, and what it leaves. -/
theorem advance_of_error {e : RunFault} (h : r.failure = none)
    (he : r.advance.answer = .error e) :
    let o : Oscillation := ⟨r.cycle + 1, r.maxPasses⟩
    e = .oscillation o ∧ r.advance.run = { r with phase := .failed, failure := some o } := by
  rcases r.advance_cases with ⟨o, ho, -⟩ | ⟨passes, state, probes, -, -, hadvance⟩ |
    ⟨probes, -, -, hadvance⟩
  · rw [h] at ho
    cases ho
  · rw [hadvance] at he
    cases he
  · rw [hadvance] at he ⊢
    exact ⟨(Except.error.inj he).symm, rfl⟩

/-- A run that has not failed fails in its next cycle exactly if one of the settlings of that cycle
does not end. -/
theorem advance_fails_iff (h : r.failure = none) : (∃ e, r.advance.answer = .error e) ↔
    ∃ q, r.state.Settling net.devices r.maxPasses q ∧
      (Propagation.settle net.devices r.maxPasses 1 q).1 = none := by
  rw [← CircuitState.attempt_eq_none_iff]
  rcases r.advance_cases with ⟨o, ho, -⟩ | ⟨passes, state, probes, -, hout, hadvance⟩ |
    ⟨probes, -, hout, hadvance⟩
  · rw [h] at ho
    cases ho
  · rw [hadvance, hout]
    simp
  · rw [hadvance, hout]
    simp

/-- **A failed cycle changes nothing**, whichever of its settlings has not ended, and **the failure
stays** until a reset, whatever else is requested. Several cycles at once are single cycles up to
the first that fails. -/
theorem failed_cycle_atomic (net : Network) :
    (∀ r : Run net, r.advanceInPlace = r.advance ∧
      ∀ n,
        ((∀ k < n, ∃ s, (r.after k).advance.answer = .ok s) ∧
          r.advanceBy n = ⟨.ok (), r.after n, r.logOf n⟩) ∨
        (∃ k < n, ∃ e, (∀ j < k, ∃ s, (r.after j).advance.answer = .ok s) ∧
          (r.after k).advance.answer = .error e ∧
          r.advanceBy n = ⟨.error e, r.after (k + 1), r.logOf (k + 1)⟩)) ∧
    ∀ (config : Config) (cs : List Command),
      let r := (start net config).1.performAll cs
      r.failure = none →
        ((∃ e, r.advance.answer = .error e) ↔
          ∃ q, r.state.Settling net.devices r.maxPasses q ∧
            (Propagation.settle net.devices r.maxPasses 1 q).1 = none) ∧
        ∀ e, r.advance.answer = .error e →
          let o : Oscillation := ⟨r.cycle + 1, net.size + config.margin⟩
          e = .oscillation o ∧
          r.advance.run = { r with phase := .failed, failure := some o } ∧
          ∀ ds, Command.reset ∉ ds →
            let r' := r.advance.run.performAll ds
            r'.advance = ⟨.error e, r', #[]⟩ := by
  refine ⟨fun r => ⟨r.advanceInPlace_eq_advance, fun n => ?_⟩, fun config cs => ?_⟩
  · simpa only [advanceBy, Array.empty_append] using r.advanceLogged_cases #[] n
  · dsimp only
    have hconfig := config_performAll net config cs
    generalize (start net config).1.performAll cs = r at hconfig ⊢
    refine fun h => ⟨advance_fails_iff h, fun e he => ?_⟩
    have hmax : r.maxPasses = net.size + config.margin := by rw [maxPasses, hconfig]; rfl
    obtain ⟨hfault, hrun⟩ := advance_of_error h he
    rw [hmax] at hfault hrun
    refine ⟨hfault, hrun, fun ds hds => ?_⟩
    rw [hfault]
    exact advance_of_failure (failure_performAll (by rw [hrun]) hds)

theorem latchAndRing_failed_cycle_atomic :
    latchAndRing.build { allowFeedback := true } = .ok latchAndRing.network ∧
    let net := latchAndRing.network
    let r := (start net {}).1.performAll [.advance]
    -- The flip-flop has stored its high input by the time the gate rings.
    r.failure = none ∧ r.signals.get 3 = false ∧
    (r.state.work net.devices r.maxPasses).2.1.signals.get 3 = true ∧
    r.advance.answer = .error (.oscillation ⟨2, 9⟩) ∧
    r.advance.run = { r with phase := .failed, failure := some ⟨2, 9⟩ } ∧
    let r' := r.advance.run.performAll
      [.setSwitch "L" true, .addMonitor ⟨"A", none⟩, .advance, .removeMonitor "N", .advanceBy 3]
    r'.advance = ⟨.error (.oscillation ⟨2, 9⟩), r', #[]⟩ := by
  have hok : ((start latchAndRing.network {}).1.performAll [.advance]).failure = none := by
    decide +kernel
  have he : ((start latchAndRing.network {}).1.performAll [.advance]).advance.answer =
      .error (.oscillation ⟨2, 9⟩) := by decide +kernel
  obtain ⟨-, hfails⟩ := (failed_cycle_atomic latchAndRing.network).2 {} [.advance] hok
  obtain ⟨hfault, hrun, hstays⟩ := hfails _ he
  rw [← RunFault.oscillation.inj hfault] at hrun
  exact ⟨rfl, hok, by decide +kernel, by decide +kernel, he, hrun, hstays _ (by decide)⟩

end Run

end SyncCircuit

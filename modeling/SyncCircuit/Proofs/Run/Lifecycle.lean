import SyncCircuit.Proofs.Run.Chronicle

/-!
# The lifecycle of a run

Phase, failure and number of cycles are written at different moments of a cycle, and yet between
requests the phase follows from the other two (`Run.standing`). A failure says when it happened: in
the cycle after the last one that settled, or at the cold start.

## Main definitions

* `Run.standing` — the phase that the failure and the number of cycles of a run call for.
* `Network.ColdSettles` — the gates settle at the cold start.
* `Run.Lifecycle` — phase, failure and number of cycles of a run belong together.
-/
namespace SyncCircuit

/-- The gates settle at a cold start with these settings. -/
def Network.ColdSettles (net : Network) (config : Config) : Prop :=
  (Propagation.settle net.devices (config.maxPasses net.size) 1
    ⟨net.coldState.signals, #[]⟩).1.isSome

namespace Run

variable {net : Network} {r : Run net}

/-- The phase that goes with the failure and the number of cycles. -/
def standing (r : Run net) : Phase :=
  match r.failure, r.cycle with
  | some _, _ => .failed
  | none, 0 => .idle
  | none, _ + 1 => .settled

theorem standing_ne_stabilizing (r : Run net) : r.standing ≠ .stabilizing := by
  rw [standing]
  split <;> simp

theorem standing_eq_failed_iff : r.standing = .failed ↔ r.failure.isSome := by
  rw [standing]
  split <;> simp_all

theorem standing_eq_idle_iff (h : r.failure = none) : r.standing = .idle ↔ r.cycle = 0 := by
  rw [standing, h]
  cases r.cycle <;> simp

theorem standing_eq_settled_iff (h : r.failure = none) : r.standing = .settled ↔ 0 < r.cycle := by
  rw [standing, h]
  cases r.cycle <;> simp

/-- The phase of a run is the one its failure and its number of cycles call for. A run whose cold
start has not settled stays with that failure, any other one can only fail in its next cycle. -/
structure Lifecycle (r : Run net) : Prop where
  phase : r.phase = r.standing
  cold : ¬ net.ColdSettles r.config → r.cycle = 0 ∧ r.failure = some ⟨0, r.maxPasses⟩
  warm : net.ColdSettles r.config → ∀ o, r.failure = some o → o = ⟨r.cycle + 1, r.maxPasses⟩

/-- A cold start puts phase, failure and number of cycles in order, whatever they were. -/
theorem lifecycle_coldStart (r : Run net) : r.coldStart.1.Lifecycle := by
  rcases hsettle : Propagation.settle net.devices r.maxPasses 1 ⟨net.coldState.signals, #[]⟩
    with ⟨_ | k, p⟩
  · have hcold : ¬ net.ColdSettles r.config := by
      rw [Network.ColdSettles, ← maxPasses, hsettle]
      exact Bool.false_ne_true
    rw [coldStart_of_unsettled hsettle]
    exact ⟨rfl, fun _ => ⟨rfl, rfl⟩, fun hwarm => absurd hwarm hcold⟩
  · have hwarm : net.ColdSettles r.config := by
      rw [Network.ColdSettles, ← maxPasses, hsettle]
      rfl
    rw [coldStart_of_settled hsettle]
    exact ⟨rfl, fun hcold => absurd hwarm hcold, fun _ o ho => by cases ho⟩

/-- A cycle can settle or fail only after a cold start that settled. -/
theorem Lifecycle.coldSettles (hr : r.Lifecycle) (h : r.failure = none) :
    net.ColdSettles r.config := by
  by_contra hcold
  rw [(hr.cold hcold).2] at h
  cases h

theorem Lifecycle.advance (hr : r.Lifecycle) : r.advance.run.Lifecycle := by
  rcases r.advance_cases with ⟨o, -, hadvance⟩ | ⟨passes, state, probes, hfail, -, hadvance⟩ |
    ⟨probes, hfail, -, hadvance⟩
  · rw [hadvance]
    exact hr
  · have hwarm := hr.coldSettles hfail
    rw [hadvance]
    refine ⟨?_, fun hcold => absurd hwarm hcold, fun _ o ho => ?_⟩
    · rw [standing]
      dsimp only
      rw [hfail]
    · rw [show r.failure = some o from ho] at hfail
      cases hfail
  · have hwarm := hr.coldSettles hfail
    rw [hadvance]
    exact ⟨rfl, fun hcold => absurd hwarm hcold, fun _ o ho => (Option.some.inj ho).symm⟩

/-- **Between requests** phase, failure and number of cycles belong together. -/
theorem lifecycle_performAll (net : Network) (config : Config) (cs : List Command) :
    ((start net config).1.performAll cs).Lifecycle := by
  refine performAll_induction (fun r c hr => ?_) (lifecycle_coldStart _) cs
  exact perform_induction (fun r _ => lifecycle_coldStart r) (fun r hr => hr.advance)
    (fun r name dev initial value _ _ hr => ⟨hr.phase, hr.cold, hr.warm⟩)
    (fun r monitors hr => ⟨hr.phase, hr.cold, hr.warm⟩) hr c

/-- **The lifecycle of a run**, whatever has been requested. Between requests no cycle is under way;
the run has failed, or it stands idle before its first cycle, or settled after one. The cycles
counted are those that have been answered without a fault since the last cold start. A failure is
that of the next cycle, unless the cold start itself has not settled, and it is what every further
cycle answers. -/
theorem phase_failure_cycle (net : Network) (config : Config) (cs : List Command) :
    let r := (start net config).1.performAll cs
    r.phase ≠ .stabilizing ∧
    (r.phase = .failed ↔ r.failure.isSome) ∧
    (r.failure = none → (r.phase = .idle ↔ r.cycle = 0) ∧ (r.phase = .settled ↔ 0 < r.cycle)) ∧
    r.cycle = ((start net config).1.chronicle {} cs).settled.length ∧
    ∀ o, r.failure = some o →
      o.maxPasses = net.size + config.margin ∧
      (net.ColdSettles config ∧ o.cycle = r.cycle + 1 ∨
        ¬ net.ColdSettles config ∧ o.cycle = 0 ∧ r.cycle = 0) ∧
      r.advance = ⟨.error (.oscillation o), r, #[]⟩ := by
  dsimp only
  have hr := lifecycle_performAll net config cs
  have hrecorded := (recorded_start net config).performAll cs
  have hconfig := config_performAll net config cs
  generalize (start net config).1.performAll cs = r at hr hrecorded hconfig ⊢
  rw [hr.phase]
  refine ⟨r.standing_ne_stabilizing, standing_eq_failed_iff, fun h => ?_, hrecorded.length.symm,
    fun o ho => ?_⟩
  · exact ⟨standing_eq_idle_iff h, standing_eq_settled_iff h⟩
  · have hmax : r.maxPasses = net.size + config.margin := by rw [maxPasses, hconfig]; rfl
    obtain ⟨-, hcold, hwarm⟩ := hr
    rw [hconfig, hmax] at hcold hwarm
    by_cases hsettles : net.ColdSettles config
    · obtain rfl := hwarm hsettles o ho
      exact ⟨rfl, .inl ⟨hsettles, rfl⟩, advance_of_failure ho⟩
    · obtain ⟨hcycle, hfailure⟩ := hcold hsettles
      obtain rfl := Option.some.inj (ho.symm.trans hfailure)
      exact ⟨rfl, .inr ⟨hsettles, rfl, hcycle⟩, advance_of_failure ho⟩

/-- A NAND gate that rings from the start, its other input being high. -/
def ring : Description where
  devices := [⟨"H", .switch, some 1⟩, ⟨"N", .gate .nand, some 2⟩]
  connections := [⟨⟨"H", none⟩, ⟨"N", "I1"⟩⟩, ⟨⟨"N", none⟩, ⟨"N", "I2"⟩⟩]
  monitors := [⟨"N", none⟩]

theorem phase_failure_cycle_latchAndRing_and_ring :
    (latchAndRing.build { allowFeedback := true } = .ok latchAndRing.network ∧
      let r := (start latchAndRing.network {}).1.performAll
        [.advance, .reset, .setSwitch "H" false, .advanceBy 4, .setSwitch "H" true, .advanceBy 2]
      r.phase = .failed ∧ r.failure = some ⟨6, 9⟩ ∧
      (⟨6, 9⟩ : Oscillation).maxPasses = latchAndRing.network.size + 2 ∧
      (⟨6, 9⟩ : Oscillation).cycle = r.cycle + 1) ∧
    (ring.build { allowFeedback := true } = .ok ring.network ∧
      let r := (start ring.network {}).1.performAll [.setSwitch "H" false, .advance, .reset]
      r.phase = .failed ∧ r.failure = some ⟨0, 4⟩ ∧ r.cycle = 0 ∧
      r.advance = ⟨.error (.oscillation ⟨0, 4⟩), r, #[]⟩) := by
  have hlate : ((start latchAndRing.network {}).1.performAll [.advance, .reset,
      .setSwitch "H" false, .advanceBy 4, .setSwitch "H" true, .advanceBy 2]).failure =
      some ⟨6, 9⟩ := by decide +kernel
  have hcold : ((start ring.network {}).1.performAll
      [.setSwitch "H" false, .advance, .reset]).failure = some ⟨0, 4⟩ := by decide +kernel
  obtain ⟨-, hphase, -, -, hfailure⟩ := phase_failure_cycle latchAndRing.network {} [.advance,
    .reset, .setSwitch "H" false, .advanceBy 4, .setSwitch "H" true, .advanceBy 2]
  obtain ⟨-, hphase', -, -, hfailure'⟩ := phase_failure_cycle ring.network {}
    [.setSwitch "H" false, .advance, .reset]
  obtain ⟨hmax, hcycle | ⟨-, hzero, -⟩, -⟩ := hfailure _ hlate
  · obtain ⟨-, ⟨-, hnext⟩ | ⟨-, -, hcycle'⟩, hstays⟩ := hfailure' _ hcold
    · cases hnext
    · exact ⟨⟨rfl, hphase.mpr (by rw [hlate]; rfl), hlate, hmax, hcycle.2⟩,
        rfl, hphase'.mpr (by rw [hcold]; rfl), hcold, hcycle', hstays⟩
  · cases hzero

end Run

end SyncCircuit

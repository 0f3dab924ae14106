import SyncCircuit.Build.Basic
import SyncCircuit.Proofs.Run.Settlings

/-!
# The margin only decides when to give up

A settling that ends within a budget of passes ends in the same way within a larger one. The budget
is asked for in every settling of every cycle and in the cold start, and nowhere else, so a run with
a larger margin is the same run until the one with the smaller margin fails for the first time.

## Main definitions

* `Run.reconfigure` — the same run with other settings.
-/
namespace SyncCircuit

/-! ## Settlings -/

/-- **A settling that ends** is not affected by more passes. -/
theorem Propagation.settle_mono {devices : List Device} {budget budget' pass k : Nat}
    {p p' : Propagation} (hle : budget ≤ budget')
    (h : settle devices budget pass p = (some k, p')) :
    settle devices budget' pass p = (some k, p') := by
  induction budget generalizing budget' pass p with
  | zero => cases h
  | succ budget ih =>
    obtain ⟨more, rfl⟩ : ∃ more, budget' = more + 1 := ⟨budget' - 1, by omega⟩
    rw [settle] at h ⊢
    by_cases hchanged : (p.sweep devices pass).signals.anyChanged
    · rw [if_pos hchanged] at h ⊢
      exact ih (Nat.le_of_succ_le_succ hle) h
    · rw [if_neg hchanged] at h ⊢
      exact h

/-- A cycle that settles is not affected by more passes for its settlings. -/
theorem CircuitState.attempt_mono {devices : List Device} {budget budget' passes : Nat}
    {st st' : CircuitState} {probes : Array Probe} (hle : budget ≤ budget')
    (h : st.attempt devices budget = ⟨some (passes, st'), probes⟩) :
    st.attempt devices budget' = ⟨some (passes, st'), probes⟩ := by
  cases settled_of_attempt (congrArg Attempt.outcome h) with
  | once hfirst hclock =>
    rw [attempt_of_once hfirst hclock] at h
    rw [attempt_of_once (Propagation.settle_mono hle hfirst) hclock]
    exact h
  | twice hfirst hclock hsecond =>
    rw [attempt_of_second hfirst hclock hsecond] at h
    rw [attempt_of_second (Propagation.settle_mono hle hfirst) hclock
      (Propagation.settle_mono hle hsecond)]
    exact h

namespace Run

variable {net : Network} {r : Run net} {config' : Config}

/-! ## One request -/

/-- The same run with other settings. -/
def reconfigure (r : Run net) (config' : Config) : Run net := { r with config := config' }

theorem maxPasses_le_reconfigure (hmargin : r.config.margin ≤ config'.margin) :
    r.maxPasses ≤ (r.reconfigure config').maxPasses := Nat.add_le_add_left hmargin _

theorem coldStart_reconfigure (hmargin : r.config.margin ≤ config'.margin)
    (h : r.coldStart.1.failure = none) :
    (r.reconfigure config').coldStart = (r.coldStart.1.reconfigure config', r.coldStart.2) := by
  rcases hsettle : Propagation.settle net.devices r.maxPasses 1 ⟨net.coldState.signals, #[]⟩
    with ⟨_ | k, p⟩
  · rw [coldStart_of_unsettled hsettle] at h
    cases h
  · rw [coldStart_eq_of_some hsettle, coldStart_eq_of_some
      (Propagation.settle_mono (maxPasses_le_reconfigure hmargin) hsettle)]
    rfl

/-- **A cycle that settles** is the same with a larger margin. -/
theorem advance_reconfigure (hmargin : r.config.margin ≤ config'.margin)
    (h : r.advance.run.failure = none) :
    (r.reconfigure config').advance =
      ⟨r.advance.answer, r.advance.run.reconfigure config', r.advance.events⟩ := by
  rcases r.advance_cases with ⟨o, hfail, hadvance⟩ |
    ⟨passes, state, probes, hfail, hout, hadvance⟩ | ⟨probes, -, -, hadvance⟩
  · rw [hadvance, hfail] at h
    cases h
  · rw [hadvance, advance_eq_of_some (r := r.reconfigure config') hfail
      (CircuitState.attempt_mono (maxPasses_le_reconfigure hmargin) hout)]
    rfl
  · rw [hadvance] at h
    cases h

/-- If the last of several cycles settles, so have all before it. -/
theorem advanceLogged_reconfigure (hmargin : r.config.margin ≤ config'.margin)
    {events : Array RunEvent} {n : Nat} (h : (r.advanceLogged events n).run.failure = none) :
    (r.reconfigure config').advanceLogged events n =
      ⟨(r.advanceLogged events n).answer, (r.advanceLogged events n).run.reconfigure config',
        (r.advanceLogged events n).events⟩ := by
  induction n generalizing r events with
  | zero => rfl
  | succ n ih =>
    cases hanswer : r.advance.answer with
    | ok s =>
      have hstep := advance_reconfigure hmargin (failure_advance_of_ok hanswer)
      have hanswer' : (r.reconfigure config').advance.answer = .ok s := by rw [hstep, hanswer]
      rw [advanceLogged_succ_of_ok hanswer] at h
      rw [advanceLogged_succ_of_ok hanswer, advanceLogged_succ_of_ok hanswer', hstep]
      refine ih ?_ h
      rw [config_advance]
      exact hmargin
    | error e =>
      obtain ⟨o, -, ho⟩ := failure_advance_of_error hanswer
      rw [advanceLogged_succ_of_error hanswer, ho] at h
      cases h

/-- **A request that leaves no failure** does the same with a larger margin. -/
theorem perform_reconfigure (hmargin : r.config.margin ≤ config'.margin) {c : Command}
    (h : (r.perform c).run.failure = none) :
    (r.reconfigure config').perform c =
      ⟨(r.perform c).answer, (r.perform c).run.reconfigure config', (r.perform c).events⟩ := by
  cases c with
  | advance =>
    rw [perform, perform, advance_reconfigure hmargin h]
    rfl
  | advanceBy n =>
    rw [perform, perform, advanceBy, advanceLogged_reconfigure hmargin h]
    rfl
  | reset =>
    have hcold := coldStart_reconfigure (r := { r with monitors := r.monitors.clear 1 }) hmargin h
    have hcleared : ({ r.reconfigure config' with
        monitors := (r.reconfigure config').monitors.clear 1 } : Run net) =
        ({ r with monitors := r.monitors.clear 1 } : Run net).reconfigure config' := rfl
    rw [perform, perform, reset, hcleared, hcold]
    rfl
  | setSwitch name value =>
    rw [perform, perform]
    rcases setSwitch_cases net name value with ⟨e, hrefused⟩ | ⟨o, hset⟩
    · rw [hrefused, hrefused]
      rfl
    · rw [hset, hset]
      rfl
  | addMonitor ref =>
    rw [perform, perform, addMonitor, addMonitor]
    cases net.output ref with
    | error fault => rfl
    | ok o =>
      dsimp only [reconfigure]
      cases r.monitors.add? (net.outputLabel o) o (r.cycle + 1) <;> rfl
  | removeMonitor label =>
    rw [perform, perform, removeMonitor, removeMonitor]
    dsimp only [reconfigure]
    cases r.monitors.remove? label <;> rfl

/-! ## Whole runs -/

theorem start_reconfigure {config : Config} (hmargin : config.margin ≤ config'.margin)
    (hbound : config'.maxTraceLength = config.maxTraceLength)
    (h : (start net config).1.failure = none) :
    start net config' = ((start net config).1.reconfigure config', (start net config).2) := by
  rw [start, hbound]
  exact coldStart_reconfigure hmargin h

/-- **A run without failures** is the same run with a larger margin. -/
theorem performAll_take_reconfigure {config : Config} (hmargin : config.margin ≤ config'.margin)
    (hbound : config'.maxTraceLength = config.maxTraceLength) (cs : List Command) {n : Nat}
    (h : ∀ k ≤ n, ((start net config).1.performAll (cs.take k)).failure = none) :
    (start net config').1.performAll (cs.take n) =
      ((start net config).1.performAll (cs.take n)).reconfigure config' := by
  induction n with
  | zero =>
    exact congrArg Prod.fst (start_reconfigure hmargin hbound (h 0 le_rfl))
  | succ n ih =>
    have hlast := h (n + 1) le_rfl
    have hbefore := ih fun k hk => h k (Nat.le_succ_of_le hk)
    rw [List.take_add_one] at hlast ⊢
    cases hc : cs[n]? with
    | none =>
      rw [Option.toList_none, List.append_nil]
      exact hbefore
    | some c =>
      rw [hc, Option.toList_some, performAll_append] at hlast
      have hconfig := config_performAll net config (cs.take n)
      rw [Option.toList_some, performAll_append, performAll_append, hbefore]
      exact congrArg Step.run (perform_reconfigure (hconfig.symm ▸ hmargin) hlast)

/-- **A larger margin never changes a run that settles.** Up to the first failure with the smaller
margin, the run with the larger one answers every request in the same way, with the same log, and is
the same in all but its settings: signals and marks, memory, counts, phase and traces. So it does
not fail earlier. -/
theorem wider_margin_same_run (net : Network) (config config' : Config)
    (hmargin : config.margin ≤ config'.margin)
    (hbound : config'.maxTraceLength = config.maxTraceLength) (cs : List Command) :
    (∀ n, (∀ k ≤ n, ((start net config).1.performAll (cs.take k)).failure = none) →
      (start net config').2 = (start net config).2 ∧
      (start net config').1.performAll (cs.take n) =
        { (start net config).1.performAll (cs.take n) with config := config' } ∧
      ∀ k < n, ∀ c, cs[k]? = some c →
        let step := ((start net config).1.performAll (cs.take k)).perform c
        let step' := ((start net config').1.performAll (cs.take k)).perform c
        step'.answer = step.answer ∧ step'.events = step.events) ∧
    ∀ n, ((start net config').1.performAll (cs.take n)).failure ≠ none →
      ∃ k ≤ n, ((start net config).1.performAll (cs.take k)).failure ≠ none := by
  constructor
  · intro n h
    refine ⟨?_, performAll_take_reconfigure hmargin hbound cs h, fun k hk c hc => ?_⟩
    · rw [start_reconfigure hmargin hbound (h 0 (Nat.zero_le n))]
    · have hbefore := performAll_take_reconfigure hmargin hbound cs
        fun j hj => h j (hj.trans hk.le)
      have hafter := h (k + 1) hk
      rw [List.take_add_one, hc, Option.toList_some, performAll_append] at hafter
      have hconfig := config_performAll net config (cs.take k)
      dsimp only
      rw [hbefore, perform_reconfigure (hconfig.symm ▸ hmargin) hafter]
      exact ⟨rfl, rfl⟩
  · intro n hfail
    by_contra hnever
    have hnone : ∀ k ≤ n, ((start net config).1.performAll (cs.take k)).failure = none :=
      fun k hk => by_contra fun hne => hnever ⟨k, hk, hne⟩
    rw [performAll_take_reconfigure hmargin hbound cs hnone] at hfail
    exact hfail (hnone n le_rfl)

/-- A gate that holds itself once it has been high. The switch gets through to it, and its own change
back, in more passes than there are devices. -/
def slowLatch : Description where
  devices := [⟨"S", .switch, some 0⟩, ⟨"A", .gate .or, some 2⟩, ⟨"B", .gate .and, some 1⟩,
    ⟨"C", .gate .xor, none⟩]
  connections := [⟨⟨"B", none⟩, ⟨"A", "I1"⟩⟩, ⟨⟨"A", none⟩, ⟨"A", "I2"⟩⟩,
    ⟨⟨"C", none⟩, ⟨"B", "I1"⟩⟩, ⟨⟨"S", none⟩, ⟨"C", "I1"⟩⟩, ⟨⟨"A", none⟩, ⟨"C", "I2"⟩⟩]
  monitors := [⟨"A", none⟩]

theorem slowLatch_wider_margin_same_run :
    let cs : List Command := [.advance, .setSwitch "S" true, .advance]
    let r := (start slowLatch.network { margin := 0 }).1
    let r' := (start slowLatch.network { margin := 1 }).1
    slowLatch.build { allowFeedback := true } = .ok slowLatch.network ∧
    ({ margin := 0 } : Config).margin ≤ ({ margin := 1 } : Config).margin ∧
    ({ margin := 1 } : Config).maxTraceLength = ({ margin := 0 } : Config).maxTraceLength ∧
    (∀ k ≤ 2, (r.performAll (cs.take k)).failure = none) ∧
    r'.performAll (cs.take 2) = { r.performAll (cs.take 2) with config := { margin := 1 } } ∧
    (r'.perform .advance).answer = (r.perform .advance).answer ∧
    -- The next cycle takes five passes, one more than there are devices.
    (r.performAll cs).failure = some ⟨2, 4⟩ ∧
    (r'.performAll cs).failure = none ∧ (r'.performAll cs).passes = 5 := by
  dsimp only
  have hnone : ∀ k ≤ 2, ((start slowLatch.network { margin := 0 }).1.performAll
      (([.advance, .setSwitch "S" true, .advance] : List Command).take k)).failure = none := by
    decide +kernel
  obtain ⟨-, hrun, hsteps⟩ := (wider_margin_same_run slowLatch.network { margin := 0 }
    { margin := 1 } (by decide) rfl [.advance, .setSwitch "S" true, .advance]).1 2 hnone
  exact ⟨rfl, by decide, rfl, hnone, hrun, (hsteps 0 (by decide) _ rfl).1, by decide +kernel,
    by decide +kernel, by decide +kernel⟩

end Run

end SyncCircuit

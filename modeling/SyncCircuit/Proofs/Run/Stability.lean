import SyncCircuit.Proofs.Build.Realization
import SyncCircuit.Proofs.Run.Cycle
import SyncCircuit.Proofs.Run.Requests
import SyncCircuit.Proofs.Run.Settle

/-!
# Loop-free circuits come to rest

In a loop-free network settling takes at most one pass more than there are gates, from whatever
state and in whatever order the devices are recomputed, and ends in the evaluation of the sources. A
network that is not empty has fewer gates than devices, so no margin is needed for that. The one
loop-free run that fails is that of the empty network without a margin, where no pass is allowed.
-/
namespace SyncCircuit

namespace Network

variable {net : Network} {devices : List Device} {s : Signals}

/-- **Settling ends** within two passes more than the greatest rank, if the gates are ranked. -/
theorem LoopFree.exists_settle_of_ranked (hl : net.LoopFree) (h : net.WellFormed)
    (hperm : devices.Perm net.devices) (hsize : net.outputCount ≤ s.size) (probes : Array Probe)
    {rank : Nat → Nat} {bound budget : Nat} (hranked : Propagation.Ranked devices rank)
    (hbound : ∀ o, IsGateOutput net.devices o → rank o < bound) (hbudget : bound < budget) :
    ∃ k p, Propagation.settle devices budget 1 ⟨s, probes⟩ = (some k, p) ∧ k ≤ bound + 1 := by
  have hsolved := (hl.eval_solves h s.get).gates
  have hright : Propagation.RightUpTo devices rank (net.eval s.get) 0 0 s :=
    fun j d _ _ hcase => absurd hcase (by omega)
  obtain ⟨k, p, hsettle, hk⟩ := Propagation.RightUpTo.settle (p := ⟨s, probes⟩) hright
    (fun d hd => Nat.lt_of_lt_of_le (h.firstOutput_lt (hperm.mem_iff.mp hd)) hsize)
    (fun d hd => hsolved d (hperm.mem_iff.mp hd)) hranked
    (fun o ho => hbound o ((isGateOutput_perm hperm).mp ho))
    (fun o ho => (iterate_relax_of_not_isGateOutput
      (fun ho' => ho ((isGateOutput_perm hperm).mpr ho')) net.size).symm)
    (Nat.zero_le bound) (by rwa [Nat.zero_add]) 1
  exact ⟨k, p, hsettle, by omega⟩

/-- **Settling ends** within one pass more than there are gates. -/
theorem LoopFree.exists_settle (hl : net.LoopFree) (h : net.WellFormed)
    (hperm : devices.Perm net.devices) (hsize : net.outputCount ≤ s.size) (probes : Array Probe)
    {budget : Nat} (hbudget : net.gateCount < budget) :
    ∃ k p, Propagation.settle devices budget 1 ⟨s, probes⟩ = (some k, p) ∧
      k ≤ net.gateCount + 1 := by
  obtain ⟨rank, hgrow, hbound⟩ := hl.exists_rank h
  have hranked : Propagation.Ranked devices rank := by
    intro i j d d' hd hd' hgate hgate' hdrives
    left
    have hmem := hperm.mem_iff.mp (List.mem_of_getElem? hd)
    have hmem' := hperm.mem_iff.mp (List.mem_of_getElem? hd')
    exact hgrow d hmem hgate _ hdrives ⟨d', hmem', hgate', rfl⟩
  exact hl.exists_settle_of_ranked h hperm hsize probes hranked hbound hbudget

/-- **Settling ends in the evaluation** of the sources, whatever the gates showed before. -/
theorem LoopFree.get_settle (hl : net.LoopFree) (h : net.WellFormed)
    (hperm : devices.Perm net.devices) (hsize : net.outputCount ≤ s.size) {src : Nat → Bool}
    (hsrc : ∀ o, net.IsSource o → s.get o = src o) {probes : Array Probe} {budget pass k : Nat}
    {p : Propagation}
    (hsettle : Propagation.settle devices budget pass ⟨s, probes⟩ = (some k, p)) :
    ∀ o < net.outputCount, p.signals.get o = net.eval src o :=
  ((h.solves_of_settle hperm hsize hsettle).congr hsrc).eq_eval hl h

end Network

/-! ## Cycles -/

namespace CircuitState

variable {devices : List Device} {budget : Nat}

/-- Both settlings of a cycle end, and neither takes more passes than a bound. The second one is
meant even where the cycle skips it. -/
def SettlesWithin (devices : List Device) (budget bound : Nat) (st : CircuitState) : Prop :=
  ∃ k p, Propagation.settle devices budget 1 ⟨(st.tickClocks devices).signals, #[]⟩ = (some k, p) ∧
    k ≤ bound ∧ ∃ k' p', Propagation.settle devices budget 1
      ⟨({ st.tickClocks devices with signals := p.signals }.clockFlipFlops devices).1.signals,
        p.probes⟩ = (some k', p') ∧ k' ≤ bound

/-- **One whole cycle** in which both settlings end. -/
theorem attempt_of_settled {st : CircuitState} {k k' : Nat} {p p' : Propagation}
    (hfirst : Propagation.settle devices budget 1 ⟨(st.tickClocks devices).signals, #[]⟩ =
      (some k, p))
    (hsecond : Propagation.settle devices budget 1
      ⟨({ st.tickClocks devices with signals := p.signals }.clockFlipFlops devices).1.signals,
        p.probes⟩ = (some k', p')) :
    (st.attempt devices budget).outcome =
      let clocked := { st.tickClocks devices with signals := p.signals }.clockFlipFlops devices
      if clocked.2 then some (k + k', { clocked.1 with signals := p'.signals })
      else some (k, clocked.1) := by
  rw [attempt, settle, hfirst]
  dsimp only [Option.map_some]
  split
  · rename_i st' hclock
    rw [hclock]
    rfl
  · rename_i st' hclock
    rw [hclock] at hsecond ⊢
    rw [settle, hsecond]
    rfl

theorem SettlesWithin.mono {bound bound' : Nat} {st : CircuitState}
    (h : st.SettlesWithin devices budget bound) (hle : bound ≤ bound') :
    st.SettlesWithin devices budget bound' := by
  obtain ⟨k, p, hfirst, hk, k', p', hsecond, hk'⟩ := h
  exact ⟨k, p, hfirst, hk.trans hle, k', p', hsecond, hk'.trans hle⟩

theorem SettlesWithin.exists_outcome {bound : Nat} {st : CircuitState}
    (h : st.SettlesWithin devices budget bound) : ∃ passes st',
      (st.attempt devices budget).outcome = some (passes, st') ∧
        st'.signals.size = st.signals.size := by
  obtain ⟨k, p, hfirst, -, k', p', hsecond, -⟩ := h
  have hp : p.signals.size = st.signals.size :=
    (Propagation.size_of_settle hfirst).trans (size_tickClocks devices st)
  have hclocked := size_clockFlipFlops devices { st.tickClocks devices with signals := p.signals }
  have hp' := Propagation.size_of_settle hsecond
  rw [attempt_of_settled hfirst hsecond]
  by_cases hchanged :
      ({ st.tickClocks devices with signals := p.signals }.clockFlipFlops devices).2
  · refine ⟨_, _, if_pos hchanged, ?_⟩
    exact hp'.trans (hclocked.trans hp)
  · refine ⟨_, _, if_neg hchanged, ?_⟩
    exact hclocked.trans hp

end CircuitState

namespace Network

variable {net : Network}

theorem LoopFree.settlesWithin (hl : net.LoopFree) (h : net.WellFormed) {budget : Nat}
    (hbudget : net.gateCount < budget) {st : CircuitState}
    (hsize : net.outputCount ≤ st.signals.size) :
    st.SettlesWithin net.devices budget (net.gateCount + 1) := by
  have htick : net.outputCount ≤ (st.tickClocks net.devices).signals.size := by
    rwa [CircuitState.size_tickClocks]
  obtain ⟨k, p, hfirst, hk⟩ := hl.exists_settle h (.refl _) htick #[] hbudget
  have hp : net.outputCount ≤ p.signals.size := by
    rw [Propagation.size_of_settle hfirst]
    exact htick
  have hclock := CircuitState.size_clockFlipFlops net.devices
    { st.tickClocks net.devices with signals := p.signals }
  obtain ⟨k', p', hsecond, hk'⟩ :=
    hl.exists_settle h (.refl _) (hp.trans (Nat.le_of_eq hclock.symm)) p.probes hbudget
  exact ⟨k, p, hfirst, hk, k', p', hsecond, hk'⟩

/-- Every budget exceeds the number of gates, unless there is none at all. -/
theorem LoopFree.gateCount_lt_maxPasses (hl : net.LoopFree) (h : net.WellFormed) {config : Config}
    (hsome : ¬ (net.size = 0 ∧ config.margin = 0)) : net.gateCount < config.maxPasses net.size := by
  rw [Config.maxPasses]
  by_cases hsize : net.size = 0
  · have := net.gateCount_le_size
    omega
  · have := hl.gateCount_lt_size h hsize
    omega

end Network

/-! ## Runs -/

namespace Run

variable {net : Network} {config : Config}

/-- A run that has not failed, with room for all outputs. -/
structure Intact (config : Config) (r : Run net) : Prop where
  config_eq : r.config = config
  size : net.outputCount ≤ r.state.signals.size
  failure : r.failure = none
  phase : r.phase ≠ .failed

theorem Intact.setMonitors {r : Run net} (hr : r.Intact config) (monitors : Monitors) :
    ({ r with monitors := monitors } : Run net).Intact config :=
  ⟨hr.config_eq, hr.size, hr.failure, hr.phase⟩

theorem Intact.setOutput {r : Run net} (hr : r.Intact config) (o : Nat) (value : Bool) :
    ({ r with state := { r.state with signals := r.state.signals.set o value } } :
      Run net).Intact config where
  config_eq := hr.config_eq
  size := by
    rw [Signals.size_set]
    exact hr.size
  failure := hr.failure
  phase := hr.phase

theorem intact_coldStart (hl : net.LoopFree) (h : net.WellFormed)
    (hbudget : net.gateCount < config.maxPasses net.size) {r : Run net}
    (hconfig : r.config = config) : r.coldStart.1.Intact config := by
  have hmax : net.gateCount < r.maxPasses := by rwa [maxPasses, hconfig]
  obtain ⟨k, p, hsettle, -⟩ := hl.exists_settle h (.refl _) net.size_coldState #[] hmax
  have hsize := Propagation.size_of_settle hsettle
  rw [coldStart_of_settled hsettle]
  exact ⟨hconfig, net.size_coldState.trans (Nat.le_of_eq hsize.symm), rfl, by simp⟩

theorem Intact.settlesWithin (hl : net.LoopFree) (h : net.WellFormed)
    (hbudget : net.gateCount < config.maxPasses net.size) {r : Run net} (hr : r.Intact config) :
    r.state.SettlesWithin net.devices r.maxPasses (net.gateCount + 1) := by
  rw [maxPasses, hr.config_eq]
  exact hl.settlesWithin h hbudget hr.size

theorem Intact.advance (hl : net.LoopFree) (h : net.WellFormed)
    (hbudget : net.gateCount < config.maxPasses net.size) {r : Run net} (hr : r.Intact config) :
    r.advance.run.Intact config := by
  obtain ⟨passes, state, hout, hsize⟩ := (hr.settlesWithin hl h hbudget).exists_outcome
  rw [advance_of_settled hr.failure hout]
  exact ⟨hr.config_eq, hr.size.trans (Nat.le_of_eq hsize.symm), hr.failure, by simp⟩

/-- **No request makes a loop-free run fail** if there are more passes than gates. -/
theorem Intact.perform (hl : net.LoopFree) (h : net.WellFormed)
    (hbudget : net.gateCount < config.maxPasses net.size) {r : Run net} (hr : r.Intact config)
    (c : Command) : (r.perform c).run.Intact config := by
  refine perform_induction ?_ ?_ ?_ ?_ hr c
  · intro r hr
    exact intact_coldStart hl h hbudget hr.config_eq
  · intro r hr
    exact hr.advance hl h hbudget
  · intro r name dev initial value _ _ hr
    exact hr.setOutput dev.firstOutput value
  · intro r monitors hr
    exact hr.setMonitors monitors

theorem intact_performAll (hl : net.LoopFree) (h : net.WellFormed)
    (hbudget : net.gateCount < config.maxPasses net.size) (cs : List Command) :
    ((start net config).1.performAll cs).Intact config :=
  performAll_induction (fun _ c hr => hr.perform hl h hbudget c)
    (intact_coldStart hl h hbudget rfl) cs

/-- A run that has failed for good, since no pass is allowed. -/
structure Stuck (config : Config) (r : Run net) : Prop where
  config_eq : r.config = config
  failure : ∃ o, r.failure = some o
  phase : r.phase = .failed

theorem stuck_coldStart (hbudget : config.maxPasses net.size = 0) {r : Run net}
    (hconfig : r.config = config) : r.coldStart.1.Stuck config := by
  have hsettle : Propagation.settle net.devices r.maxPasses 1 ⟨net.coldState.signals, #[]⟩ =
      (none, ⟨net.coldState.signals, #[]⟩) := by
    rw [maxPasses, hconfig, hbudget]
    rfl
  rw [coldStart_of_unsettled hsettle]
  exact ⟨hconfig, ⟨_, rfl⟩, rfl⟩

theorem Stuck.perform (hbudget : config.maxPasses net.size = 0) {r : Run net}
    (hr : r.Stuck config) (c : Command) : (r.perform c).run.Stuck config := by
  refine perform_induction ?_ ?_ ?_ ?_ hr c
  · intro r hr
    exact stuck_coldStart hbudget hr.config_eq
  · intro r hr
    obtain ⟨o, ho⟩ := hr.failure
    rwa [advance_of_failure ho]
  · intro r name dev initial value _ _ hr
    exact ⟨hr.config_eq, hr.failure, hr.phase⟩
  · intro r monitors hr
    exact ⟨hr.config_eq, hr.failure, hr.phase⟩

theorem stuck_performAll (hbudget : config.maxPasses net.size = 0) (cs : List Command) :
    ((start net config).1.performAll cs).Stuck config :=
  performAll_induction (fun _ c hr => hr.perform hbudget c) (stuck_coldStart hbudget rfl) cs

/-- **Loop-free circuits never oscillate**, with a tight budget: a run fails exactly if there is no
device and no margin. If there is a device, every settling takes at most as many passes as there are
devices. Networks built without allowing feedback are loop-free. -/
theorem build_never_oscillates (d : Description) (options : BuildOptions) (net : Network)
    (hb : d.build options = .ok net) :
    (options.allowFeedback = false → net.LoopFree) ∧
    (net.LoopFree → ∀ config : Config,
      (∀ cs, ((start net config).1.performAll cs).phase = .failed ↔
        net.size = 0 ∧ config.margin = 0) ∧
      (net.size ≠ 0 →
        (∃ k p, Propagation.settle net.devices (config.maxPasses net.size) 1
          ⟨net.coldState.signals, #[]⟩ = (some k, p) ∧ k ≤ net.size) ∧
        ∀ cs, ((start net config).1.performAll cs).state.SettlesWithin net.devices
          (config.maxPasses net.size) net.size)) := by
  have h := Description.build_wellFormed hb
  refine ⟨Description.build_loopFree hb, fun hl config => ⟨fun cs => ?_, fun hne => ?_⟩⟩
  · by_cases hempty : net.size = 0 ∧ config.margin = 0
    · have hbudget : config.maxPasses net.size = 0 := by rw [Config.maxPasses]; omega
      exact iff_of_true (stuck_performAll hbudget cs).phase hempty
    · have hbudget := hl.gateCount_lt_maxPasses h hempty
      exact iff_of_false (intact_performAll hl h hbudget cs).phase hempty
  · have hlt := hl.gateCount_lt_size h hne
    have hbudget : net.gateCount < config.maxPasses net.size :=
      hl.gateCount_lt_maxPasses h fun hempty => hne hempty.1
    constructor
    · obtain ⟨k, p, hsettle, hk⟩ := hl.exists_settle h (.refl _) net.size_coldState #[] hbudget
      exact ⟨k, p, hsettle, by omega⟩
    · intro cs
      have hr := intact_performAll hl h hbudget cs
      exact (hl.settlesWithin h hbudget hr.size).mono hlt

theorem inverter_never_oscillates :
    Description.inverter.build {} = .ok Description.inverter.network ∧
      Description.inverter.network.LoopFree ∧
      ((start Description.inverter.network { margin := 0 }).1.performAll
        [.setSwitch "S" false, .advance]).phase ≠ .failed := by
  have hb : Description.inverter.build {} = .ok Description.inverter.network := rfl
  obtain ⟨hl, hruns⟩ := build_never_oscillates Description.inverter {} _ hb
  refine ⟨hb, hl rfl, ?_⟩
  rw [Ne, (hruns (hl rfl) { margin := 0 }).1]
  exact fun hempty => absurd hempty.1 (by decide)

end Run

end SyncCircuit

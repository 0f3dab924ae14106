import SyncCircuit.Proofs.Run.Registers
import SyncCircuit.Proofs.Run.Settle

/-!
# What the state of a circuit keeps of its registers

A state of a circuit tracks registers if its sources show what the registers store and its memory
holds their counts and samples; nothing is said about gates. Every step of a cycle keeps this up,
whatever the wiring: the clocks tick, the flip-flops store what they read from the signals they look
at, and settling writes no source.

## Main definitions

* `CircuitState.Tracks` — a state tracks registers.
* `Signals.Shows` — the outputs have given values.
-/
namespace SyncCircuit

variable {net : Network}

/-- What a device with this component remembers. -/
def Registers.memory (r : Registers) (c : Component) (i : Nat) : Memory :=
  match c with
  | .clock _ => .clock (r.ticks i)
  | .dtype => .flipFlop (r.sample i)
  | .gate _ | .switch _ => .stateless

/-- The sources and the memory of a state are those of the registers. -/
structure CircuitState.Tracks (net : Network) (st : CircuitState) (r : Registers) : Prop where
  size : net.outputCount ≤ st.signals.size
  source : ∀ o, net.IsSource o → st.signals.get o = r.source net o
  memory : ∀ (i : Nat) (dev : Device), net.devices[i]? = some dev →
    st.memory[i]? = some (r.memory dev.component i)

/-- The outputs of the network have these values. -/
def Signals.Shows (net : Network) (s : Signals) (v : Nat → Bool) : Prop :=
  ∀ o < net.outputCount, s.get o = v o

namespace CircuitState

variable {st : CircuitState} {r : Registers}

theorem Tracks.get_source (ht : st.Tracks net r) (h : net.WellFormed) {i k : Nat} {dev : Device}
    (hdev : net.devices[i]? = some dev) (hgate : dev.component.isGate = false)
    (hk : k < dev.component.outputCount) :
    st.signals.get (dev.firstOutput + k) = FlipFlop.outputAt (r.level i) k := by
  rw [ht.source _ ⟨i, k, dev, hdev, hgate, hk, rfl⟩, r.source_output h hdev hk]

/-! ## The steps of a cycle -/

theorem tracks_coldState (h : net.WellFormed) : net.coldState.Tracks net (.powerUp net) where
  size := net.size_coldState
  source o ho := by
    obtain ⟨i, k, dev, hdev, -, hk, rfl⟩ := ho
    rw [h.get_coldState hdev hk, Registers.source_output h hdev hk, Registers.powerUp]
    dsimp only
    rw [Network.component?_eq hdev]
    rfl
  memory i dev hdev := by
    rw [Network.getElem?_memory_coldState hdev]
    cases dev.component <;> rfl

theorem Tracks.tickClocks (ht : st.Tracks net r) (h : net.WellFormed) :
    (st.tickClocks net.devices).Tracks net (r.tick net) where
  size := by
    rw [size_tickClocks]
    exact ht.size
  source o ho := by
    obtain ⟨i, k, dev, hdev, hgate, hk, rfl⟩ := ho
    rw [get_tickClocks h hdev (ht.memory i dev hdev) hk ht.size, ht.get_source h hdev hgate hk,
      Registers.source_output h hdev hk, Registers.tick]
    dsimp only
    rw [Network.component?_eq hdev]
    cases hcomp : dev.component with
    | clock halfPeriod =>
      rw [hcomp] at hk
      obtain rfl : k = 0 := Nat.lt_one_iff.mp hk
      have htick : dev.clockTick? (r.memory (.clock halfPeriod) i) =
          some (Clock.tick (r.ticks i) halfPeriod) :=
        Device.clockTick?_eq_some_iff.mpr ⟨halfPeriod, _, hcomp, rfl, rfl⟩
      rw [htick]
      rfl
    | gate g | switch initial | dtype =>
      have htick : dev.clockTick? (r.memory dev.component i) = none := by
        rw [hcomp]
        simp [Device.clockTick?, hcomp]
      rw [hcomp] at htick
      rw [htick]
      exact Bool.false_xor _
  memory i dev hdev := by
    rw [getElem?_memory_tickClocks hdev (ht.memory i dev hdev)]
    cases hcomp : dev.component <;>
      simp [Device.tickMemory, Device.clockTick?, Registers.memory, Registers.tick,
        Network.component?_eq hdev, hcomp]

/-- Settling leaves the registers alone, whether or not it ends. -/
theorem Tracks.of_settle (ht : st.Tracks net r) (h : net.WellFormed) {probes : Array Probe}
    {budget : Nat} {o : Option Nat} {p : Propagation}
    (hsettle : Propagation.settle net.devices budget 1 ⟨st.signals, probes⟩ = (o, p)) :
    ({ st with signals := p.signals } : CircuitState).Tracks net r where
  size := by
    rw [Propagation.size_of_settle hsettle]
    exact ht.size
  source o ho := by
    have hkept := Propagation.get_settle_of_not_isGateOutput (h.not_isGateOutput_of_isSource ho)
      budget 1 ⟨st.signals, probes⟩
    rw [hsettle] at hkept
    exact hkept.trans (ht.source o ho)
  memory := ht.memory

theorem memory_sampleClks (h : net.WellFormed)
    (hmemory : ∀ (i : Nat) (dev : Device), net.devices[i]? = some dev →
      st.memory[i]? = some (r.memory dev.component i))
    {v : Nat → Bool} (hv : st.signals.Shows net v) {i : Nat} {dev : Device}
    (hdev : net.devices[i]? = some dev) :
    (st.sampleClks net.devices).memory[i]? =
      some ((r.sampleClks net v).memory dev.component i) := by
  have hdrivers : ∀ o ∈ dev.drivers, st.signals.get o = v o :=
    fun o ho => hv o (h.driver_lt dev (List.mem_of_getElem? hdev) o ho)
  rw [getElem?_memory_sampleClks hdev (hmemory i dev hdev)]
  cases hcomp : dev.component with
  | dtype =>
    simp only [Device.sampleClk, Registers.memory, Registers.sampleClks, hcomp,
      Network.flipFlop?_eq_some hdev hcomp, Device.input_eq_inputAt,
      Device.inputAt_congr hdrivers]
  | gate g | switch initial | clock halfPeriod =>
    simp [Device.sampleClk, Registers.memory, Registers.sampleClks, hcomp]

theorem Tracks.sampleClks (ht : st.Tracks net r) (h : net.WellFormed) {v : Nat → Bool}
    (hv : st.signals.Shows net v) :
    (st.sampleClks net.devices).Tracks net (r.sampleClks net v) where
  size := ht.size
  source := ht.source
  memory _ _ hdev := memory_sampleClks h ht.memory hv hdev

/-- What a flip-flop stores is what it commits, if anything. -/
theorem level_clockFlipFlops (h : net.WellFormed) {v : Nat → Bool} (hv : st.signals.Shows net v)
    {i : Nat} {dev : Device} (hdev : net.devices[i]? = some dev) :
    (r.clockFlipFlops net v).level i =
      (dev.commit? (r.memory dev.component i) st.signals).getD (r.level i) := by
  have hdrivers : ∀ o ∈ dev.drivers, st.signals.get o = v o :=
    fun o ho => hv o (h.driver_lt dev (List.mem_of_getElem? hdev) o ho)
  rw [Registers.clockFlipFlops]
  dsimp only
  by_cases hcomp : dev.component = .dtype
  · simp only [Network.flipFlop?_eq_some hdev hcomp, Device.commit?, Registers.memory, hcomp,
      Device.input_eq_inputAt, Device.inputAt_congr hdrivers]
    split <;> rfl
  · have hnone : dev.commit? (r.memory dev.component i) st.signals = none := by
      cases hq : dev.commit? (r.memory dev.component i) st.signals with
      | none => rfl
      | some q => exact absurd (Device.component_of_commit? hq) hcomp
    rw [Network.flipFlop?_eq_none hdev hcomp, hnone]
    rfl

theorem Tracks.clockFlipFlops (ht : st.Tracks net r) (h : net.WellFormed) {v : Nat → Bool}
    (hv : st.signals.Shows net v) :
    (st.clockFlipFlops net.devices).1.Tracks net (r.clockFlipFlops net v) where
  size := by
    rw [size_clockFlipFlops]
    exact ht.size
  source o ho := by
    obtain ⟨i, k, dev, hdev, hgate, hk, rfl⟩ := ho
    rw [get_clockFlipFlops h hdev (ht.memory i dev hdev) hk ht.size,
      ht.get_source h hdev hgate hk, Registers.source_output h hdev hk,
      level_clockFlipFlops h hv hdev]
    cases dev.commit? (r.memory dev.component i) st.signals <;> rfl
  memory _ _ hdev := memory_sampleClks h ht.memory hv hdev

/-- **If no Q is reported changed**, the commits have not changed any output: the stored values are
what they were, and so are their complements. -/
theorem Tracks.get_clockFlipFlops_of_unchanged (ht : st.Tracks net r) (h : net.WellFormed)
    (hflag : (st.clockFlipFlops net.devices).2 = false) {o : Nat} (ho : o < net.outputCount) :
    (st.clockFlipFlops net.devices).1.signals.get o = st.signals.get o := by
  obtain ⟨i, k, dev, hdev, hk, rfl⟩ := h.exists_of_lt ho
  rw [get_clockFlipFlops h hdev (ht.memory i dev hdev) hk ht.size]
  cases hq : dev.commit? (r.memory dev.component i) st.signals with
  | none => rfl
  | some q =>
    have hgate := Device.isGate_of_commit? hq
    have hget := get_of_unchanged h hflag hdev (ht.memory i dev hdev) hq
    have hshown := ht.get_source h hdev hgate dev.component.outputCount_pos
    rw [Nat.add_zero, hget] at hshown
    rw [Option.elim_some, ht.get_source h hdev hgate hk, hshown]
    rfl

/-- Setting a switch sets what it stores. -/
theorem Tracks.setSwitch (ht : st.Tracks net r) (h : net.WellFormed) {i : Nat} {dev : Device}
    {initial : Bool} (hdev : net.devices[i]? = some dev)
    (hswitch : dev.component = .switch initial) (value : Bool) :
    ({ st with signals := st.signals.set dev.firstOutput value } : CircuitState).Tracks net
      { r with level := Function.update r.level i value } where
  size := by
    rw [Signals.size_set]
    exact ht.size
  source o ho := by
    obtain ⟨j, k, dev', hdev', hgate, hk, rfl⟩ := ho
    rw [Registers.source_output h hdev' hk, Signals.get_set]
    by_cases hij : j = i
    · subst hij
      obtain rfl := Option.some.inj (hdev.symm.trans hdev')
      have hlt := Nat.lt_of_lt_of_le (h.output_lt hdev hk) ht.size
      rw [hswitch] at hk
      obtain rfl : k = 0 := Nat.lt_one_iff.mp hk
      rw [if_pos ⟨rfl, hlt⟩]
      dsimp only
      rw [Function.update_self]
      rfl
    · have hne : ¬ dev.firstOutput = dev'.firstOutput + k :=
        fun heq => hij (h.output_inj hdev' hdev hk dev.component.outputCount_pos heq.symm).1
      rw [if_neg fun hand => hne hand.1]
      dsimp only
      rw [Function.update_of_ne hij]
      exact ht.get_source h hdev' hgate hk
  memory := ht.memory

end CircuitState

end SyncCircuit

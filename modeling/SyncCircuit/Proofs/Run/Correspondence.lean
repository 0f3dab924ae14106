import SyncCircuit.Proofs.Network.Embedding
import SyncCircuit.Proofs.Run.Schedule

/-!
# Runs side by side

A loop-free network that sits inside another one does there what it does alone. The registers of its
devices agree with those it has alone, and every step of the machine keeps that up, since what it
reads are outputs of the smaller network only. So two runs, one of each network, show the same
values at all outputs of the smaller one while they are given the same requests. How many passes the
settlings take, and in which order gates are recomputed, does not matter.

## Main definitions

* `Registers.Agree` — registers of both networks agree on the devices of the smaller one.
* `Run.Corresponds` — runs of both networks show the same at the outputs of the smaller one.
-/
namespace SyncCircuit

variable {net net' : Network} {e : net.Embedding net'}

/-! ## Reading devices in both networks -/

namespace Network.Embedding

variable {v v' : Nat → Bool}

theorem component? {i : Nat} (hi : i < net.size) :
    net'.component? (e.device i) = net.component? i := by
  have hdev : net.devices[i]? = some net.devices[i] := List.getElem?_eq_getElem hi
  obtain ⟨dev', hdev', hrenumbered⟩ := e.image i _ hdev
  rw [component?_eq hdev, component?_eq hdev', hrenumbered.component]

/-- The inputs of a device have the same values in both networks. -/
theorem inputAt {dev dev' : Device} (hrenumbered : dev.Renumbered e.output dev')
    (hv : ∀ o ∈ dev.drivers, v' (e.output o) = v o) (pin : FlipFlop.Input) :
    dev'.inputAt v' pin = dev.inputAt v pin := by
  rw [Device.inputAt, Device.inputAt, Device.driver?, Device.driver?, hrenumbered.drivers,
    List.getElem?_map]
  cases hdriver : dev.drivers[pin.index]? with
  | none => rfl
  | some o => exact hv o (List.mem_of_getElem? hdriver)

/-- A device is a flip-flop in both networks or in none. -/
theorem flipFlop?_cases {i : Nat} (hi : i < net.size) :
    (net.flipFlop? i = none ∧ net'.flipFlop? (e.device i) = none) ∨
    ∃ dev dev', dev ∈ net.devices ∧ dev.Renumbered e.output dev' ∧
      net.flipFlop? i = some dev ∧ net'.flipFlop? (e.device i) = some dev' := by
  have hdev : net.devices[i]? = some net.devices[i] := List.getElem?_eq_getElem hi
  obtain ⟨dev', hdev', hrenumbered⟩ := e.image i _ hdev
  by_cases hcomp : net.devices[i].component = .dtype
  · right
    exact ⟨_, dev', List.mem_of_getElem? hdev, hrenumbered, flipFlop?_eq_some hdev hcomp,
      flipFlop?_eq_some hdev' (hrenumbered.component.trans hcomp)⟩
  · left
    refine ⟨flipFlop?_eq_none hdev hcomp, flipFlop?_eq_none hdev' ?_⟩
    rwa [hrenumbered.component]

end Network.Embedding

/-! ## Registers -/

/-- Registers of both networks agree on the devices of the smaller one. -/
structure Registers.Agree (e : net.Embedding net') (r r' : Registers) : Prop where
  level : ∀ i < net.size, r'.level (e.device i) = r.level i
  ticks : ∀ i < net.size, r'.ticks (e.device i) = r.ticks i
  sample : ∀ i < net.size, r'.sample (e.device i) = r.sample i

namespace Registers

variable {r r' : Registers} {v v' : Nat → Bool}

theorem agree_powerUp (e : net.Embedding net') :
    (powerUp net).Agree e (powerUp net') where
  level i hi := by
    rw [powerUp, powerUp]
    dsimp only
    rw [e.component? hi]
  ticks _ _ := rfl
  sample _ _ := rfl

theorem Agree.source (hr : r.Agree e r') (h : net.WellFormed) (h' : net'.WellFormed) {o : Nat}
    (ho : o < net.outputCount) : r'.source net' (e.output o) = r.source net o := by
  obtain ⟨i, k, dev, dev', hdev, hdev', -, hk, hk', rfl, heq⟩ := e.exists_output h ho
  rw [heq, r'.source_output h' hdev' hk', r.source_output h hdev hk,
    hr.level i (List.getElem?_eq_some_iff.mp hdev).1]

/-- The machines show the same. -/
theorem Agree.visible (hr : r.Agree e r') (h : net.WellFormed) (h' : net'.WellFormed)
    (hl : net.LoopFree) (hl' : net'.LoopFree) :
    ∀ o < net.outputCount, r'.visible net' (e.output o) = r.visible net o :=
  e.eval h h' hl hl' fun _ ho => hr.source h h' (h.lt_of_isSource ho)

theorem Agree.tick (hr : r.Agree e r') : (r.tick net).Agree e (r'.tick net') where
  level i hi := by
    simp only [Registers.tick, e.component? hi, hr.level i hi, hr.ticks i hi]
  ticks i hi := by
    simp only [Registers.tick, e.component? hi, hr.ticks i hi]
  sample := hr.sample

theorem Agree.sampleClks (hr : r.Agree e r') (h : net.WellFormed)
    (hv : ∀ o < net.outputCount, v' (e.output o) = v o) :
    (r.sampleClks net v).Agree e (r'.sampleClks net' v') where
  level := hr.level
  ticks := hr.ticks
  sample i hi := by
    rw [Registers.sampleClks, Registers.sampleClks]
    dsimp only
    rcases e.flipFlop?_cases hi with ⟨hnone, hnone'⟩ | ⟨dev, dev', hmem, hrenumbered, hdev, hdev'⟩
    · rw [hnone, hnone']
      exact hr.sample i hi
    · rw [hdev, hdev']
      exact e.inputAt hrenumbered (fun o ho => hv o (h.driver_lt dev hmem o ho)) .clk

theorem Agree.clockFlipFlops (hr : r.Agree e r') (h : net.WellFormed)
    (hv : ∀ o < net.outputCount, v' (e.output o) = v o) :
    (r.clockFlipFlops net v).Agree e (r'.clockFlipFlops net' v') where
  level i hi := by
    rw [Registers.clockFlipFlops, Registers.clockFlipFlops]
    dsimp only
    rcases e.flipFlop?_cases hi with ⟨hnone, hnone'⟩ | ⟨dev, dev', hmem, hrenumbered, hdev, hdev'⟩
    · rw [hnone, hnone']
      exact hr.level i hi
    · have hinput := e.inputAt hrenumbered fun o ho => hv o (h.driver_lt dev hmem o ho)
      simp only [hdev, hdev', hinput, hr.level i hi, hr.sample i hi]
  ticks := hr.ticks
  sample := (hr.sampleClks h hv).sample

/-- **One cycle** of the larger machine is one of the smaller machine. -/
theorem Agree.cycle (hr : r.Agree e r') (h : net.WellFormed) (h' : net'.WellFormed)
    (hl : net.LoopFree) (hl' : net'.LoopFree) : (r.cycle net).Agree e (r'.cycle net') :=
  hr.tick.clockFlipFlops h (hr.tick.visible h h' hl hl')

theorem agree_cold (e : net.Embedding net') (h : net.WellFormed) (h' : net'.WellFormed)
    (hl : net.LoopFree) (hl' : net'.LoopFree) : (cold net).Agree e (cold net') :=
  (agree_powerUp e).sampleClks h ((agree_powerUp e).visible h h' hl hl')

theorem level_setSwitch_self (h : net.WellFormed) {i : Nat} {dev : Device} {initial : Bool}
    (hdev : net.devices[i]? = some dev) (hswitch : dev.component = .switch initial)
    (value : Bool) : (r.setSwitch net dev.name value).level i = value := by
  have hindex : net.index? dev.name = some i := h.index?_eq_some_iff_name.mpr ⟨dev, hdev, rfl⟩
  rw [setSwitch, hindex]
  dsimp only
  rw [Network.component?_eq hdev, hswitch]
  exact Function.update_self i value r.level

theorem ticks_setSwitch (net : Network) (r : Registers) (name : String) (value : Bool) :
    (r.setSwitch net name value).ticks = r.ticks := by
  rw [setSwitch]
  split
  · split <;> rfl
  · rfl

/-- A switch is set in both networks; the smaller one may not have it. -/
theorem Agree.setSwitch (hr : r.Agree e r') (h : net.WellFormed) (h' : net'.WellFormed)
    (name : String) (value : Bool) :
    (r.setSwitch net name value).Agree e (r'.setSwitch net' name value) where
  level i hi := by
    have hdev : net.devices[i]? = some net.devices[i] := List.getElem?_eq_getElem hi
    obtain ⟨dev', hdev', hrenumbered⟩ := e.image i _ hdev
    generalize net.devices[i] = dev at hdev hrenumbered
    by_cases hset : ∃ initial, dev.component = .switch initial ∧ dev.name = name
    · obtain ⟨initial, hswitch, rfl⟩ := hset
      have hself' := level_setSwitch_self (r := r') h' hdev'
        (hrenumbered.component.trans hswitch) value
      rw [hrenumbered.name] at hself'
      rw [level_setSwitch_self h hdev hswitch, hself']
    · have hother : ∀ initial, dev.component = .switch initial → dev.name ≠ name :=
        fun initial hswitch hname => hset ⟨initial, hswitch, hname⟩
      rw [level_setSwitch h hdev hother, level_setSwitch h' hdev', hr.level i hi]
      rwa [hrenumbered.component, hrenumbered.name]
  ticks := by
    rw [ticks_setSwitch, ticks_setSwitch]
    exact hr.ticks
  sample := by
    rw [sample_setSwitch, sample_setSwitch]
    exact hr.sample

end Registers

/-! ## Runs -/

/-- A loop-free network with more passes allowed than it has gates, so that it always settles. -/
structure Network.AlwaysSettles (config : Config) (net : Network) : Prop where
  wellFormed : net.WellFormed
  loopFree : net.LoopFree
  budget : net.gateCount < config.maxPasses net.size

/-- Two runs track agreeing registers, stand at the same point, and show the same at the outputs of
the smaller network, also while gates have not yet followed a switch. -/
structure Run.Corresponds (e : net.Embedding net') (config : Config) (r : Run net)
    (r' : Run net') : Prop where
  registers : ∃ regs regs', r.Follows config regs ∧ r'.Follows config regs' ∧ regs.Agree e regs'
  signals : ∀ o < net.outputCount, r'.signals.get (e.output o) = r.signals.get o
  cycle : r'.cycle = r.cycle
  phase : r'.phase = r.phase

namespace Run

variable {config : Config} {r : Run net} {r' : Run net'}

/-- What a cold start that settles does. -/
theorem exists_coldStart_of_settles (hn : net.AlwaysSettles config) (hr : r.config = config) :
    ∃ state passes, r.coldStart.1 =
      { r with state := state, phase := .idle, cycle := 0, passes := passes, failure := none } := by
  have hmax : net.gateCount < r.maxPasses := by
    rw [maxPasses, hr]
    exact hn.budget
  obtain ⟨k, p, hsettle, -⟩ :=
    hn.loopFree.exists_settle hn.wellFormed (.refl _) net.size_coldState #[] hmax
  exact ⟨_, _, coldStart_of_settled hsettle⟩

/-- What a cycle that settles does. -/
theorem Intact.exists_advance (hr : r.Intact config) (hn : net.AlwaysSettles config) :
    ∃ state passes, r.advance.run =
      { r with
        state := state
        cycle := r.cycle + 1
        passes := passes
        phase := .settled
        monitors := r.monitors.record state.signals } := by
  obtain ⟨passes, state, hout, -⟩ :=
    (hr.settlesWithin hn.loopFree hn.wellFormed hn.budget).exists_outcome
  exact ⟨state, passes, advance_of_settled hr.failure hout⟩

/-- Several cycles are never cut short. -/
theorem Intact.answer_advanceLogged (hr : r.Intact config) (hn : net.AlwaysSettles config)
    (events : Array RunEvent) (n : Nat) : (r.advanceLogged events n).answer = .ok () := by
  induction n generalizing r events with
  | zero => rfl
  | succ n ih =>
    have hnext := hr.advance hn.loopFree hn.wellFormed hn.budget
    rw [advanceLogged_succ_of_ok (answer_advance_of_failure_eq_none hnext.failure)]
    exact ih hnext _

theorem Intact.answer_advanceBy (hr : r.Intact config) (hn : net.AlwaysSettles config) (n : Nat) :
    (r.advanceBy n).answer = .ok () := hr.answer_advanceLogged hn #[] n

/-- Gates do not follow a switch before the next cycle. -/
theorem get_setSwitch_of_isGateOutput (h : net.WellFormed) (r : Run net) (name : String)
    (value : Bool) {o : Nat} (ho : Network.IsGateOutput net.devices o) :
    (r.setSwitch name value).run.signals.get o = r.signals.get o := by
  by_cases hfound : ∃ dev initial, net.device? name = some dev ∧ dev.component = .switch initial
  · obtain ⟨dev, initial, hdev, hswitch⟩ := hfound
    obtain ⟨i, hi⟩ := List.mem_iff_getElem?.mp (List.mem_of_find?_eq_some hdev)
    have hsource : net.IsSource dev.firstOutput :=
      ⟨i, 0, dev, hi, by rw [hswitch]; rfl, dev.component.outputCount_pos, rfl⟩
    have hne : dev.firstOutput ≠ o := fun heq =>
      h.not_isGateOutput_of_isSource hsource (heq ▸ ho)
    rw [run_setSwitch hdev hswitch]
    exact (Signals.get_set ..).trans (if_neg fun hand => hne hand.1)
  · rw [run_setSwitch_of_refused fun dev initial hdev hswitch => hfound ⟨dev, initial, hdev, hswitch⟩]

theorem corresponds_coldStart (e : net.Embedding net') (hn : net.AlwaysSettles config)
    (hn' : net'.AlwaysSettles config) (hr : r.config = config) (hr' : r'.config = config) :
    r.coldStart.1.Corresponds e config r'.coldStart.1 := by
  obtain ⟨hfollows, hshows⟩ := follows_coldStart hn.loopFree hn.wellFormed hn.budget hr
  obtain ⟨hfollows', hshows'⟩ := follows_coldStart hn'.loopFree hn'.wellFormed hn'.budget hr'
  have hagree := Registers.agree_cold e hn.wellFormed hn'.wellFormed hn.loopFree hn'.loopFree
  have hvisible := hagree.visible hn.wellFormed hn'.wellFormed hn.loopFree hn'.loopFree
  obtain ⟨state, passes, hrun⟩ := exists_coldStart_of_settles hn hr
  obtain ⟨state', passes', hrun'⟩ := exists_coldStart_of_settles hn' hr'
  refine ⟨⟨_, _, hfollows, hfollows', hagree⟩, fun o ho => ?_, ?_, ?_⟩
  · rw [hshows o ho, hshows' _ (e.output_lt hn.wellFormed hn'.wellFormed ho), hvisible o ho]
  · rw [hrun, hrun']
  · rw [hrun, hrun']

namespace Corresponds

/-- **A cycle** keeps two runs together, however many passes each of them takes. -/
theorem advance (hc : r.Corresponds e config r') (hn : net.AlwaysSettles config)
    (hn' : net'.AlwaysSettles config) :
    r.advance.run.Corresponds e config r'.advance.run := by
  obtain ⟨regs, regs', hr, hr', hagree⟩ := hc.registers
  obtain ⟨hfollows, hshows⟩ := hr.advance hn.loopFree hn.wellFormed hn.budget
  obtain ⟨hfollows', hshows'⟩ := hr'.advance hn'.loopFree hn'.wellFormed hn'.budget
  have hcycle := hagree.cycle hn.wellFormed hn'.wellFormed hn.loopFree hn'.loopFree
  have hvisible := hcycle.visible hn.wellFormed hn'.wellFormed hn.loopFree hn'.loopFree
  obtain ⟨state, passes, hrun⟩ := hr.intact.exists_advance hn
  obtain ⟨state', passes', hrun'⟩ := hr'.intact.exists_advance hn'
  refine ⟨⟨_, _, hfollows, hfollows', hcycle⟩, fun o ho => ?_, ?_, ?_⟩
  · rw [hshows o ho, hshows' _ (e.output_lt hn.wellFormed hn'.wellFormed ho), hvisible o ho]
  · rw [hrun, hrun', hc.cycle]
  · rw [hrun, hrun']

/-- **Setting a switch** keeps two runs together, also a switch that the smaller network does not
have. -/
theorem setSwitch (hc : r.Corresponds e config r') (h : net.WellFormed) (h' : net'.WellFormed)
    (name : String) (value : Bool) :
    (r.setSwitch name value).run.Corresponds e config (r'.setSwitch name value).run := by
  obtain ⟨regs, regs', hr, hr', hagree⟩ := hc.registers
  have hset := hr.setSwitch h name value
  have hset' := hr'.setSwitch h' name value
  have hagree := hagree.setSwitch h h' name value
  obtain ⟨state, hrun⟩ := r.exists_run_setSwitch name value
  obtain ⟨state', hrun'⟩ := r'.exists_run_setSwitch name value
  refine ⟨⟨_, _, hset, hset', hagree⟩, fun o ho => ?_, ?_, ?_⟩
  · rcases h.isSource_or_isGateOutput ho with hsource | hgate
    · exact (hset'.tracks.source _ (e.isSource hsource)).trans
        ((hagree.source h h' ho).trans (hset.tracks.source o hsource).symm)
    · rw [get_setSwitch_of_isGateOutput h r name value hgate,
        get_setSwitch_of_isGateOutput h' r' name value (e.isGateOutput hgate), hc.signals o ho]
  · rw [hrun, hrun']
    exact hc.cycle
  · rw [hrun, hrun']
    exact hc.phase

theorem setMonitors (hc : r.Corresponds e config r') (monitors monitors' : Monitors) :
    ({ r with monitors := monitors } : Run net).Corresponds e config
      { r' with monitors := monitors' } := by
  obtain ⟨regs, regs', hr, hr', hagree⟩ := hc.registers
  exact ⟨⟨regs, regs', ⟨hr.intact.setMonitors monitors, hr.tracks⟩,
    ⟨hr'.intact.setMonitors monitors', hr'.tracks⟩, hagree⟩, hc.signals, hc.cycle, hc.phase⟩

theorem intact (hc : r.Corresponds e config r') : r.Intact config ∧ r'.Intact config := by
  obtain ⟨regs, regs', hr, hr', -⟩ := hc.registers
  exact ⟨hr.intact, hr'.intact⟩

theorem value? (hc : r.Corresponds e config r') (h : net.WellFormed) (h' : net'.WellFormed)
    {ref : OutputRef} {o : Nat} (ho : net.output ref = .ok o) : r'.value? ref = r.value? ref := by
  rw [Run.value?, Run.value?, ho, e.output_eq_ok h h' ho]
  exact congrArg some (hc.signals o (h.output_lt_of_eq_ok ho))

end Corresponds

end Run

end SyncCircuit

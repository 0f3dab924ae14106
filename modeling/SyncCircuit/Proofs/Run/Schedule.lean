import SyncCircuit.Proofs.Run.Refinement

/-!
# Runs with switches set between cycles

A run is often driven by a schedule: before each cycle some switches are set. A loop-free run that
follows a schedule does what the reference machine does under the same schedule, and after every
cycle it shows what the machine shows. Setting a switch touches nothing else that is stored.

## Main definitions

* `Run.cycles` — a run after a number of cycles of a schedule.
* `Registers.cycles` — the machine after a number of cycles of a schedule.
* `Run.clkSample` — the value of CLK when a flip-flop last looked.
-/
namespace SyncCircuit

variable {net : Network}

/-! ## Schedules -/

/-- For each cycle the switches that are set before it. -/
abbrev Schedule := Nat → List (String × Bool)

/-- The requests that set switches. -/
def switchCommands (calls : List (String × Bool)) : List Command :=
  calls.map fun call => .setSwitch call.1 call.2

namespace Run

/-- The run after a number of cycles of a schedule. -/
def cycles (r : Run net) (calls : Schedule) : Nat → Run net
  | 0 => r
  | n + 1 => ((r.cycles calls n).performAll (switchCommands (calls n))).advance.run

/-- The value of CLK when the flip-flop with an index last looked. -/
def clkSample (r : Run net) (i : Nat) : Bool :=
  match r.state.memory[i]? with
  | some (.flipFlop lastClk) => lastClk
  | _ => false

end Run

/-! ## Registers under a schedule -/

namespace Registers

/-- The registers after a number of cycles of a schedule. -/
def cycles (net : Network) (r : Registers) (calls : Schedule) : Nat → Registers
  | 0 => r
  | n + 1 => ((r.cycles net calls n).performAll net (switchCommands (calls n))).cycle net

variable {r : Registers} {i : Nat} {dev : Device}

/-- The outputs of a source show what it stores. -/
theorem visible_source (hl : net.LoopFree) (h : net.WellFormed) (hdev : net.devices[i]? = some dev)
    (hgate : dev.component.isGate = false) {k : Nat} (hk : k < dev.component.outputCount) :
    r.visible net (dev.firstOutput + k) = FlipFlop.outputAt (r.level i) k := by
  rw [visible, (hl.eval_solves h (r.source net)).sources _ ⟨i, k, dev, hdev, hgate, hk, rfl⟩,
    r.source_output h hdev hk]

/-- A flip-flop looks at its CLK at the end of the cold start. -/
theorem sample_cold (hdev : net.devices[i]? = some dev) (hcomp : dev.component = .dtype) :
    (cold net).sample i = dev.inputAt ((cold net).visible net) .clk := by
  rw [cold, sampleClks]
  dsimp only
  rw [Network.flipFlop?_eq_some hdev hcomp]
  rfl

/-- A flip-flop looks at its CLK after the clocks have ticked. -/
theorem sample_cycle (hdev : net.devices[i]? = some dev) (hcomp : dev.component = .dtype) :
    (r.cycle net).sample i = dev.inputAt ((r.tick net).visible net) .clk := by
  simp only [cycle, clockFlipFlops, sampleClks, Network.flipFlop?_eq_some hdev hcomp]

/-- A flip-flop stores a new value if its CLK has risen since it last looked. -/
theorem level_cycle (hdev : net.devices[i]? = some dev) (hcomp : dev.component = .dtype) :
    (r.cycle net).level i =
      let v := (r.tick net).visible net
      if dev.inputAt v .clk && !r.sample i then
        FlipFlop.next (dev.inputAt v .data) (dev.inputAt v .set) (dev.inputAt v .clear)
      else
        r.level i := by
  have htick : (r.tick net).level i = r.level i := level_tick hdev (by simp [hcomp])
  rw [cycle, clockFlipFlops]
  dsimp only
  rw [Network.flipFlop?_eq_some hdev hcomp, htick]
  rfl

/-- Cycles do not touch switches. -/
theorem level_cycle_of_switch (hdev : net.devices[i]? = some dev) {initial : Bool}
    (hcomp : dev.component = .switch initial) : (r.cycle net).level i = r.level i := by
  have hnone : net.flipFlop? i = none := Network.flipFlop?_eq_none hdev (by simp [hcomp])
  rw [cycle, clockFlipFlops]
  dsimp only
  rw [hnone]
  exact level_tick hdev (by simp [hcomp])

/-! ### Setting switches -/

theorem sample_setSwitch (r : Registers) (name : String) (value : Bool) :
    (r.setSwitch net name value).sample = r.sample := by
  rw [setSwitch]
  split
  · split <;> rfl
  · rfl

/-- Setting a switch changes what no other device stores. -/
theorem level_setSwitch (h : net.WellFormed) (hdev : net.devices[i]? = some dev) {name : String}
    (hother : ∀ initial, dev.component = .switch initial → dev.name ≠ name) (value : Bool) :
    (r.setSwitch net name value).level i = r.level i := by
  rw [setSwitch]
  split
  · rename_i j hindex
    split
    · rename_i initial hswitch
      refine Function.update_of_ne ?_ _ _
      rintro rfl
      rw [Network.component?_eq hdev] at hswitch
      have hname := (h.index?_eq_some_iff.mp hindex).2
      rw [Network.deviceName, hdev] at hname
      exact hother initial (Option.some.inj hswitch) hname
    · rfl
  · rfl

theorem sample_switchCommands (r : Registers) (calls : List (String × Bool)) :
    (r.performAll net (switchCommands calls)).sample = r.sample := by
  induction calls generalizing r with
  | nil => rfl
  | cons call calls ih => exact (ih _).trans (r.sample_setSwitch call.1 call.2)

theorem level_switchCommands (h : net.WellFormed) (hdev : net.devices[i]? = some dev)
    {calls : List (String × Bool)}
    (hother : ∀ initial, dev.component = .switch initial → ∀ call ∈ calls, dev.name ≠ call.1) :
    (r.performAll net (switchCommands calls)).level i = r.level i := by
  induction calls generalizing r with
  | nil => rfl
  | cons call calls ih =>
    refine (ih fun initial hswitch c hc => ?_).trans ?_
    · exact hother initial hswitch c (List.mem_cons_of_mem _ hc)
    · exact level_setSwitch h hdev
        (fun initial hswitch => hother initial hswitch call List.mem_cons_self) call.2

end Registers

/-! ## Runs under a schedule -/

namespace Run

variable {config : Config} {r : Run net} {regs : Registers}

/-- **A loop-free run** follows the machine through a schedule, and shows after every cycle what the
machine shows. -/
theorem follows_cycles (hl : net.LoopFree) (h : net.WellFormed)
    (hbudget : net.gateCount < config.maxPasses net.size) (calls : Schedule) (n : Nat) :
    ((start net config).1.cycles calls n).Follows config ((Registers.cold net).cycles net calls n) ∧
      ((start net config).1.cycles calls n).signals.Shows net
        (((Registers.cold net).cycles net calls n).visible net) := by
  induction n with
  | zero => exact follows_coldStart hl h hbudget rfl
  | succ n ih =>
    exact (ih.1.performAll hl h hbudget (switchCommands (calls n))).advance hl h hbudget

theorem Follows.clkSample_eq (hr : r.Follows config regs) {i : Nat} {dev : Device}
    (hdev : net.devices[i]? = some dev) (hcomp : dev.component = .dtype) :
    r.clkSample i = regs.sample i := by
  have hmemory := hr.tracks.memory i dev hdev
  rw [hcomp] at hmemory
  rw [clkSample, hmemory]
  rfl

theorem inputAt_of_driver? {dev : Device} {pin : FlipFlop.Input} {o : Nat}
    (hdriver : dev.driver? pin.index = some o) (v : Nat → Bool) : dev.inputAt v pin = v o := by
  rw [Device.inputAt, hdriver]
  rfl

theorem lt_of_driver? (h : net.WellFormed) {i k o : Nat} {dev : Device}
    (hdev : net.devices[i]? = some dev) (hdriver : dev.driver? k = some o) : o < net.outputCount :=
  h.driver_lt dev (List.mem_of_getElem? hdev) o (List.mem_of_getElem? hdriver)

/-- At the cold start a flip-flop sees its CLK as it is after the settling. -/
theorem clkSample_start (hl : net.LoopFree) (h : net.WellFormed)
    (hbudget : net.gateCount < config.maxPasses net.size) {i clk : Nat} {dev : Device}
    (hdev : net.devices[i]? = some dev) (hcomp : dev.component = .dtype)
    (hclk : dev.driver? FlipFlop.Input.clk.index = some clk) :
    (start net config).1.clkSample i = (start net config).1.signals.get clk := by
  obtain ⟨hfollows, hshows⟩ : (start net config).1.Follows config (.cold net) ∧
      (start net config).1.signals.Shows net ((Registers.cold net).visible net) :=
    follows_coldStart hl h hbudget rfl
  have hsample : (Registers.cold net).sample i = (Registers.cold net).visible net clk :=
    (Registers.sample_cold hdev hcomp).trans (inputAt_of_driver? hclk _)
  exact (hfollows.clkSample_eq hdev hcomp).trans
    (hsample.trans (hshows clk (lt_of_driver? h hdev hclk)).symm)

/-- In a cycle a flip-flop sees its CLK as it is after the first settling. -/
theorem Follows.clkSample_advance (hr : r.Follows config regs) (hl : net.LoopFree)
    (h : net.WellFormed) (hbudget : net.gateCount < config.maxPasses net.size) {i clk : Nat}
    {dev : Device} (hdev : net.devices[i]? = some dev) (hcomp : dev.component = .dtype)
    (hclk : dev.driver? FlipFlop.Input.clk.index = some clk) {budget passes : Nat} {p : Propagation}
    (hsettle : Propagation.settle net.devices budget 1
      ⟨(r.state.tickClocks net.devices).signals, #[]⟩ = (some passes, p)) :
    r.advance.run.clkSample i = p.signals.get clk := by
  have hshows := ((hr.tracks.tickClocks h).settle hl h hsettle).2
  rw [(hr.advance hl h hbudget).1.clkSample_eq hdev hcomp, Registers.sample_cycle hdev hcomp,
    inputAt_of_driver? hclk, hshows clk (lt_of_driver? h hdev hclk)]

end Run

end SyncCircuit

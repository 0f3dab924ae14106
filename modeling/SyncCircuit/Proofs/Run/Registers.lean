import SyncCircuit.Proofs.Network.Equations
import SyncCircuit.Proofs.Run.Cycle
import SyncCircuit.Run.Command

/-!
# The synchronous reference machine

What a loop-free circuit does, without passes, marks or buffers. The machine keeps registers only:
what each source stores. All outputs are the evaluation of the sources. In a cycle the clocks tick,
all outputs are evaluated, the flip-flops whose CLK rose store a new value, all of them from this
one evaluation, and every flip-flop samples its CLK there.

## Main definitions

* `Registers` — the state of the machine.
* `Registers.visible` — the values of all outputs.
* `Registers.cold`, `Registers.cycle`, `Registers.setSwitch` — what it does.
-/
namespace SyncCircuit

/-- The state of the machine, by the indices of devices. -/
structure Registers where
  /-- The state of a switch, the phase of a clock, or the stored value of a flip-flop. -/
  level : Nat → Bool
  /-- The cycles a clock has counted since its phase last changed. -/
  ticks : Nat → UInt32
  /-- The value of CLK when a flip-flop last looked. -/
  sample : Nat → Bool

/-- The value at an input of a flip-flop, given the values of all outputs. -/
def Device.inputAt (d : Device) (v : Nat → Bool) (pin : FlipFlop.Input) : Bool :=
  (d.driver? pin.index).elim false v

namespace Network

/-- The component of the device with an index. -/
def component? (net : Network) (i : Nat) : Option Component := net.devices[i]?.map (·.component)

/-- The device with an index, if it is a flip-flop. -/
def flipFlop? (net : Network) (i : Nat) : Option Device :=
  net.devices[i]?.filter (·.component == .dtype)

end Network

namespace Registers

variable (net : Network)

/-- The values the registers give to the sources: a flip-flop shows its value and the complement. -/
def source (r : Registers) (o : Nat) : Bool :=
  net.outputs[o]?.elim false fun pin => FlipFlop.outputAt (r.level pin.device) pin.position

/-- The values of all outputs. -/
def visible (r : Registers) : Nat → Bool := net.eval (r.source net)

/-- All clocks tick. -/
def tick (r : Registers) : Registers :=
  { r with
    level := fun i =>
      match net.component? i with
      | some (.clock halfPeriod) => (Clock.tick (r.ticks i) halfPeriod).2 ^^ r.level i
      | _ => r.level i
    ticks := fun i =>
      match net.component? i with
      | some (.clock halfPeriod) => (Clock.tick (r.ticks i) halfPeriod).1
      | _ => r.ticks i }

/-- All flip-flops look at their CLK. -/
def sampleClks (r : Registers) (v : Nat → Bool) : Registers :=
  { r with
    sample := fun i =>
      match net.flipFlop? i with
      | some d => d.inputAt v .clk
      | none => r.sample i }

/-- All flip-flops whose CLK rose store a new value, and all look at their CLK. -/
def clockFlipFlops (r : Registers) (v : Nat → Bool) : Registers :=
  { r.sampleClks net v with
    level := fun i =>
      match net.flipFlop? i with
      | some d =>
        if d.inputAt v .clk && !r.sample i then
          FlipFlop.next (d.inputAt v .data) (d.inputAt v .set) (d.inputAt v .clear)
        else
          r.level i
      | none => r.level i }

/-- One cycle: flip-flops read the outputs as they are after the ticks. -/
def cycle (r : Registers) : Registers :=
  (r.tick net).clockFlipFlops net ((r.tick net).visible net)

/-- The registers before flip-flops have looked at their CLK. -/
def powerUp : Registers where
  level i := (net.component? i).elim false (·.coldLevel)
  ticks _ := 0
  sample _ := false

/-- The registers before the first cycle. -/
def cold : Registers := (powerUp net).sampleClks net ((powerUp net).visible net)

/-- Sets a switch, if there is one with this name. -/
def setSwitch (r : Registers) (name : String) (value : Bool) : Registers :=
  match net.index? name with
  | some i =>
    match net.component? i with
    | some (.switch _) => { r with level := Function.update r.level i value }
    | _ => r
  | none => r

/-- What a request to a run does to the registers. -/
def perform (r : Registers) : Command → Registers
  | .advance => r.cycle net
  | .advanceBy n => (cycle net)^[n] r
  | .reset => cold net
  | .setSwitch name value => r.setSwitch net name value
  | .addMonitor _ | .removeMonitor _ => r

/-- The registers after a list of requests. -/
def performAll (r : Registers) (cs : List Command) : Registers := cs.foldl (perform net) r

end Registers

/-! ## Reading the registers -/

section Reading

variable {net : Network} {r : Registers} {i k : Nat} {dev : Device}

theorem Registers.source_output (h : net.WellFormed) (hdev : net.devices[i]? = some dev)
    (hk : k < dev.component.outputCount) :
    r.source net (dev.firstOutput + k) = FlipFlop.outputAt (r.level i) k := by
  rw [source, h.getElem?_outputs hdev hk]
  rfl

theorem Network.component?_eq (hdev : net.devices[i]? = some dev) :
    net.component? i = some dev.component := by
  rw [component?, hdev]
  rfl

theorem Network.flipFlop?_eq_some (hdev : net.devices[i]? = some dev)
    (hcomp : dev.component = .dtype) : net.flipFlop? i = some dev := by
  rw [flipFlop?, hdev, Option.filter_some, if_pos (by simp [hcomp])]

theorem Network.flipFlop?_eq_none (hdev : net.devices[i]? = some dev)
    (hcomp : dev.component ≠ .dtype) : net.flipFlop? i = none := by
  rw [flipFlop?, hdev, Option.filter_some, if_neg (by simp [hcomp])]

/-- Only clocks tick. -/
theorem Registers.level_tick (hdev : net.devices[i]? = some dev)
    (hclock : ∀ halfPeriod, dev.component ≠ .clock halfPeriod) :
    (r.tick net).level i = r.level i := by
  rw [tick]
  dsimp only
  rw [Network.component?_eq hdev]
  split
  · rename_i halfPeriod heq
    exact absurd (Option.some.inj heq) (hclock halfPeriod)
  · rfl

/-- Clocking flip-flops changes what no other device stores. -/
theorem Registers.level_clockFlipFlops_of_ne (hdev : net.devices[i]? = some dev)
    (hcomp : dev.component ≠ .dtype) (v : Nat → Bool) :
    (r.clockFlipFlops net v).level i = r.level i := by
  rw [clockFlipFlops]
  dsimp only
  rw [Network.flipFlop?_eq_none hdev hcomp]

theorem Device.input_eq_inputAt (d : Device) (s : Signals) (pin : FlipFlop.Input) :
    d.input s pin = d.inputAt s.get pin := rfl

theorem Device.inputAt_congr {d : Device} {v w : Nat → Bool} (h : ∀ o ∈ d.drivers, v o = w o)
    (pin : FlipFlop.Input) : d.inputAt v pin = d.inputAt w pin := by
  rw [inputAt, inputAt]
  cases hdriver : d.driver? pin.index with
  | none => rfl
  | some o => exact h o (List.mem_of_getElem? hdriver)

end Reading

end SyncCircuit

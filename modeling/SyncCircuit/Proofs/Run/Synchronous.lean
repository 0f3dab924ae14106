import SyncCircuit.Proofs.Run.Schedule

/-!
# Edges of synchronous clocks

The CLK of a flip-flop is synchronous if no flip-flop output drives it, neither directly nor through
gates. Such a CLK does not move when flip-flops store new values, so what a flip-flop sees of it in
the middle of a cycle is what is recorded at the end. The recorded values of two cycles in a row
then tell whether the flip-flop has stored a value in the second one.

## Main definitions

* `Network.Reached` — the outputs that depend on flip-flops.
* `Network.mix` — flip-flop outputs from one valuation, all others from another.
-/
namespace SyncCircuit

namespace Network

variable {net : Network} {v w src src' : Nat → Bool}

/-! ## What flip-flops reach -/

/-- The number is that of an output of a flip-flop. -/
def IsFlipFlopOutput (net : Network) (o : Nat) : Prop :=
  ∃ dev ∈ net.devices, dev.component = .dtype ∧ dev.Owns o

/-- An output of a flip-flop, or of a gate that such an output drives, directly or through other
gates. -/
inductive Reached (net : Network) : Nat → Prop
  | flipFlop {o : Nat} (h : net.IsFlipFlopOutput o) : Reached net o
  | gate {dev : Device} {o : Nat} (hmem : dev ∈ net.devices) (hgate : dev.component.isGate)
      (hdrives : o ∈ dev.drivers) (h : Reached net o) : Reached net dev.firstOutput

/-- What flip-flops reach is within every set that has their outputs and that gates do not leave. -/
theorem not_reached_of_closed {P : Nat → Prop} (hout : ∀ o, P o → ¬ net.IsFlipFlopOutput o)
    (hclosed : ∀ dev ∈ net.devices, dev.component.isGate → P dev.firstOutput →
      ∀ o ∈ dev.drivers, P o) {o : Nat} (ho : P o) : ¬ net.Reached o := by
  intro h
  induction h with
  | flipFlop h => exact hout _ ho h
  | gate hmem hgate hdrives _ ih => exact ih (hclosed _ hmem hgate ho _ hdrives)

/-- **Beyond the reach of flip-flops** their outputs do not matter. -/
theorem Solves.agree_of_not_reached (hv : net.Solves src v) (hw : net.Solves src' w)
    (hl : net.LoopFree) (h : net.WellFormed)
    (hsrc : ∀ o, net.IsSource o → ¬ net.IsFlipFlopOutput o → src o = src' o) {o : Nat}
    (ho : o < net.outputCount) (hoff : ¬ net.Reached o) : v o = w o :=
  hv.agree (P := fun o => ¬ net.Reached o) hw hl h
    (fun _ hmem hgate hout _ hdrives hin => hout (.gate hmem hgate hdrives hin))
    (fun o hsource hout => hsrc o hsource fun hflip => hout (.flipFlop hflip)) o ho hoff

/-! ## Flip-flops apart -/

/-- The values that flip-flop outputs have in one valuation and all other outputs in another. -/
def mix (net : Network) (old new : Nat → Bool) (o : Nat) : Bool :=
  match net.outputs[o]?.bind fun pin => net.component? pin.device with
  | some .dtype => old o
  | _ => new o

section Mix

variable {old new : Nat → Bool} {i k : Nat} {dev : Device}

theorem WellFormed.mix_of_dtype (h : net.WellFormed) (hdev : net.devices[i]? = some dev)
    (hk : k < dev.component.outputCount) (hcomp : dev.component = .dtype) :
    net.mix old new (dev.firstOutput + k) = old (dev.firstOutput + k) := by
  rw [mix, h.getElem?_outputs hdev hk, Option.bind_some, component?_eq hdev, hcomp]

theorem WellFormed.mix_of_ne_dtype (h : net.WellFormed) (hdev : net.devices[i]? = some dev)
    (hk : k < dev.component.outputCount) (hcomp : dev.component ≠ .dtype) :
    net.mix old new (dev.firstOutput + k) = new (dev.firstOutput + k) := by
  rw [mix, h.getElem?_outputs hdev hk, Option.bind_some, component?_eq hdev]
  split
  · rename_i heq
    exact absurd (Option.some.inj heq) hcomp
  · rfl

end Mix

end Network

variable {net : Network}

/-! ## Registers -/

namespace Registers

variable {r r' : Registers} {i clk : Nat} {dev : Device}

/-- **The stores of a cycle** move no output beyond the reach of flip-flops. -/
theorem visible_clockFlipFlops (hl : net.LoopFree) (h : net.WellFormed) (v : Nat → Bool) {o : Nat}
    (ho : o < net.outputCount) (hoff : ¬ net.Reached o) :
    (r.clockFlipFlops net v).visible net o = r.visible net o := by
  refine (hl.eval_solves h _).agree_of_not_reached (hl.eval_solves h _) hl h ?_ ho hoff
  rintro _ ⟨j, k, dev, hdev, -, hk, rfl⟩ hflip
  have hcomp : dev.component ≠ .dtype := fun hcomp =>
    hflip ⟨dev, List.mem_of_getElem? hdev, hcomp, k, hk, rfl⟩
  rw [source_output h hdev hk, source_output h hdev hk, level_clockFlipFlops_of_ne hdev hcomp]

/-- **The sample of a synchronous CLK** is the value it has when the cycle is over. -/
theorem sample_cycles (hl : net.LoopFree) (h : net.WellFormed) (hdev : net.devices[i]? = some dev)
    (hcomp : dev.component = .dtype) (hclk : dev.driver? FlipFlop.Input.clk.index = some clk)
    (hsync : ¬ net.Reached clk) (calls : Schedule) (n : Nat) :
    ((cold net).cycles net calls n).sample i =
      ((cold net).cycles net calls n).visible net clk := by
  have hinput := Run.inputAt_of_driver? hclk
  cases n with
  | zero => exact (sample_cold hdev hcomp).trans (hinput _)
  | succ n =>
    rw [cycles, sample_cycle hdev hcomp, hinput, cycle,
      visible_clockFlipFlops hl h _ (Run.lt_of_driver? h hdev hclk) hsync]

/-- The sources of a cycle before its stores are the flip-flop outputs from before the cycle and the
switches and clocks from after it. -/
theorem source_tick_eq_mix (hl : net.LoopFree) (h : net.WellFormed) (calls : Schedule) (n : Nat)
    {o : Nat} (ho : net.IsSource o) :
    net.mix (((cold net).cycles net calls n).visible net)
        (((cold net).cycles net calls (n + 1)).visible net) o =
      ((((cold net).cycles net calls n).performAll net (switchCommands (calls n))).tick net).source
        net o := by
  obtain ⟨j, k, dev, hdev, hgate, hk, rfl⟩ := ho
  rw [source_output h hdev hk]
  by_cases hcomp : dev.component = .dtype
  · rw [h.mix_of_dtype hdev hk hcomp, visible_source hl h hdev hgate hk,
      level_tick hdev (by simp [hcomp]), level_switchCommands h hdev (by simp [hcomp])]
  · rw [h.mix_of_ne_dtype hdev hk hcomp, visible_source hl h hdev hgate hk, cycles, cycle,
      level_clockFlipFlops_of_ne hdev hcomp]

end Registers

/-! ## Runs -/

namespace Run

theorem mix_congr {v w v' w' : Nat → Bool} (h : net.WellFormed)
    (hold : ∀ o < net.outputCount, v o = v' o) (hnew : ∀ o < net.outputCount, w o = w' o) {o : Nat}
    (ho : net.IsSource o) : net.mix v w o = net.mix v' w' o := by
  have hlt := h.lt_of_isSource ho
  rw [Network.mix, Network.mix]
  split
  · exact hold o hlt
  · exact hnew o hlt

/-- **A synchronous CLK stores on its recorded edges**, in a network without feedback and under every
schedule of switches. A flip-flop stores in a cycle exactly if the output that drives its CLK was
recorded low in the cycle before and is recorded high in this one. What it stores then is given by
its inputs for the switches and clocks of this cycle and the flip-flop outputs of the cycle before;
otherwise its Q stays, whatever the other inputs do. -/
theorem build_stores_synchronous_edges (d : Description) (net : Network)
    (hb : d.build {} = .ok net) (config : Config) (calls : Schedule) (i clk : Nat) (dev : Device)
    (hdev : net.devices[i]? = some dev) (hcomp : dev.component = .dtype)
    (hclk : dev.driver? FlipFlop.Input.clk.index = some clk) (hsync : ¬ net.Reached clk) :
    let r := (start net config).1.cycles calls
    ∀ n, (r n).failure = none ∧ (r (n + 1)).failure = none ∧
      let src := net.mix (r n).signals.get (r (n + 1)).signals.get
      (∃ v, net.Solves src v) ∧ ∀ v, net.Solves src v →
        (r (n + 1)).signals.get dev.firstOutput =
          if (r n).signals.get clk = false ∧ (r (n + 1)).signals.get clk = true then
            FlipFlop.next (dev.inputAt v .data) (dev.inputAt v .set) (dev.inputAt v .clear)
          else (r n).signals.get dev.firstOutput := by
  have h := Description.build_wellFormed hb
  have hl := Description.build_loopFree hb rfl
  have hbudget : net.gateCount < config.maxPasses net.size := by
    refine hl.gateCount_lt_maxPasses h fun hempty => ?_
    exact absurd hempty.1 (List.length_pos_of_mem (List.mem_of_getElem? hdev)).ne'
  have hruns := follows_cycles hl h hbudget calls
  have hlt := lt_of_driver? h hdev hclk
  have hk := dev.component.outputCount_pos
  intro r n
  refine ⟨(hruns n).1.intact.failure, (hruns (n + 1)).1.intact.failure, ?_⟩
  let regs := (Registers.cold net).cycles net calls
  let ready := (regs n).performAll net (switchCommands (calls n))
  have hsrc : ∀ o, net.IsSource o →
      net.mix (r n).signals.get (r (n + 1)).signals.get o = (ready.tick net).source net o := by
    intro o ho
    rw [mix_congr h (hruns n).2 (hruns (n + 1)).2 ho]
    exact Registers.source_tick_eq_mix hl h calls n ho
  refine ⟨⟨_, hl.eval_solves h _⟩, fun v hv => ?_⟩
  have hinput : ∀ pin, dev.inputAt v pin = dev.inputAt ((ready.tick net).visible net) pin := by
    intro pin
    refine Device.inputAt_congr (fun o ho => ?_) pin
    exact (hv.congr hsrc).eq_eval hl h o (h.driver_lt dev (List.mem_of_getElem? hdev) o ho)
  have hq : ∀ m, (r m).signals.get dev.firstOutput = (regs m).level i := fun m =>
    ((hruns m).2 _ (h.output_lt hdev hk)).trans
      (Registers.visible_source hl h hdev (by rw [hcomp]; rfl) hk)
  have hsample : ∀ m, (r m).signals.get clk = (regs m).sample i := fun m =>
    ((hruns m).2 clk hlt).trans (Registers.sample_cycles hl h hdev hcomp hclk hsync calls m).symm
  have hstored : (regs (n + 1)).level i =
      if dev.inputAt ((ready.tick net).visible net) .clk && !ready.sample i then
        FlipFlop.next (dev.inputAt v .data) (dev.inputAt v .set) (dev.inputAt v .clear)
      else ready.level i := by
    rw [hinput, hinput, hinput]
    exact Registers.level_cycle hdev hcomp
  have hseen : (regs (n + 1)).sample i = dev.inputAt ((ready.tick net).visible net) .clk :=
    Registers.sample_cycle hdev hcomp
  rw [hq, hq, hsample, hsample, hstored, ← hseen, Registers.sample_switchCommands,
    Registers.level_switchCommands h hdev (by simp [hcomp])]
  cases (regs (n + 1)).sample i <;> cases (regs n).sample i <;> rfl

/-- A flip-flop that stores the complement of its Q whenever the gated clock rises. -/
def gatedToggle : Description where
  devices := [⟨"C", .clock, some 1⟩, ⟨"E", .switch, some 1⟩, ⟨"L", .switch, some 0⟩,
    ⟨"G", .gate .and, some 2⟩, ⟨"F", .dtype, none⟩, ⟨"N", .gate .not, none⟩]
  connections := [⟨⟨"C", none⟩, ⟨"G", "I1"⟩⟩, ⟨⟨"E", none⟩, ⟨"G", "I2"⟩⟩,
    ⟨⟨"G", none⟩, ⟨"F", "CLK"⟩⟩, ⟨⟨"N", none⟩, ⟨"F", "DATA"⟩⟩,
    ⟨⟨"L", none⟩, ⟨"F", "SET"⟩⟩, ⟨⟨"L", none⟩, ⟨"F", "CLEAR"⟩⟩,
    ⟨⟨"F", some "Q"⟩, ⟨"N", "I1"⟩⟩]

theorem gatedToggle_stores_synchronous_edges :
    gatedToggle.build {} = .ok gatedToggle.network ∧
    let calls : Schedule := fun n => if n = 2 then [("E", false)] else []
    let r := (start gatedToggle.network {}).1.cycles calls
    ¬ gatedToggle.network.Reached 3 ∧
    -- The gated clock rises in the first cycle and is held low in the third.
    (r 0).signals.get 3 = false ∧ (r 1).signals.get 3 = true ∧ (r 1).signals.get 4 = true ∧
    (r 3).signals.get 3 = false ∧ (r 3).signals.get 4 = (r 2).signals.get 4 := by
  refine ⟨rfl, ?_⟩
  dsimp only
  have hsync : ¬ gatedToggle.network.Reached 3 := by
    refine Network.not_reached_of_closed (P := fun o => o = 3 ∨ o = 0 ∨ o = 1) ?_ ?_ (.inl rfl)
    · rintro o ho ⟨dev, hmem, hcomp, k, -, rfl⟩
      have hfirst : ∀ dev ∈ gatedToggle.network.devices, dev.component = .dtype →
          dev.firstOutput = 4 := by decide
      have := hfirst dev hmem hcomp
      omega
    · decide
  have hstores := build_stores_synchronous_edges gatedToggle gatedToggle.network rfl {}
    (fun n => if n = 2 then [("E", false)] else []) 4 3 _ rfl rfl rfl hsync
  have hfirst : ((start gatedToggle.network {}).1.cycles
      (fun n => if n = 2 then [("E", false)] else []) 1).signals.get 4 = true := by
    obtain ⟨-, -, ⟨v, hv⟩, hall⟩ := hstores 0
    refine (hall v hv).trans ?_
    rw [if_pos (by decide +kernel)]
    have hq : v 4 = false := (hv.sources 4 ⟨4, 0, _, rfl, rfl, by decide, rfl⟩).trans
      (by decide +kernel)
    have hset : v 2 = false := (hv.sources 2 ⟨2, 0, _, rfl, rfl, by decide, rfl⟩).trans
      (by decide +kernel)
    have hdata : v 6 = true := by
      rw [hv.gates ⟨"N", .gate .not, [4], 6, [4]⟩ (by decide) _ rfl]
      simp [hq, Gate.evaluate, Gate.accumulate, Gate.combine, Gate.isNegated, Gate.neutral]
    show FlipFlop.next (v 6) (v 2) (v 2) = true
    rw [hdata, hset]
    rfl
  refine ⟨hsync, by decide +kernel, by decide +kernel, hfirst, by decide +kernel, ?_⟩
  obtain ⟨-, -, ⟨v, hv⟩, hall⟩ := hstores 2
  exact (hall v hv).trans (if_neg (by decide +kernel))

end Run

end SyncCircuit

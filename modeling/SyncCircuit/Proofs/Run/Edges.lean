import SyncCircuit.Proofs.Run.Schedule

/-!
# Rising edges that are stored

A flip-flop looks at its CLK once in a cycle, between the two settlings. What the commits of the
cycle do to CLK after that is recorded, but it is seen only if it lasts until the next look: the
next ticks may take it back before. So a rise from one recorded value to the next can be lost, and
it is not if both levels last until they are looked at.

The flip-flop considered here has a high SET all the time, so that every rise it sees leaves its Q
high from then on.

## Main definitions

* `Network.SetHeld` — the SET of a flip-flop is high under a schedule.
* `Run.KeepsEdges` — no rise from one recorded value of CLK to the next is lost.
-/
namespace SyncCircuit

variable {net : Network}

/-! ## Rises in a sequence -/

section Rises

variable {q s : Nat → Bool}

/-- Between a low value and a later high one there is a rise. -/
theorem exists_rise {a b : Nat} (hab : a ≤ b) (ha : s a = false) (hb : s b = true) :
    ∃ n < b, s n = false ∧ s (n + 1) = true := by
  induction b, hab using Nat.le_induction with
  | base => exact absurd (ha.symm.trans hb) Bool.false_ne_true
  | succ b _ ih =>
    cases hlast : s b with
    | false => exact ⟨b, Nat.lt_succ_self b, hlast, hb⟩
    | true =>
      obtain ⟨n, hn, hrise⟩ := ih hlast
      exact ⟨n, Nat.lt_succ_of_lt hn, hrise⟩

/-- What is set by every rise, and by nothing else, tells whether there has been one. -/
theorem set_iff_exists_rise (hzero : q 0 = false)
    (hsucc : ∀ n, q (n + 1) = (q n || (s (n + 1) && !s n))) (m : Nat) :
    q m = true ↔ ∃ n < m, s n = false ∧ s (n + 1) = true := by
  induction m with
  | zero => simp [hzero]
  | succ m ih =>
    rw [hsucc, Bool.or_eq_true, ih, Bool.and_eq_true, Bool.not_eq_true']
    constructor
    · rintro (⟨n, hn, hrise⟩ | ⟨hhigh, hlow⟩)
      · exact ⟨n, Nat.lt_succ_of_lt hn, hrise⟩
      · exact ⟨m, Nat.lt_succ_self m, hlow, hhigh⟩
    · rintro ⟨n, hn, hlow, hhigh⟩
      rcases Nat.lt_succ_iff_lt_or_eq.mp hn with hlt | rfl
      · exact .inl ⟨n, hlt, hlow, hhigh⟩
      · exact .inr ⟨hhigh, hlow⟩

end Rises

/-! ## A flip-flop with a high SET -/

/-- A flip-flop whose SET is driven by a switch that is high from the start and that the schedule
does not set, with the number of the output that drives its CLK. -/
structure Network.SetHeld (net : Network) (calls : Schedule) (i : Nat) (dev : Device) (clk : Nat) :
    Prop where
  device : net.devices[i]? = some dev
  component : dev.component = .dtype
  clk : dev.driver? FlipFlop.Input.clk.index = some clk
  set : ∃ (j : Nat) (sw : Device), net.devices[j]? = some sw ∧ sw.component = .switch true ∧
    dev.driver? FlipFlop.Input.set.index = some sw.firstOutput ∧
    ∀ n, ∀ call ∈ calls n, sw.name ≠ call.1

namespace Registers

variable {r : Registers} {calls : Schedule} {i clk : Nat} {dev : Device}

/-- With a high SET, every rise of CLK stores a high value. -/
theorem level_cycle_of_set (hdev : net.devices[i]? = some dev) (hcomp : dev.component = .dtype)
    (hset : dev.inputAt ((r.tick net).visible net) .set = true) :
    (r.cycle net).level i = (r.level i || ((r.cycle net).sample i && !r.sample i)) := by
  rw [level_cycle hdev hcomp, sample_cycle hdev hcomp]
  dsimp only
  rw [hset]
  cases dev.inputAt ((r.tick net).visible net) .clk && !r.sample i with
  | true => rw [if_pos rfl, Bool.or_true]; rfl
  | false => rw [if_neg Bool.false_ne_true, Bool.or_false]

/-- A switch that the schedule does not set keeps its first state. -/
theorem level_cycles_of_switch (h : net.WellFormed) {j : Nat} {sw : Device} {initial : Bool}
    (hdev : net.devices[j]? = some sw) (hcomp : sw.component = .switch initial)
    (hother : ∀ n, ∀ call ∈ calls n, sw.name ≠ call.1) (n : Nat) :
    ((cold net).cycles net calls n).level j = initial := by
  induction n with
  | zero =>
    show (net.component? j).elim false (·.coldLevel) = initial
    rw [Network.component?_eq hdev, hcomp]
    rfl
  | succ n ih =>
    rw [cycles, level_cycle_of_switch hdev hcomp,
      level_switchCommands h hdev fun _ _ => hother n, ih]

/-- The flip-flop starts low. -/
theorem level_cold_of_dtype (hdev : net.devices[i]? = some dev) (hcomp : dev.component = .dtype) :
    (cold net).level i = false := by
  show (net.component? i).elim false (·.coldLevel) = false
  rw [Network.component?_eq hdev, hcomp]
  rfl

/-- **One cycle of the schedule** stores a high value if CLK has risen since the last look. -/
theorem level_cycles_succ (hl : net.LoopFree) (h : net.WellFormed)
    (hheld : net.SetHeld calls i dev clk) (n : Nat) :
    ((cold net).cycles net calls (n + 1)).level i =
      (((cold net).cycles net calls n).level i ||
        (((cold net).cycles net calls (n + 1)).sample i &&
          !((cold net).cycles net calls n).sample i)) := by
  obtain ⟨j, sw, hsw, hswitch, hdriver, hother⟩ := hheld.set
  have hdev := hheld.device
  have hcomp := hheld.component
  have hset : dev.inputAt
      (((((cold net).cycles net calls n).performAll net (switchCommands (calls n))).tick
        net).visible net) .set = true := by
    have hshown := visible_source
      (r := (((cold net).cycles net calls n).performAll net (switchCommands (calls n))).tick net)
      hl h hsw (by rw [hswitch]; rfl) sw.component.outputCount_pos
    rw [level_tick hsw (by simp [hswitch]), level_switchCommands h hsw fun _ _ => hother n,
      level_cycles_of_switch h hsw hswitch hother n] at hshown
    rw [Device.inputAt, hdriver]
    exact hshown
  rw [cycles, level_cycle_of_set hdev hcomp hset, sample_switchCommands,
    level_switchCommands h hdev (by simp [hcomp])]

end Registers

/-! ## Runs -/

namespace Run

variable {config : Config} {calls : Schedule} {i clk : Nat} {dev : Device}

/-- Q is high exactly if CLK has been seen low and then high. -/
theorem stored_iff (hl : net.LoopFree) (h : net.WellFormed)
    (hbudget : net.gateCount < config.maxPasses net.size) (hheld : net.SetHeld calls i dev clk)
    (m : Nat) :
    ((start net config).1.cycles calls m).signals.get dev.firstOutput = true ↔
      ∃ n < m, ((start net config).1.cycles calls n).clkSample i = false ∧
        ((start net config).1.cycles calls (n + 1)).clkSample i = true := by
  have hdev := hheld.device
  have hcomp := hheld.component
  have hruns := follows_cycles hl h hbudget calls
  have hlevel : ((start net config).1.cycles calls m).signals.get dev.firstOutput =
      ((Registers.cold net).cycles net calls m).level i := by
    have hk := dev.component.outputCount_pos
    exact ((hruns m).2 _ (h.output_lt hdev hk)).trans
      (Registers.visible_source hl h hdev (by rw [hcomp]; rfl) hk)
  have hsample := fun n => (hruns n).1.clkSample_eq hdev hcomp
  simp only [hlevel, hsample]
  exact set_iff_exists_rise (q := fun n => ((Registers.cold net).cycles net calls n).level i)
    (s := fun n => ((Registers.cold net).cycles net calls n).sample i)
    (Registers.level_cold_of_dtype hdev hcomp) (Registers.level_cycles_succ hl h hheld) m

/-- **A rising edge is stored if both of its levels are looked at**, in a loop-free network, for a
flip-flop whose SET is held high. It looks at its CLK at the cold start and then once in every
cycle, after the first settling. Its Q is high exactly if it has seen CLK low and high by turns. So
a rise from one recorded value to the next is stored at the latest in the cycle after it, if the low
level is the one last looked at, or CLK was low at the start, and the high level is the one looked
at in its own cycle or in the next. -/
theorem build_stores_sampled_edges (d : Description) (net : Network) (hb : d.build {} = .ok net)
    (config : Config) (calls : Schedule) (i clk : Nat) (dev : Device)
    (hheld : net.SetHeld calls i dev clk) :
    let r := (start net config).1.cycles calls
    (∀ n, (r n).failure = none) ∧
    (r 0).clkSample i = (r 0).signals.get clk ∧
    (∀ n, let ready := ((r n).performAll (switchCommands (calls n))).state
      ∃ passes p,
        Propagation.settle net.devices (net.size + config.margin) 1
          ⟨(ready.tickClocks net.devices).signals, #[]⟩ = (some passes, p) ∧
        (r (n + 1)).clkSample i = p.signals.get clk) ∧
    (∀ m, (r m).signals.get dev.firstOutput = true ↔
      ∃ n < m, (r n).clkSample i = false ∧ (r (n + 1)).clkSample i = true) ∧
    ∀ n, (r n).signals.get clk = false → (r (n + 1)).signals.get clk = true →
      ((r 0).signals.get clk = false ∨ (r n).clkSample i = (r n).signals.get clk) →
      ((r (n + 1)).clkSample i = (r (n + 1)).signals.get clk ∨
        (r (n + 2)).clkSample i = (r (n + 1)).signals.get clk) →
      (r (n + 2)).signals.get dev.firstOutput = true := by
  have h := Description.build_wellFormed hb
  have hl := Description.build_loopFree hb rfl
  have hdev := hheld.device
  have hcomp := hheld.component
  have hbudget : net.gateCount < config.maxPasses net.size := by
    refine hl.gateCount_lt_maxPasses h fun hempty => ?_
    exact absurd hempty.1 (List.length_pos_of_mem (List.mem_of_getElem? hdev)).ne'
  dsimp only
  have hruns := follows_cycles hl h hbudget calls
  have hstart : ((start net config).1.cycles calls 0).clkSample i =
      ((start net config).1.cycles calls 0).signals.get clk :=
    clkSample_start hl h hbudget hdev hcomp hheld.clk
  have hstored := stored_iff hl h hbudget hheld
  refine ⟨fun n => (hruns n).1.intact.failure, hstart, ?_, hstored, ?_⟩
  · intro n
    have hready := (hruns n).1.performAll hl h hbudget (switchCommands (calls n))
    obtain ⟨passes, p, hsettle, -⟩ := hready.intact.settlesWithin hl h hbudget
    rw [maxPasses, hready.intact.config_eq] at hsettle
    exact ⟨passes, p, hsettle, hready.clkSample_advance hl h hbudget hdev hcomp hheld.clk hsettle⟩
  · intro n hlow hhigh hlowSeen hhighSeen
    let s := fun n => ((start net config).1.cycles calls n).clkSample i
    obtain ⟨a, ha, hlowSample⟩ : ∃ a ≤ n, s a = false := by
      rcases hlowSeen with hzero | hlast
      · exact ⟨0, Nat.zero_le n, hstart.trans hzero⟩
      · exact ⟨n, le_rfl, hlast.trans hlow⟩
    rw [hstored]
    rcases hhighSeen with hnow | hnext
    · obtain ⟨m, hm, hrise⟩ :=
        exists_rise (s := s) (ha.trans (Nat.le_succ n)) hlowSample (hnow.trans hhigh)
      exact ⟨m, Nat.lt_succ_of_lt hm, hrise⟩
    · exact exists_rise (s := s) (ha.trans (Nat.le_add_right n 2)) hlowSample (hnext.trans hhigh)

/-! ## Edges that are lost -/

/-- No rise from one recorded value of the driver of CLK to the next is lost: Q is high one cycle
later at the latest. -/
def KeepsEdges (r : Nat → Run net) (dev : Device) (clk : Nat) : Prop :=
  ∀ n, (r n).signals.get clk = false → (r (n + 1)).signals.get clk = true →
    (r (n + 2)).signals.get dev.firstOutput = true

/-- Two flip-flops whose CLK depends on a third one, `A`. For `F` it is high from the moment `A`
stores a high value until the next tick; for `E` it is low from that moment until the next tick. -/
def fleeting : Description where
  devices := [⟨"C", .clock, some 1⟩, ⟨"D", .clock, some 2⟩, ⟨"H", .switch, some 1⟩,
    ⟨"L", .switch, some 0⟩, ⟨"A", .dtype, none⟩, ⟨"G", .gate .and, some 2⟩,
    ⟨"O", .gate .or, some 2⟩, ⟨"F", .dtype, none⟩, ⟨"E", .dtype, none⟩]
  connections := [⟨⟨"C", none⟩, ⟨"A", "CLK"⟩⟩, ⟨⟨"L", none⟩, ⟨"A", "DATA"⟩⟩,
    ⟨⟨"H", none⟩, ⟨"A", "SET"⟩⟩, ⟨⟨"L", none⟩, ⟨"A", "CLEAR"⟩⟩,
    ⟨⟨"A", some "Q"⟩, ⟨"G", "I1"⟩⟩, ⟨⟨"C", none⟩, ⟨"G", "I2"⟩⟩,
    ⟨⟨"A", some "QBAR"⟩, ⟨"O", "I1"⟩⟩, ⟨⟨"D", none⟩, ⟨"O", "I2"⟩⟩,
    ⟨⟨"G", none⟩, ⟨"F", "CLK"⟩⟩, ⟨⟨"L", none⟩, ⟨"F", "DATA"⟩⟩,
    ⟨⟨"H", none⟩, ⟨"F", "SET"⟩⟩, ⟨⟨"L", none⟩, ⟨"F", "CLEAR"⟩⟩,
    ⟨⟨"O", none⟩, ⟨"E", "CLK"⟩⟩, ⟨⟨"L", none⟩, ⟨"E", "DATA"⟩⟩,
    ⟨⟨"H", none⟩, ⟨"E", "SET"⟩⟩, ⟨⟨"L", none⟩, ⟨"E", "CLEAR"⟩⟩]
  monitors := [⟨"G", none⟩, ⟨"F", some "Q"⟩, ⟨"O", none⟩, ⟨"E", some "Q"⟩]

/-- A high level that is not looked at, and a low one. -/
theorem fleeting_loses_edges :
    fleeting.build {} = .ok fleeting.network ∧
    let calls : Schedule := fun _ => []
    let r := (start fleeting.network {}).1.cycles calls
    let F : Device := ⟨"F", .dtype, [3, 6, 2, 3], 8, []⟩
    let E : Device := ⟨"E", .dtype, [3, 7, 2, 3], 10, []⟩
    (∀ n < 4, (r n).failure = none) ∧
    (fleeting.network.SetHeld calls 7 F 6 ∧ ¬ KeepsEdges r F 6) ∧
    (fleeting.network.SetHeld calls 8 E 7 ∧ ¬ KeepsEdges r E 7) := by
  have hswitch : ∀ n, ∀ call ∈ (fun _ => [] : Schedule) n, "H" ≠ call.1 := fun n call hcall =>
    absurd hcall List.not_mem_nil
  refine ⟨rfl, by decide +kernel, ⟨⟨rfl, rfl, rfl, 2, _, rfl, rfl, rfl, hswitch⟩, fun hkeeps => ?_⟩,
    ⟨rfl, rfl, rfl, 2, _, rfl, rfl, rfl, hswitch⟩, fun hkeeps => ?_⟩
  · have hhigh := hkeeps 0 (by decide +kernel) (by decide +kernel)
    revert hhigh
    decide +kernel
  · have hhigh := hkeeps 1 (by decide +kernel) (by decide +kernel)
    revert hhigh
    decide +kernel

theorem fleeting_stores_sampled_edge :
    fleeting.build {} = .ok fleeting.network ∧
    let calls : Schedule := fun n => if n = 1 then [("L", true)] else []
    let r := (start fleeting.network {}).1.cycles calls
    fleeting.network.SetHeld calls 7 ⟨"F", .dtype, [3, 6, 2, 3], 8, []⟩ 6 ∧
    (r 2).signals.get 6 = false ∧ (r 3).signals.get 6 = true ∧
    (r 3).clkSample 7 = (r 3).signals.get 6 ∧ (r 4).signals.get 8 = true := by
  refine ⟨rfl, ?_⟩
  dsimp only
  have hheld : fleeting.network.SetHeld (fun n => if n = 1 then [("L", true)] else []) 7
      ⟨"F", .dtype, [3, 6, 2, 3], 8, []⟩ 6 := by
    refine ⟨rfl, rfl, rfl, 2, _, rfl, rfl, rfl, fun n call hcall => ?_⟩
    split at hcall
    · rw [List.mem_singleton.mp hcall]
      decide
    · cases hcall
  obtain ⟨-, -, -, -, hstores⟩ :=
    build_stores_sampled_edges fleeting fleeting.network rfl {} _ 7 6 _ hheld
  have hhigh := hstores 2 (by decide +kernel) (by decide +kernel) (.inl (by decide +kernel))
    (.inl (by decide +kernel))
  exact ⟨hheld, by decide +kernel, by decide +kernel, by decide +kernel, hhigh⟩

end Run

end SyncCircuit

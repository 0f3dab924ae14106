import Mathlib.Algebra.Ring.Parity
import SyncCircuit.Proofs.Build.Realization
import SyncCircuit.Proofs.Run.Settlings
import SyncCircuit.Signals.Bounded

/-!
# Sources keep their own law

However the rest of a circuit behaves, the two outputs of a flip-flop are complements of each other,
a clock counts the settled cycles, and a switch holds what it was last set to. Gates may ring, cycles
may fail and be forgotten, and the run may start again: only the requests decide what clocks and
switches show.

## Main definitions

* `Command.lastSetting?` — what some requests leave a switch set to.
* `Network.HalfPeriodsPositive` — no clock of the network has an empty half period.
* `Registers.Lawful` — clocks and switches store what they should.
* `Run.Lawful` — the state of a run tracks such registers.
-/
namespace SyncCircuit

variable {net : Network}

/-! ## The last setting of a switch -/

namespace Command

/-- What the request sets the switch with this name to. -/
def setting? (name : String) : Command → Option Bool
  | .setSwitch other value => if other = name then some value else none
  | .advance | .advanceBy _ | .reset | .addMonitor _ | .removeMonitor _ => none

/-- What the last request on the switch with this name has set it to, if there was one since the
last reset. -/
def lastSetting? (cs : List Command) (name : String) : Option Bool :=
  (cs.reverse.takeWhile (· ≠ .reset)).findSome? (setting? name)

theorem lastSetting?_concat_reset (cs : List Command) (name : String) :
    lastSetting? (cs ++ [.reset]) name = none := by
  simp [lastSetting?]

theorem lastSetting?_concat {c : Command} (hc : c ≠ .reset) (cs : List Command) (name : String) :
    lastSetting? (cs ++ [c]) name = (c.setting? name).or (lastSetting? cs name) := by
  rw [lastSetting?, List.reverse_append, List.reverse_singleton, List.singleton_append,
    List.takeWhile_cons_of_pos (by simpa using hc), List.findSome?_cons]
  cases c.setting? name <;> rfl

/-- Requests of any other kind leave switches alone. -/
theorem lastSetting?_concat_of_setting?_eq_none {c : Command} (hc : c ≠ .reset)
    (hnone : ∀ name, c.setting? name = none) (cs : List Command) :
    lastSetting? (cs ++ [c]) = lastSetting? cs := by
  ext1 name
  rw [lastSetting?_concat hc, hnone, Option.none_or]

end Command

/-! ## Registers -/

/-- Clocks have counted `n` cycles, and switches hold what they were last set to. -/
structure Registers.Lawful (net : Network) (n : Nat) (held : String → Option Bool)
    (r : Registers) : Prop where
  clock : ∀ (i : Nat) (dev : Device) (halfPeriod : UInt32), net.devices[i]? = some dev →
    dev.component = .clock halfPeriod → Clock.After halfPeriod n (r.ticks i) (r.level i)
  switch : ∀ (i : Nat) (dev : Device) (initial : Bool), net.devices[i]? = some dev →
    dev.component = .switch initial → r.level i = (held dev.name).getD initial

/-- No clock has an empty half period. -/
def Network.HalfPeriodsPositive (net : Network) : Prop :=
  ∀ (i : Nat) (dev : Device) (halfPeriod : UInt32), net.devices[i]? = some dev →
    dev.component = .clock halfPeriod → 0 < halfPeriod.toNat

namespace Registers

variable {r : Registers} {n : Nat} {held : String → Option Bool}

theorem lawful_powerUp : (powerUp net).Lawful net 0 fun _ => none where
  clock i dev halfPeriod hdev hclock := by
    rw [powerUp]
    dsimp only
    rw [Network.component?_eq hdev, hclock]
    exact Clock.after_zero halfPeriod
  switch i dev initial hdev hswitch := by
    rw [powerUp]
    dsimp only
    rw [Network.component?_eq hdev, hswitch]
    rfl

/-- What flip-flops have seen of their CLK does not matter. -/
theorem Lawful.setSample (hr : r.Lawful net n held) (sample : Nat → Bool) :
    ({ r with sample := sample } : Registers).Lawful net n held := ⟨hr.clock, hr.switch⟩

/-- Storing in flip-flops changes no other source. -/
theorem Lawful.clockFlipFlops (hr : r.Lawful net n held) (v : Nat → Bool) :
    (r.clockFlipFlops net v).Lawful net n held where
  clock i dev halfPeriod hdev hclock := by
    rw [level_clockFlipFlops_of_ne hdev (by simp [hclock])]
    exact hr.clock i dev halfPeriod hdev hclock
  switch i dev initial hdev hswitch := by
    rw [level_clockFlipFlops_of_ne hdev (by simp [hswitch])]
    exact hr.switch i dev initial hdev hswitch

/-- **Ticking** takes every clock to the next cycle. -/
theorem Lawful.tick (hr : r.Lawful net n held) (hpos : net.HalfPeriodsPositive) :
    (r.tick net).Lawful net (n + 1) held where
  clock i dev halfPeriod hdev hclock := by
    rw [Registers.tick]
    dsimp only
    rw [Network.component?_eq hdev, hclock]
    exact (hr.clock i dev halfPeriod hdev hclock).tick (hpos i dev halfPeriod hdev hclock)
  switch i dev initial hdev hswitch := by
    rw [level_tick hdev (by simp [hswitch])]
    exact hr.switch i dev initial hdev hswitch

/-- Setting a switch changes what this switch holds, and nothing else. -/
theorem Lawful.setSwitch (hr : r.Lawful net n held) (h : net.WellFormed) {i : Nat} {dev : Device}
    {initial : Bool} (hdev : net.devices[i]? = some dev)
    (hswitch : dev.component = .switch initial) (value : Bool) :
    ({ r with level := Function.update r.level i value } : Registers).Lawful net n
      (Function.update held dev.name (some value)) where
  clock j dev' halfPeriod hdev' hclock := by
    have hne : j ≠ i := by
      rintro rfl
      rw [hdev'] at hdev
      cases hdev
      rw [hswitch] at hclock
      cases hclock
    dsimp only
    rw [Function.update_of_ne hne]
    exact hr.clock j dev' halfPeriod hdev' hclock
  switch j dev' initial' hdev' hswitch' := by
    dsimp only
    by_cases hij : j = i
    · subst hij
      rw [hdev'] at hdev
      cases hdev
      rw [Function.update_self, Function.update_self]
      rfl
    · have hname : dev'.name ≠ dev.name := by
        intro heq
        have hi := h.index?_eq_some_iff_name.mpr ⟨dev, hdev, rfl⟩
        rw [h.index?_eq_some_iff_name.mpr ⟨dev', hdev', heq⟩] at hi
        exact hij (Option.some.inj hi)
      rw [Function.update_of_ne hij, Function.update_of_ne hname]
      exact hr.switch j dev' initial' hdev' hswitch'

end Registers

/-! ## Runs -/

namespace Run

variable {r : Run net} {held : String → Option Bool}

/-- Clocks have counted the cycles of the run, and switches hold what they were last set to. -/
def Lawful (r : Run net) (held : String → Option Bool) : Prop :=
  ∃ regs, r.state.Tracks net regs ∧ regs.Lawful net r.cycle held

theorem lawful_coldStart (h : net.WellFormed) (r : Run net) :
    r.coldStart.1.Lawful fun _ => none := by
  obtain ⟨sample, ht⟩ := exists_tracks_coldStart h r
  obtain ⟨state, phase, passes, failure, hrun⟩ := r.exists_coldStart
  have hcycle : r.coldStart.1.cycle = 0 := by rw [hrun]
  refine ⟨_, ht, ?_⟩
  rw [hcycle]
  exact Registers.lawful_powerUp.setSample sample

/-- A cycle that settles counts for every clock, and one that fails for none. -/
theorem Lawful.advance (hr : r.Lawful held) (h : net.WellFormed)
    (hpos : net.HalfPeriodsPositive) : r.advance.run.Lawful held := by
  obtain ⟨regs, ht, hlaw⟩ := hr
  rcases tracks_advance_cases ht h with ⟨hstate, hcycle⟩ | ⟨v, hdone, hcycle⟩
  · rw [Lawful, hstate, hcycle]
    exact ⟨regs, ht, hlaw⟩
  · rw [Lawful, hcycle]
    exact ⟨_, hdone, (hlaw.tick hpos).clockFlipFlops v⟩

/-- Only a switch can be set, and what it is set to is what it holds from then on. -/
theorem Lawful.setSwitch {cs : List Command} (hr : r.Lawful (Command.lastSetting? cs))
    (h : net.WellFormed) (name : String) (value : Bool) :
    (r.setSwitch name value).run.Lawful
      (Command.lastSetting? (cs ++ [.setSwitch name value])) := by
  obtain ⟨regs, ht, hlaw⟩ := hr
  have hheld : Command.lastSetting? (cs ++ [.setSwitch name value]) =
      Function.update (Command.lastSetting? cs) name (some value) := by
    ext1 other
    rw [Command.lastSetting?_concat (by simp), Command.setting?]
    by_cases heq : name = other
    · rw [if_pos heq, heq, Function.update_self, Option.some_or]
    · rw [if_neg heq, Function.update_of_ne (Ne.symm heq), Option.none_or]
  rw [hheld]
  by_cases hfound : ∃ dev initial, net.device? name = some dev ∧ dev.component = .switch initial
  · obtain ⟨dev, initial, hdev, hswitch⟩ := hfound
    obtain ⟨i, hi⟩ := List.mem_iff_getElem?.mp (List.mem_of_find?_eq_some hdev)
    obtain rfl : dev.name = name := by simpa using List.find?_some hdev
    rw [run_setSwitch hdev hswitch]
    exact ⟨_, ht.setSwitch h hi hswitch value, hlaw.setSwitch h hi hswitch value⟩
  · -- No switch has this name, so none holds another value.
    rw [run_setSwitch_of_refused fun dev initial hdev hswitch =>
      hfound ⟨dev, initial, hdev, hswitch⟩]
    refine ⟨regs, ht, hlaw.clock, fun i dev initial hdev hswitch => ?_⟩
    have hname : dev.name ≠ name := by
      intro heq
      exact hfound ⟨dev, initial, heq ▸ h.device?_name hdev, hswitch⟩
    rw [Function.update_of_ne hname]
    exact hlaw.switch i dev initial hdev hswitch

/-- **Every request** leaves clocks and switches as they should be. -/
theorem Lawful.perform {cs : List Command} (hr : r.Lawful (Command.lastSetting? cs))
    (h : net.WellFormed) (hpos : net.HalfPeriodsPositive) (c : Command) :
    (r.perform c).run.Lawful (Command.lastSetting? (cs ++ [c])) := by
  cases c with
  | advance =>
    rw [Command.lastSetting?_concat_of_setting?_eq_none (by simp) fun _ => rfl]
    exact hr.advance h hpos
  | advanceBy n =>
    rw [Command.lastSetting?_concat_of_setting?_eq_none (by simp) fun _ => rfl]
    show (r.advanceBy n).run.Lawful _
    rw [run_advanceBy]
    exact Function.Iterate.rec (fun r => Lawful r (Command.lastSetting? cs)) hr
      (fun r hr => hr.advance h hpos) n
  | reset =>
    have hreset : Command.lastSetting? (cs ++ [.reset]) = fun _ => none := by
      ext1 name
      exact Command.lastSetting?_concat_reset cs name
    rw [hreset]
    exact lawful_coldStart h _
  | setSwitch name value => exact hr.setSwitch h name value
  | addMonitor ref =>
    rw [Command.lastSetting?_concat_of_setting?_eq_none (by simp) fun _ => rfl]
    obtain ⟨monitors, hrun⟩ := r.exists_run_addMonitor ref
    show (r.addMonitor ref).run.Lawful _
    rw [hrun]
    exact hr
  | removeMonitor label =>
    rw [Command.lastSetting?_concat_of_setting?_eq_none (by simp) fun _ => rfl]
    obtain ⟨monitors, hrun⟩ := r.exists_run_removeMonitor label
    show (r.removeMonitor label).run.Lawful _
    rw [hrun]
    exact hr

theorem lawful_performAll (h : net.WellFormed) (hpos : net.HalfPeriodsPositive) (config : Config)
    (cs : List Command) :
    ((start net config).1.performAll cs).Lawful (Command.lastSetting? cs) := by
  induction cs using List.reverseRecOn with
  | nil => exact lawful_coldStart h _
  | append_singleton cs c ih =>
    rw [performAll_append]
    exact ih.perform h hpos c

/-! ### Flip-flops -/

/-- A source can be read, and shows what it stores. -/
theorem read_source (h : net.WellFormed) {regs : Registers} (ht : r.state.Tracks net regs)
    {i k : Nat} {dev : Device} (hdev : net.devices[i]? = some dev)
    (hgate : dev.component.isGate = false) (hk : k < dev.component.outputCount) :
    r.signals.read (dev.firstOutput + k) = .ok (FlipFlop.outputAt (regs.level i) k) := by
  have hlt : dev.firstOutput + k < r.signals.size :=
    Nat.lt_of_lt_of_le (h.output_lt hdev hk) ht.size
  rw [Signals.read, Signals.within, if_pos hlt]
  exact congrArg Except.ok (ht.get_source h hdev hgate hk)

/-- Either output of a flip-flop can be read by its number or by its label. -/
theorem read_flipFlop (h : net.WellFormed) {regs : Registers} (ht : r.state.Tracks net regs)
    {i : Nat} {dev : Device} (hdev : net.devices[i]? = some dev) (hcomp : dev.component = .dtype)
    (p : FlipFlop.Output) :
    r.signals.read (dev.firstOutput + p.index) = .ok (FlipFlop.outputAt (regs.level i) p.index) ∧
    r.value? ⟨dev.name, some p.label⟩ = some (FlipFlop.outputAt (regs.level i) p.index) := by
  have hgate : dev.component.isGate = false := by rw [hcomp]; rfl
  have hk : p.index < dev.component.outputCount := by
    rw [hcomp]
    cases p <;> decide
  have hout : net.output ⟨dev.name, some p.label⟩ = .ok (dev.firstOutput + p.index) := by
    refine Network.output_eq_ok_iff.mpr ⟨dev, p.index, h.device?_name hdev, ?_, rfl⟩
    rw [hcomp]
    simp [Component.outputOffset]
  refine ⟨read_source h ht hdev hgate hk, ?_⟩
  rw [value?, hout]
  exact congrArg some (ht.get_source h hdev hgate hk)

/-- **QBAR is the complement of Q** after every history: both are written together, and nothing else
writes them. -/
theorem build_complementary_outputs (d : Description) (options : BuildOptions) (net : Network)
    (hb : d.build options = .ok net) (config : Config) (cs : List Command) :
    let r := (start net config).1.performAll cs
    ∀ dev ∈ net.devices, dev.component = .dtype → ∃ q,
      r.signals.read (dev.firstOutput + FlipFlop.Output.q.index) = .ok q ∧
      r.signals.read (dev.firstOutput + FlipFlop.Output.qbar.index) = .ok (!q) ∧
      r.value? ⟨dev.name, some FlipFlop.Output.q.label⟩ = some q ∧
      r.value? ⟨dev.name, some FlipFlop.Output.qbar.label⟩ = some (!q) := by
  intro r dev hmem hcomp
  have h := Description.build_wellFormed hb
  obtain ⟨regs, ht⟩ := tracked_performAll h config cs
  obtain ⟨i, hdev⟩ := List.mem_iff_getElem?.mp hmem
  obtain ⟨hq, hvalue⟩ := read_flipFlop h ht hdev hcomp .q
  obtain ⟨hqbar, hcomplement⟩ := read_flipFlop h ht hdev hcomp .qbar
  exact ⟨regs.level i, hq, hqbar, hvalue, hcomplement⟩

theorem latchAndRing_complementary_outputs :
    latchAndRing.build { allowFeedback := true } = .ok latchAndRing.network ∧
    let r := (start latchAndRing.network {}).1.performAll
      [.setSwitch "H" false, .advanceBy 5, .setSwitch "H" true, .advance, .setSwitch "L" true]
    -- The cycle that would have stored a high value has failed.
    r.failure = some ⟨6, 9⟩ ∧
    ∃ q, r.signals.read 3 = .ok q ∧ r.signals.read 4 = .ok (!q) ∧
      r.value? ⟨"F", some "Q"⟩ = some q ∧ r.value? ⟨"F", some "QBAR"⟩ = some (!q) := by
  have hb : latchAndRing.build { allowFeedback := true } = .ok latchAndRing.network := rfl
  have hF : latchAndRing.network.devices[3]? = some ⟨"F", .dtype, [1, 0, 2, 2], 3, [4]⟩ := by
    decide +kernel
  obtain ⟨q, hq, hqbar, hvalue, hcomplement⟩ :=
    build_complementary_outputs latchAndRing { allowFeedback := true } _ hb {}
      [.setSwitch "H" false, .advanceBy 5, .setSwitch "H" true, .advance, .setSwitch "L" true] _
      (List.mem_of_getElem? hF) rfl
  exact ⟨hb, by decide +kernel, q, hq, hqbar, hvalue, hcomplement⟩

/-! ### Clocks and switches -/

/-- **Clocks and switches follow their own law** after every history. A clock has counted the settled
cycles modulo its half period, without overflow, and is high in every second half period. A switch
takes every value it is set to, and holds the last one since the last reset, also if the cycle after
it has failed. -/
theorem build_sources_lawful (d : Description) (options : BuildOptions) (net : Network)
    (hb : d.build options = .ok net) (config : Config) (cs : List Command) :
    let r := (start net config).1.performAll cs
    ∀ (i : Nat) (dev : Device), net.devices[i]? = some dev →
      (∀ halfPeriod, dev.component = .clock halfPeriod → ∃ ticks level,
        r.state.memory[i]? = some (.clock ticks) ∧
        r.signals.read dev.firstOutput = .ok level ∧
        ticks.toNat = r.cycle % halfPeriod.toNat ∧
        (level = true ↔ Odd (r.cycle / halfPeriod.toNat)) ∧
        ticks.toNat < halfPeriod.toNat ∧ (ticks + 1).toNat = ticks.toNat + 1) ∧
      (∀ initial, dev.component = .switch initial →
        (∀ value, (r.setSwitch dev.name value).answer = .ok ()) ∧
        r.signals.read dev.firstOutput =
          .ok ((Command.lastSetting? cs dev.name).getD initial)) := by
  intro r i dev hdev
  have h := Description.build_wellFormed hb
  have hpos : net.HalfPeriodsPositive := fun i dev halfPeriod hdev hclock =>
    Description.build_halfPeriod_pos hb hdev hclock
  obtain ⟨regs, ht, hlaw⟩ := lawful_performAll h hpos config cs
  constructor
  · intro halfPeriod hclock
    have hafter := hlaw.clock i dev halfPeriod hdev hclock
    have hhalf := hpos i dev halfPeriod hdev hclock
    have hmemory := ht.memory i dev hdev
    rw [hclock] at hmemory
    have hread := read_source h ht hdev (by rw [hclock]; rfl) dev.component.outputCount_pos
    have hlevel : regs.level i = true ↔ Odd (r.cycle / halfPeriod.toNat) :=
      hafter.level.trans Nat.odd_iff.symm
    exact ⟨regs.ticks i, regs.level i, hmemory, hread, hafter.ticks, hlevel,
      hafter.ticks_lt hhalf, hafter.toNat_ticks_add_one hhalf⟩
  · intro initial hswitch
    constructor
    · intro value
      rw [setSwitch, h.device?_name hdev]
      dsimp only
      rw [hswitch]
    · rw [← hlaw.switch i dev initial hdev hswitch]
      exact read_source h ht hdev (by rw [hswitch]; rfl) dev.component.outputCount_pos

theorem latchAndRing_sources_lawful :
    latchAndRing.build { allowFeedback := true } = .ok latchAndRing.network ∧
    let cs : List Command :=
      [.setSwitch "H" false, .advanceBy 5, .setSwitch "L" true, .setSwitch "H" true, .advance]
    let r := (start latchAndRing.network {}).1.performAll cs
    let r' := (start latchAndRing.network {}).1.performAll (cs ++ [.reset])
    -- The cycle after both switches were set has failed.
    r.failure = some ⟨6, 9⟩ ∧ r.cycle = 5 ∧
    (∃ ticks level, r.state.memory[0]? = some (.clock ticks) ∧ r.signals.read 0 = .ok level ∧
      ticks.toNat = r.cycle % (2 : UInt32).toNat ∧
      (level = true ↔ Odd (r.cycle / (2 : UInt32).toNat)) ∧
      ticks.toNat < (2 : UInt32).toNat ∧ (ticks + 1).toNat = ticks.toNat + 1) ∧
    r.signals.read 1 = .ok true ∧ r.signals.read 2 = .ok true ∧ r'.signals.read 2 = .ok false := by
  have hb : latchAndRing.build { allowFeedback := true } = .ok latchAndRing.network := rfl
  have hC : latchAndRing.network.devices[0]? = some ⟨"C", .clock 2, [], 0, [3]⟩ := by
    decide +kernel
  have hH : latchAndRing.network.devices[1]? = some ⟨"H", .switch true, [], 1, [3]⟩ := by
    decide +kernel
  have hL : latchAndRing.network.devices[2]? = some ⟨"L", .switch false, [], 2, [3, 5, 6]⟩ := by
    decide +kernel
  have hlaw := build_sources_lawful latchAndRing { allowFeedback := true } _ hb {}
  refine ⟨hb, by decide +kernel, by decide +kernel, (hlaw _ 0 _ hC).1 2 rfl, ?_, ?_, ?_⟩
  · exact ((hlaw _ 1 _ hH).2 true rfl).2.trans (by decide +kernel)
  · exact ((hlaw _ 2 _ hL).2 false rfl).2.trans (by decide +kernel)
  · exact ((hlaw _ 2 _ hL).2 false rfl).2.trans (by decide +kernel)

end Run

end SyncCircuit

import SyncCircuit.Proofs.Build.Containment
import SyncCircuit.Proofs.Network.Labels
import SyncCircuit.Proofs.Run.Chronicle

/-!
# Snapshots between cycles

A run keeps no snapshot. It reads the monitored outputs anew whenever it is asked, next to the number
of its last settled cycle. Failed cycles and changes of the monitors leave the signals alone, but a
switch shows its new state as soon as it is set: the setting is *pending* until a cycle settles with
it. So a snapshot shows the last settled cycle up to pending settings, and it disagrees with a trace
exactly where a pending setting changes what the trace has recorded.

## Main definitions

* `Settings` — settings of switches, the newest first.
* `Run.pending` — the settings that no settled cycle has taken up yet.
* `Run.LeftBy` — a run is as its last settled cycle has left it, but for pending settings.
-/
namespace SyncCircuit

/-! ## Pending settings -/

/-- Settings of switches, the newest first. -/
abbrev Settings := List (String × Bool)

namespace Settings

variable {net : Network} (p : Settings)

/-- What is pending after the next cycle of a run: if it settles, it takes all settings up. -/
def cycle (r : Run net) : Settings :=
  match r.advance.answer with
  | .ok _ => []
  | .error _ => p

/-- What is pending after the next cycles of a run. -/
def cycles (p : Settings) (r : Run net) : Nat → Settings
  | 0 => p
  | n + 1 => (p.cycle r).cycles r.advance.run n

/-- What is pending after a request to a run. -/
def request (r : Run net) : Command → Settings
  | .advance => p.cycle r
  | .advanceBy n => p.cycles r n
  | .reset => []
  | .setSwitch name value =>
    match (r.setSwitch name value).answer with
    | .ok () => (name, value) :: p
    | .error _ => p
  | .addMonitor _ | .removeMonitor _ => p

end Settings

namespace Run

variable {net : Network} {r : Run net} {h : Chronicle} {p : Settings}

/-- The pending settings of a run after a list of requests, given those before. -/
def pending (r : Run net) (p : Settings) : List Command → Settings
  | [] => p
  | c :: cs => (r.perform c).run.pending (p.request r c) cs

/-! ## What the last settled cycle has left -/

/-- The passes and the signals of a run are those of its last settled cycle, but for switches with
pending settings, which show the newest of these. -/
structure LeftBy (r : Run net) (h : Chronicle) (p : Settings) : Prop where
  passes : ∀ s, h.settled.getLast? = some s → s.snapshot.passes = r.passes
  signals : ∀ s, h.settled.getLast? = some s → ∀ o < net.outputCount,
    r.signals.get o = (p.lookup (net.outputLabel o)).getD (s.signals.get o)
  switches : ∀ q ∈ p, ∃ dev ∈ net.devices, ∃ initial,
    dev.name = q.1 ∧ dev.component = .switch initial

/-- Before the first cycle settles there is nothing to show. -/
theorem leftBy_nil (r : Run net) : r.LeftBy {} [] where
  passes := by simp
  signals := by simp
  switches := by simp

/-- A run that a settled cycle has just ended in is as that cycle has left it. -/
theorem leftBy_extend (h : Chronicle) {s : SettledCycle} (hpasses : s.snapshot.passes = r.passes)
    (hsignals : s.signals = r.signals) : r.LeftBy (h.extend s) [] := by
  have hlast : ∀ s', (h.extend s).settled.getLast? = some s' → s' = s := by
    intro s' hs'
    rw [Chronicle.extend, List.getLast?_concat] at hs'
    exact (Option.some.inj hs').symm
  refine ⟨fun s' hs' => ?_, fun s' hs' o _ => ?_, by simp⟩
  · rw [hlast s' hs', hpasses]
  · rw [hlast s' hs', hsignals]
    rfl

/-- Only the state and the passes of the run matter. -/
theorem LeftBy.congr (hr : r.LeftBy h p) {r' : Run net} {h' : Chronicle}
    (hstate : r'.state = r.state) (hpasses : r'.passes = r.passes)
    (hsettled : h'.settled = h.settled) : r'.LeftBy h' p := by
  refine ⟨?_, ?_, hr.switches⟩
  · rw [hsettled, hpasses]
    exact hr.passes
  · rw [hsettled, Run.signals, hstate]
    exact hr.signals

/-- **A cycle** that settles takes the pending settings up. One that fails leaves all as it was. -/
theorem LeftBy.advance (hr : r.LeftBy h p) : r.advance.run.LeftBy (h.cycle r) (p.cycle r) := by
  rcases r.advance_cases with ⟨o, -, hadvance⟩ | ⟨passes, state, probes, -, -, hadvance⟩ |
    ⟨probes, -, -, hadvance⟩
  · rw [Chronicle.cycle, Settings.cycle, hadvance]
    exact hr
  · rw [Chronicle.cycle, Settings.cycle, hadvance]
    exact leftBy_extend h rfl rfl
  · rw [Chronicle.cycle, Settings.cycle, hadvance]
    exact hr.congr rfl rfl rfl

theorem LeftBy.advanceBy (hr : r.LeftBy h p) (n : Nat) :
    (r.advanceBy n).run.LeftBy (h.cycles r n) (p.cycles r n) := by
  rw [run_advanceBy]
  induction n generalizing r h p with
  | zero => exact hr
  | succ n ih =>
    rw [Function.iterate_succ_apply]
    exact ih hr.advance

section Switches

variable (hnet : net.WellFormed) (hdots : ∀ dev ∈ net.devices, '.' ∉ dev.name.toList)
include hnet hdots

/-- **A switch** that is set shows its new state at once, and no other output changes. -/
theorem LeftBy.setSwitch (hr : r.LeftBy h p) (ht : r.Tracked) (name : String) (value : Bool) :
    (r.setSwitch name value).run.LeftBy h (p.request r (.setSwitch name value)) := by
  rw [Settings.request]
  by_cases hfound : ∃ dev initial, net.device? name = some dev ∧ dev.component = .switch initial
  · obtain ⟨dev, initial, hdev, hcomp⟩ := hfound
    have hname : dev.name = name := by simpa using List.find?_some hdev
    have hmem : dev ∈ net.devices := List.mem_of_find?_eq_some hdev
    obtain ⟨i, hi⟩ := List.mem_iff_getElem?.mp hmem
    have hout := hnet.output_lt hi dev.component.outputCount_pos
    have hlabel : net.outputLabel dev.firstOutput = name := by
      rw [← Nat.add_zero dev.firstOutput, hnet.outputLabel_output hi dev.component.outputCount_pos,
        Device.outputLabel, hcomp]
      exact hname
    obtain ⟨regs, htracks⟩ := ht
    rw [setSwitch_eq_of_switch hdev hcomp]
    refine ⟨hr.passes, fun s hs o ho => ?_, fun q hq => ?_⟩
    · show (r.signals.set dev.firstOutput value).get o = _
      rw [Signals.get_set, hr.signals s hs o ho, List.lookup_cons]
      by_cases heq : dev.firstOutput = o
      · rw [if_pos ⟨heq, Nat.lt_of_lt_of_le hout htracks.size⟩, ← heq, hlabel, beq_self_eq_true]
        rfl
      · -- The settings go by labels, and no two outputs share one.
        have hne : net.outputLabel o ≠ name := fun hsame =>
          heq (hnet.outputLabel_inj hdots hout ho (hlabel.trans hsame.symm))
        rw [if_neg fun hand => heq hand.1, beq_false_of_ne hne]
    · rcases List.mem_cons.mp hq with rfl | hq
      · exact ⟨dev, hmem, initial, hname, hcomp⟩
      · exact hr.switches q hq
  · obtain ⟨e, hrefused⟩ := r.setSwitch_eq_error value fun dev initial hdev hcomp =>
      hfound ⟨dev, initial, hdev, hcomp⟩
    rw [hrefused]
    exact hr

/-- **Every request** leaves the run as its last settled cycle has left it, but for the settings that
are pending. -/
theorem LeftBy.perform (hr : r.LeftBy h p) (ht : r.Tracked) (c : Command) :
    (r.perform c).run.LeftBy (h.request r c) (p.request r c) := by
  cases c with
  | advance => exact hr.advance
  | advanceBy n => exact hr.advanceBy n
  | reset => exact leftBy_nil _
  | setSwitch name value => exact hr.setSwitch hnet hdots ht name value
  | addMonitor ref =>
    obtain ⟨monitors, hrun⟩ := r.exists_run_addMonitor ref
    show (r.addMonitor ref).run.LeftBy (h.request r (.addMonitor ref)) p
    rw [hrun]
    refine hr.congr rfl rfl ?_
    rw [Chronicle.request]
    split <;> rfl
  | removeMonitor label =>
    obtain ⟨monitors, hrun⟩ := r.exists_run_removeMonitor label
    show (r.removeMonitor label).run.LeftBy h p
    rw [hrun]
    exact hr.congr rfl rfl rfl

theorem LeftBy.performAll (hr : r.LeftBy h p) (ht : r.Tracked) (cs : List Command) :
    (r.performAll cs).LeftBy (r.chronicle h cs) (r.pending p cs) := by
  induction cs generalizing r h p with
  | nil => exact hr
  | cons c cs ih => exact ih (hr.perform hnet hdots ht c) (ht.perform hnet c)

end Switches

/-! ## Snapshots and samples -/

/-- A snapshot shows every monitored output as it is now. -/
theorem Recorded.value?_snapshot (hr : r.Recorded h) {t : Trace} (ht : t ∈ r.monitors.traces) :
    r.snapshot.value? t.label = some (r.signals.get t.output) :=
  Monitors.lookup_of_nodup hr.nodup ht

/-- The sample of the last settled cycle, and what the snapshot shows instead. -/
theorem LeftBy.value?_snapshot (hr : r.LeftBy h p) (hrecorded : r.Recorded h) {t : Trace}
    (ht : t ∈ r.monitors.traces) (hout : t.output < net.outputCount) {v : Bool}
    (hv : t.atCycle? r.cycle = some v) :
    r.snapshot.value? t.label = some ((p.lookup t.label).getD v) := by
  obtain ⟨s, hs, -, rfl, -⟩ := hrecorded.exists_of_atCycle? ht hv
  have hlast : h.settled.getLast? = some s := by
    rw [List.getLast?_eq_getElem?, hrecorded.length, hs]
  rw [hrecorded.value?_snapshot ht, hr.signals s hlast t.output hout, (hrecorded.covers t ht).label]

/-- **A snapshot between cycles** carries the number and the passes of the last settled cycle. Where a
trace has a sample of that cycle, the snapshot shows it, unless the output is that of a switch with a
pending setting: then it shows the newest of these. So the snapshot agrees with the traces exactly if
no pending setting changes a recorded value. -/
theorem build_snapshot_value (d : Description) (options : BuildOptions) (net : Network)
    (hb : d.build options = .ok net) (config : Config) (cs : List Command) :
    let r := (start net config).1.performAll cs
    let h := (start net config).1.chronicle {} cs
    let p := (start net config).1.pending [] cs
    0 < r.cycle →
      (∃ s, h.settled[r.cycle - 1]? = some s ∧ s.snapshot.cycle = r.cycle ∧
        r.snapshot.cycle = s.snapshot.cycle ∧ r.snapshot.passes = s.snapshot.passes) ∧
      (∀ q ∈ p, ∃ dev ∈ net.devices, ∃ initial, dev.name = q.1 ∧ dev.component = .switch initial) ∧
      (∀ t ∈ r.monitors.traces, ∀ v, t.atCycle? r.cycle = some v →
        r.snapshot.value? t.label = some ((p.lookup t.label).getD v)) ∧
      ((∀ t ∈ r.monitors.traces, ∀ v, t.atCycle? r.cycle = some v →
          r.snapshot.value? t.label = some v) ↔
        ∀ t ∈ r.monitors.traces, ∀ v w, t.atCycle? r.cycle = some v → p.lookup t.label = some w →
          w = v) := by
  dsimp only
  have hnet := Description.build_wellFormed hb
  have hleft := (leftBy_nil (start net config).1).performAll hnet (Description.build_noDots hb)
    (tracked_coldStart hnet _) cs
  have hrecorded := (recorded_start net config).performAll cs
  have houtputs := ((WellRecorded.start (Description.build_monitors_lt hb) config).performAll hnet
    cs).outputs
  generalize (start net config).1.performAll cs = r at hleft hrecorded houtputs ⊢
  generalize (start net config).1.chronicle {} cs = h at hleft hrecorded ⊢
  generalize (start net config).1.pending [] cs = p at hleft ⊢
  intro hcycle
  have hvalue : ∀ t ∈ r.monitors.traces, ∀ v, t.atCycle? r.cycle = some v →
      r.snapshot.value? t.label = some ((p.lookup t.label).getD v) :=
    fun t ht v hv => hleft.value?_snapshot hrecorded ht (houtputs t ht) hv
  refine ⟨?_, hleft.switches, hvalue, fun hagree t ht v w hv hw => ?_, fun hsame t ht v hv => ?_⟩
  · have hlt : r.cycle - 1 < h.settled.length := by
      rw [hrecorded.length]
      omega
    have hs : h.settled[r.cycle - 1]? = some h.settled[r.cycle - 1] :=
      List.getElem?_eq_getElem hlt
    have hdated := hrecorded.dated _ _ hs
    rw [Nat.sub_add_cancel hcycle] at hdated
    refine ⟨_, hs, hdated, hdated.symm, (hleft.passes _ ?_).symm⟩
    rw [List.getLast?_eq_getElem?, hrecorded.length, hs]
  · have hshown := hvalue t ht v hv
    rw [hagree t ht v hv, hw] at hshown
    exact (Option.some.inj hshown).symm
  · rw [hvalue t ht v hv]
    cases hw : p.lookup t.label with
    | none => rfl
    | some w => rw [hsame t ht v w hv hw]; rfl

theorem latchAndRing_snapshot_value :
    latchAndRing.build { allowFeedback := true } = .ok latchAndRing.network ∧
    let cs : List Command := [.addMonitor ⟨"L", none⟩, .advance, .advance, .setSwitch "L" true]
    let r := (start latchAndRing.network {}).1.performAll cs
    -- The second cycle has failed, and then a monitored switch was set.
    r.failure = some ⟨2, 9⟩ ∧
    (∃ s, ((start latchAndRing.network {}).1.chronicle {} cs).settled[0]? = some s ∧
      s.snapshot.cycle = 1 ∧ r.snapshot.cycle = s.snapshot.cycle ∧
      r.snapshot.passes = s.snapshot.passes) ∧
    r.snapshot.value? "N" = some true ∧ r.snapshot.value? "L" = some true := by
  have hb : latchAndRing.build { allowFeedback := true } = .ok latchAndRing.network := rfl
  have hcycle : ((start latchAndRing.network {}).1.performAll [.addMonitor ⟨"L", none⟩, .advance,
      .advance, .setSwitch "L" true]).cycle = 1 := by decide +kernel
  have hN : (⟨"N", 5, 1, #[true]⟩ : Trace) ∈ ((start latchAndRing.network {}).1.performAll
      [.addMonitor ⟨"L", none⟩, .advance, .advance, .setSwitch "L" true]).monitors.traces := by
    decide +kernel
  have hL : (⟨"L", 2, 1, #[false]⟩ : Trace) ∈ ((start latchAndRing.network {}).1.performAll
      [.addMonitor ⟨"L", none⟩, .advance, .advance, .setSwitch "L" true]).monitors.traces := by
    decide +kernel
  obtain ⟨hlast, -, hvalue, -⟩ := build_snapshot_value latchAndRing { allowFeedback := true } _ hb {}
    [.addMonitor ⟨"L", none⟩, .advance, .advance, .setSwitch "L" true] (by rw [hcycle]; decide)
  rw [hcycle] at hlast hvalue
  refine ⟨hb, by decide +kernel, hlast, ?_, ?_⟩
  · exact (hvalue _ hN true rfl).trans (by decide +kernel)
  · exact (hvalue _ hL false rfl).trans (by decide +kernel)

/-- A switch that is monitored, low at first. -/
def lamp : Description where
  devices := [⟨"S", .switch, some 0⟩]
  connections := []
  monitors := [⟨"S", none⟩]

/-- A snapshot need not show what the trace has recorded in the cycle whose number it carries. -/
theorem lamp_snapshot_ne_sample :
    lamp.build {} = .ok lamp.network ∧
    let r := (start lamp.network {}).1.performAll [.advance, .setSwitch "S" true]
    r.cycle = 1 ∧ r.snapshot.cycle = 1 ∧
    (∃ t ∈ r.monitors.traces, t.label = "S" ∧ t.atCycle? 1 = some false) ∧
    r.snapshot.value? "S" = some true := by
  refine ⟨rfl, by decide +kernel, by decide +kernel, ⟨⟨"S", 0, 1, #[false]⟩, ?_, rfl, rfl⟩, ?_⟩ <;>
    decide +kernel

end Run

end SyncCircuit

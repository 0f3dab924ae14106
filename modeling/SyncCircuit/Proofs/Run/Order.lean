import SyncCircuit.Proofs.Build.Reordering
import SyncCircuit.Proofs.Run.Chronicle
import SyncCircuit.Proofs.Run.Correspondence

/-!
# Runs do not depend on the order of declarations

Gates are recomputed in declaration order and see what was recomputed before them in the same pass,
so the order decides what they show on the way, and how long that takes. It does not decide where
they come to rest. A description whose declarations and connections are permuted therefore has runs
that cannot be told apart from those of the original: the same values, snapshots, traces and faults.
What differs is the numbering of outputs, and with it the number of passes.

## Main definitions

* `Monitors.renumber` — the same monitors of outputs with other numbers.
* `Reply.shown` — an answer, but for pass counts and output numbers.
* `Run.LooksLike` — runs that cannot be told apart.
-/
namespace SyncCircuit

/-! ## Monitors of renumbered outputs -/

/-- The same trace, of an output with another number. -/
def Trace.renumber (f : Nat → Nat) (t : Trace) : Trace := { t with output := f t.output }

namespace Monitors

variable {m : Monitors} {f : Nat → Nat}

/-- The same monitors, of outputs with other numbers. -/
def renumber (f : Nat → Nat) (m : Monitors) : Monitors :=
  { m with traces := m.traces.map (·.renumber f) }

theorem find?_renumber (f : Nat → Nat) (m : Monitors) (label : String) :
    (m.renumber f).find? label = (m.find? label).map (·.renumber f) := List.find?_map ..

theorem clear_renumber (f : Nat → Nat) (m : Monitors) (firstCycle : Nat) :
    (m.renumber f).clear firstCycle = (m.clear firstCycle).renumber f := by
  rw [clear, clear, renumber, renumber, List.map_map, List.map_map]
  rfl

theorem record_renumber {s s' : Signals}
    (h : ∀ t ∈ m.traces, s'.get (f t.output) = s.get t.output) :
    (m.renumber f).record s' = (m.record s).renumber f := by
  obtain ⟨traces, bound⟩ := m
  rw [renumber, record, record, renumber, List.map_map, List.map_map]
  congr 1
  refine List.map_congr_left fun t ht => ?_
  show (t.renumber f).push (s'.get (f t.output)) bound = (t.push (s.get t.output) bound).renumber f
  rw [h t ht]
  cases bound <;> rfl

theorem add?_renumber (f : Nat → Nat) (m : Monitors) (label : String) (o firstCycle : Nat) :
    (m.renumber f).add? label (f o) firstCycle = (m.add? label o firstCycle).map (renumber f) := by
  rw [add?, add?, find?_renumber]
  cases m.find? label with
  | some t => rfl
  | none =>
    simp only [Option.map_none, Option.map_some, renumber, List.map_append]
    rfl

theorem remove?_renumber (f : Nat → Nat) (m : Monitors) (label : String) :
    (m.renumber f).remove? label =
      (m.remove? label).map fun found => (found.1.renumber f, found.2.renumber f) := by
  rw [remove?, remove?, find?_renumber, Option.map_map, Option.map_map]
  refine congrArg (Option.map · _) (funext fun t => ?_)
  simp only [Function.comp_apply, renumber, List.eraseP_map]
  rfl

theorem values_snapshot_renumber {s s' : Signals}
    (h : ∀ t ∈ m.traces, s'.get (f t.output) = s.get t.output) (cycle passes passes' : Nat) :
    ((m.renumber f).snapshot s' cycle passes').values = (m.snapshot s cycle passes).values := by
  rw [snapshot, snapshot, renumber, List.map_map]
  refine List.map_congr_left fun t ht => ?_
  show (t.label, s'.get (f t.output)) = _
  rw [h t ht]

variable {net net' : Network}

end Monitors

/-! ## What is seen of a run -/

/-- A snapshot without the number of passes. -/
def Snapshot.shown (s : Snapshot) : Snapshot := { s with passes := 0 }

/-- A trace without the number of its output. -/
def Trace.shown (t : Trace) : Trace := { t with output := 0 }

/-- An answer without pass counts and output numbers. -/
def Reply.shown : Reply → Reply
  | .done => .done
  | .snapshot s => .snapshot s.shown
  | .trace t => .trace t.shown

/-- Runs of two networks that cannot be told apart by what they show under names and references. -/
structure Run.LooksLike {net net' : Network} (r : Run net) (r' : Run net') : Prop where
  phase : r'.phase = r.phase
  cycle : r'.cycle = r.cycle
  failure : r'.failure = r.failure
  value? : ∀ ref, r'.value? ref = r.value? ref
  snapshot : r'.snapshot.shown = r.snapshot.shown
  traces : r'.monitors.traces.map Trace.shown = r.monitors.traces.map Trace.shown
  switches : r'.switches.Perm r.switches

theorem Run.LooksLike.refl {net : Network} (r : Run net) : r.LooksLike r :=
  ⟨rfl, rfl, rfl, fun _ => rfl, rfl, rfl, .refl _⟩

variable {net net' : Network}

namespace Network.Embedding

variable (e : net.Embedding net') (e' : net'.Embedding net)

include e' in
theorem device?_eq_none (h : net.WellFormed) (h' : net'.WellFormed) {name : String}
    (hnone : net.device? name = none) : net'.device? name = none := by
  cases hdev : net'.device? name with
  | none => rfl
  | some dev' =>
    obtain ⟨dev, hdev, -⟩ := e'.device? h' h hdev
    rw [hnone] at hdev
    cases hdev

include e' in
/-- If each network sits inside the other, references name the same outputs, with the same
faults. -/
theorem output_eq (h : net.WellFormed) (h' : net'.WellFormed) (ref : OutputRef) :
    net'.output ref = (net.output ref).map e.output := by
  cases hdev : net.device? ref.device with
  | none =>
    rw [Network.output, Network.output, hdev, e'.device?_eq_none h h' hdev]
    rfl
  | some dev =>
    obtain ⟨dev', hdev', hrenumbered⟩ := e.device? h h' hdev
    rw [Network.output, Network.output, hdev, hdev']
    dsimp only
    rw [hrenumbered.component]
    cases hoffset : dev.component.outputOffset ref.pin with
    | error fault => rfl
    | ok k =>
      have hk := (Component.outputOffset_eq_ok_iff.mp hoffset).lt_outputCount
      exact congrArg Except.ok (hrenumbered.outputs k hk).symm

end Network.Embedding

namespace Run

variable {config : Config} {r : Run net} {r' : Run net'}

/-! ## Switches -/

/-- Corresponding runs that monitor the same outputs in the same order. -/
structure Mirrors (e : net.Embedding net') (config : Config) (r : Run net) (r' : Run net') :
    Prop where
  corresponds : r.Corresponds e config r'
  monitors : r'.monitors = r.monitors.renumber e.output
  recorded : r.WellRecorded

namespace Mirrors

variable {e : net.Embedding net'}

theorem signals (hm : r.Mirrors e config r') :
    ∀ t ∈ r.monitors.traces, r'.signals.get (e.output t.output) = r.signals.get t.output :=
  fun t ht => hm.corresponds.signals _ (hm.recorded.outputs t ht)

theorem snapshot (hm : r.Mirrors e config r') : r'.snapshot.shown = r.snapshot.shown := by
  have hvalues := Monitors.values_snapshot_renumber hm.signals r.cycle r.passes r'.passes
  rw [Run.snapshot, Run.snapshot, hm.monitors, hm.corresponds.cycle, Snapshot.shown, Snapshot.shown,
    hvalues]
  rfl

theorem traces (hm : r.Mirrors e config r') :
    r'.monitors.traces.map Trace.shown = r.monitors.traces.map Trace.shown := by
  rw [hm.monitors, Monitors.renumber, List.map_map]
  rfl

theorem coldStart (hn : net.AlwaysSettles config) (hn' : net'.AlwaysSettles config)
    (hr : r.config = config) (hr' : r'.config = config)
    (hmonitors : r'.monitors = r.monitors.renumber e.output)
    (hrecorded : r.coldStart.1.WellRecorded) :
    r.coldStart.1.Mirrors e config r'.coldStart.1 := by
  refine ⟨corresponds_coldStart e hn hn' hr hr', ?_, hrecorded⟩
  rw [monitors_coldStart, monitors_coldStart, hmonitors]

theorem advance (hm : r.Mirrors e config r') (hn : net.AlwaysSettles config)
    (hn' : net'.AlwaysSettles config) : r.advance.run.Mirrors e config r'.advance.run := by
  have hc := hm.corresponds.advance hn hn'
  refine ⟨hc, ?_, hm.recorded.advance⟩
  obtain ⟨hr, hr'⟩ := hm.corresponds.intact
  obtain ⟨state, passes, hrun⟩ := hr.exists_advance hn
  obtain ⟨state', passes', hrun'⟩ := hr'.exists_advance hn'
  rw [hrun, hrun'] at hc ⊢
  dsimp only
  rw [hm.monitors]
  exact Monitors.record_renumber fun t ht => hc.signals _ (hm.recorded.outputs t ht)

theorem iterate_advance (hm : r.Mirrors e config r') (hn : net.AlwaysSettles config)
    (hn' : net'.AlwaysSettles config) (n : Nat) :
    ((fun r : Run net => r.advance.run)^[n] r).Mirrors e config
      ((fun r : Run net' => r.advance.run)^[n] r') := by
  induction n with
  | zero => exact hm
  | succ n ih =>
    rw [Function.iterate_succ_apply', Function.iterate_succ_apply']
    exact ih.advance hn hn'

theorem setSwitch (hm : r.Mirrors e config r') (h : net.WellFormed) (h' : net'.WellFormed)
    (name : String) (value : Bool) :
    (r.setSwitch name value).run.Mirrors e config (r'.setSwitch name value).run := by
  refine ⟨hm.corresponds.setSwitch h h' name value, ?_,
    hm.recorded.perform h (.setSwitch name value)⟩
  obtain ⟨state, hrun⟩ := r.exists_run_setSwitch name value
  obtain ⟨state', hrun'⟩ := r'.exists_run_setSwitch name value
  rw [hrun, hrun']
  exact hm.monitors

theorem answer_setSwitch (e : net.Embedding net') (e' : net'.Embedding net) (h : net.WellFormed)
    (h' : net'.WellFormed) (r : Run net) (r' : Run net') (name : String) (value : Bool) :
    (r'.setSwitch name value).answer = (r.setSwitch name value).answer := by
  rw [Run.setSwitch, Run.setSwitch]
  cases hdev : net.device? name with
  | none => rw [e'.device?_eq_none h h' hdev]
  | some dev =>
    obtain ⟨dev', hdev', hrenumbered⟩ := e.device? h h' hdev
    rw [hdev']
    dsimp only
    rw [hrenumbered.component]
    cases dev.component <;> rfl

/-- The label of an output is in use in both runs or in none. -/
theorem add?_eq (hm : r.Mirrors e config r') (h : net.WellFormed) (h' : net'.WellFormed) {o : Nat}
    (ho : o < net.outputCount) :
    r'.monitors.add? (net'.outputLabel (e.output o)) (e.output o) (r'.cycle + 1) =
      (r.monitors.add? (net.outputLabel o) o (r.cycle + 1)).map (.renumber e.output) := by
  rw [hm.monitors, hm.corresponds.cycle, e.outputLabel h h' ho, Monitors.add?_renumber]

theorem addMonitor (hm : r.Mirrors e config r') (e' : net'.Embedding net) (h : net.WellFormed)
    (h' : net'.WellFormed) (ref : OutputRef) :
    (r.addMonitor ref).run.Mirrors e config (r'.addMonitor ref).run := by
  have hrecorded : (r.addMonitor ref).run.WellRecorded := hm.recorded.perform h (.addMonitor ref)
  have hout := e.output_eq e' h h' ref
  cases ho : net.output ref with
  | error fault =>
    rw [ho] at hout
    rw [run_addMonitor_of_error ho, run_addMonitor_of_error hout]
    exact hm
  | ok o =>
    rw [ho] at hout
    rw [run_addMonitor_of_ok ho] at hrecorded ⊢
    rw [run_addMonitor_of_ok hout, hm.add?_eq h h' (h.output_lt_of_eq_ok ho)]
    refine ⟨hm.corresponds.setMonitors _ _, ?_, hrecorded⟩
    dsimp only
    rw [hm.monitors]
    cases r.monitors.add? (net.outputLabel o) o (r.cycle + 1) <;> rfl

theorem answer_addMonitor (hm : r.Mirrors e config r') (e' : net'.Embedding net)
    (h : net.WellFormed) (h' : net'.WellFormed) (ref : OutputRef) :
    (r'.addMonitor ref).answer = (r.addMonitor ref).answer := by
  rw [Run.addMonitor, Run.addMonitor, e.output_eq e' h h']
  cases ho : net.output ref with
  | error fault => rfl
  | ok o =>
    have hlt := h.output_lt_of_eq_ok ho
    dsimp only [Except.map]
    rw [hm.add?_eq h h' hlt, e.outputLabel h h' hlt]
    cases r.monitors.add? (net.outputLabel o) o (r.cycle + 1) <;> rfl

theorem removeMonitor (hm : r.Mirrors e config r') (h : net.WellFormed) (label : String) :
    (r.removeMonitor label).run.Mirrors e config (r'.removeMonitor label).run := by
  have hrecorded : (r.removeMonitor label).run.WellRecorded :=
    hm.recorded.perform h (.removeMonitor label)
  rw [run_removeMonitor] at hrecorded ⊢
  rw [run_removeMonitor]
  refine ⟨hm.corresponds.setMonitors _ _, ?_, hrecorded⟩
  dsimp only
  rw [hm.monitors, Monitors.remove?_renumber]
  cases r.monitors.remove? label <;> rfl

theorem answer_removeMonitor (hm : r.Mirrors e config r') (label : String) :
    (r'.removeMonitor label).answer.map Trace.shown =
      (r.removeMonitor label).answer.map Trace.shown := by
  rw [Run.removeMonitor, Run.removeMonitor, hm.monitors, Monitors.remove?_renumber]
  cases r.monitors.remove? label <;> rfl

/-- **Every request** is answered alike and leaves runs that mirror each other. -/
theorem perform (hm : r.Mirrors e config r') (e' : net'.Embedding net)
    (hn : net.AlwaysSettles config) (hn' : net'.AlwaysSettles config) (c : Command) :
    (r.perform c).run.Mirrors e config (r'.perform c).run ∧
      (r'.perform c).answer.map Reply.shown = (r.perform c).answer.map Reply.shown := by
  have h := hn.wellFormed
  have h' := hn'.wellFormed
  obtain ⟨hr, hr'⟩ := hm.corresponds.intact
  cases c with
  | advance =>
    have hadvance := hm.advance hn hn'
    obtain ⟨hintact, hintact'⟩ := hadvance.corresponds.intact
    refine ⟨hadvance, ?_⟩
    show (r'.advance.answer.map Reply.snapshot).map Reply.shown =
      (r.advance.answer.map Reply.snapshot).map Reply.shown
    rw [answer_advance_of_failure_eq_none hintact.failure,
      answer_advance_of_failure_eq_none hintact'.failure]
    exact congrArg (fun s => Except.ok (Reply.snapshot s)) hadvance.snapshot
  | advanceBy n =>
    refine ⟨?_, ?_⟩
    · show (r.advanceBy n).run.Mirrors e config (r'.advanceBy n).run
      rw [run_advanceBy, run_advanceBy]
      exact hm.iterate_advance hn hn' n
    · show ((r'.advanceBy n).answer.map fun _ => Reply.done).map Reply.shown =
        ((r.advanceBy n).answer.map fun _ => Reply.done).map Reply.shown
      rw [hr.answer_advanceBy hn, hr'.answer_advanceBy hn']
  | reset =>
    have hcold : ({ r with monitors := r.monitors.clear 1 } : Run net).coldStart.1.Mirrors e config
        ({ r' with monitors := r'.monitors.clear 1 } : Run net').coldStart.1 := by
      refine coldStart hn hn' hr.config_eq hr'.config_eq ?_ (hm.recorded.perform h .reset)
      dsimp only
      rw [hm.monitors, Monitors.clear_renumber]
    exact ⟨hcold, rfl⟩
  | setSwitch name value =>
    refine ⟨hm.setSwitch h h' name value, ?_⟩
    exact congrArg (fun a => (a.map fun _ => Reply.done).map Reply.shown)
      (answer_setSwitch e e' h h' r r' name value)
  | addMonitor ref =>
    refine ⟨hm.addMonitor e' h h' ref, ?_⟩
    exact congrArg (fun a => (a.map fun _ => Reply.done).map Reply.shown)
      (hm.answer_addMonitor e' h h' ref)
  | removeMonitor label =>
    refine ⟨hm.removeMonitor h label, ?_⟩
    have hshown : ∀ a : Except RunFault Trace,
        (a.map Reply.trace).map Reply.shown = (a.map Trace.shown).map Reply.trace := by
      intro a
      cases a <;> rfl
    show ((r'.removeMonitor label).answer.map Reply.trace).map Reply.shown =
      ((r.removeMonitor label).answer.map Reply.trace).map Reply.shown
    rw [hshown, hshown, hm.answer_removeMonitor]

theorem performAll (hm : r.Mirrors e config r') (e' : net'.Embedding net)
    (hn : net.AlwaysSettles config) (hn' : net'.AlwaysSettles config) (cs : List Command) :
    (r.performAll cs).Mirrors e config (r'.performAll cs) := by
  induction cs generalizing r r' with
  | nil => exact hm
  | cons c cs ih => exact ih (hm.perform e' hn hn' c).1

end Mirrors

/-! ## Descriptions in another order -/

/-- A switch that is inverted twice. -/
def chain : Description where
  devices := [⟨"S", .switch, some 0⟩, ⟨"A", .gate .not, none⟩, ⟨"B", .gate .not, none⟩]
  connections := [⟨⟨"S", none⟩, ⟨"A", "I1"⟩⟩, ⟨⟨"A", none⟩, ⟨"B", "I1"⟩⟩]
  monitors := [⟨"B", none⟩]

end Run

end SyncCircuit

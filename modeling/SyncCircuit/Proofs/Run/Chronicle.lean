import SyncCircuit.Build.Basic
import SyncCircuit.Proofs.Monitor.Lookup
import SyncCircuit.Proofs.Run.Settlings

/-!
# Traces and the chronicle of a run

A trace keeps samples and the cycle of the first one, and nothing else says what they are samples
of. The chronicle of a run is written beside it, by every request: it has the signals and the
snapshot of every cycle that has settled since the cold start, in order, and when each monitor was
added. Every request keeps all traces in step with the chronicle (`Recorded.perform`), however often
monitors come and go, cycles fail and the run starts again.

## Main definitions

* `Chronicle` — the cycles of a run that have settled, and since when outputs are monitored.
* `Run.chronicle` — the chronicle of a run after a list of requests.
* `Run.Recorded` — the traces of a run hold what its chronicle says.
* `Run.WellRecorded` — so they do for some chronicle, and record outputs that the network has.
-/
namespace SyncCircuit

/-! ## Chronicles -/

/-- A cycle that has settled. -/
structure SettledCycle where
  /-- The signals right after the cycle. -/
  signals : Signals
  /-- The answer of the cycle. -/
  snapshot : Snapshot
deriving DecidableEq

/-- What has happened since the cold start. -/
structure Chronicle where
  /-- The cycles that have settled, the first one first. -/
  settled : List SettledCycle := []
  /-- The labels of the monitors that were added, the last one first, each with the number of cycles
  that had settled by then. -/
  added : List (String × Nat) := []

namespace Chronicle

variable {net : Network} (h : Chronicle)

/-- The number of cycles that had settled when the monitor with this label was added. Monitors that
were there at the cold start have been recorded since cycle zero. -/
def since (label : String) : Nat := (h.added.lookup label).getD 0

/-- The values of an output right after each cycle. -/
def values (output : Nat) : List Bool := h.settled.map (·.signals.get output)

/-- Writes down a cycle that has settled. -/
def extend (s : SettledCycle) : Chronicle := { h with settled := h.settled ++ [s] }

/-- Writes down a new monitor. -/
def add (label : String) : Chronicle := { h with added := (label, h.settled.length) :: h.added }

/-- Writes down the next cycle of a run, if it settles. -/
def cycle (r : Run net) : Chronicle :=
  match r.advance with
  | ⟨.ok s, r, _⟩ => h.extend ⟨r.signals, s⟩
  | ⟨.error _, _, _⟩ => h

/-- Writes down the next cycles of a run. -/
def cycles (h : Chronicle) (r : Run net) : Nat → Chronicle
  | 0 => h
  | n + 1 => (h.cycle r).cycles r.advance.run n

/-- Writes down what a request to a run does. -/
def request (r : Run net) : Command → Chronicle
  | .advance => h.cycle r
  | .advanceBy n => h.cycles r n
  | .reset => {}
  | .addMonitor ref =>
    match net.output ref, (r.addMonitor ref).answer with
    | .ok o, .ok () => h.add (net.outputLabel o)
    | _, _ => h
  | .setSwitch _ _ | .removeMonitor _ => h

end Chronicle

namespace Run

variable {net : Network}

/-- The chronicle of a run after a list of requests, given the one before. -/
def chronicle (r : Run net) (h : Chronicle) : List Command → Chronicle
  | [] => h
  | c :: cs => (r.perform c).run.chronicle (h.request r c) cs

end Run

/-! ## What a trace owes to the chronicle -/

/-- A trace of the output its label names holds the newest values from those since its monitor was
added, and the snapshots of these cycles show the same values. -/
structure Chronicle.Covers (h : Chronicle) (net : Network) (bound : Option Nat) (t : Trace) :
    Prop where
  label : t.label = net.outputLabel t.output
  records : t.Records bound (h.since t.label) (h.values t.output)
  shown : ∀ i s, h.since t.label ≤ i → h.settled[i]? = some s →
    s.snapshot.value? t.label = some (s.signals.get t.output)

namespace Chronicle

variable {h : Chronicle} {net : Network} {bound : Option Nat} {t : Trace}

@[simp] theorem length_values (h : Chronicle) (output : Nat) :
    (h.values output).length = h.settled.length := List.length_map ..

@[simp] theorem since_extend (h : Chronicle) (s : SettledCycle) :
    (h.extend s).since = h.since := rfl

@[simp] theorem values_extend (h : Chronicle) (s : SettledCycle) (output : Nat) :
    (h.extend s).values output = h.values output ++ [s.signals.get output] := by
  rw [values, extend, List.map_append, List.map_singleton, values]

/-- A cycle of the extended chronicle is one from before or the new one. -/
theorem getElem?_settled_extend {s s' : SettledCycle} {i : Nat}
    (hs' : (h.extend s).settled[i]? = some s') :
    h.settled[i]? = some s' ∨ (i = h.settled.length ∧ s' = s) := by
  rw [extend] at hs'
  rcases Nat.lt_or_ge i h.settled.length with hlt | hge
  · rw [List.getElem?_append_left hlt] at hs'
    exact .inl hs'
  · rw [List.getElem?_append_right hge, List.getElem?_singleton] at hs'
    split at hs'
    · exact .inr ⟨by omega, (Option.some.inj hs').symm⟩
    · cases hs'

@[simp] theorem since_add_self (h : Chronicle) (label : String) :
    (h.add label).since label = h.settled.length := by
  rw [since, add, List.lookup_cons, beq_self_eq_true, Option.getD_some]

/-- The trace of a monitor that has just been added. -/
theorem covers_of_isEmpty (hlabel : t.label = net.outputLabel t.output) (hsamples : t.samples = #[])
    (hfirst : t.firstCycle = h.settled.length + 1) (hsince : h.since t.label = h.settled.length) :
    h.Covers net bound t where
  label := hlabel
  records := by
    rw [hsince, ← h.length_values t.output]
    exact .of_isEmpty hsamples (by rw [hfirst, h.length_values])
  shown := by
    intro i s hi hs
    have hlt := (List.getElem?_eq_some_iff.mp hs).1
    omega

/-- The trace follows a cycle that settles. -/
theorem Covers.push (ht : h.Covers net bound t) {s : SettledCycle}
    (hshown : s.snapshot.value? t.label = some (s.signals.get t.output)) :
    (h.extend s).Covers net bound (t.push (s.signals.get t.output) bound) where
  label := by rw [Trace.label_push, Trace.output_push, ht.label]
  records := by
    rw [Trace.label_push, Trace.output_push, since_extend, values_extend]
    exact ht.records.push _
  shown := by
    rw [Trace.label_push, Trace.output_push, since_extend]
    intro i s' hi hs'
    rcases getElem?_settled_extend hs' with hs' | ⟨-, rfl⟩
    · exact ht.shown i s' hi hs'
    · exact hshown

/-- A new monitor does not matter to the trace of another one. -/
theorem Covers.add (ht : h.Covers net bound t) {label : String} (hne : t.label ≠ label) :
    (h.add label).Covers net bound t := by
  have hsince : (h.add label).since t.label = h.since t.label := by
    rw [since, Chronicle.add, List.lookup_cons, beq_false_of_ne hne, since]
  exact ⟨ht.label, hsince ▸ ht.records, hsince ▸ ht.shown⟩

end Chronicle

/-! ## Runs -/

namespace Run

variable {net : Network} {r : Run net} {h : Chronicle}

/-- The traces of a run hold what its chronicle says. -/
structure Recorded (r : Run net) (h : Chronicle) : Prop where
  bound : r.monitors.bound = r.config.maxTraceLength
  nodup : r.monitors.labels.Nodup
  length : h.settled.length = r.cycle
  dated : ∀ i s, h.settled[i]? = some s → s.snapshot.cycle = i + 1
  covers : ∀ t ∈ r.monitors.traces, h.Covers net r.monitors.bound t

/-- A cold start begins a new chronicle. -/
theorem recorded_coldStart (hfresh : r.monitors.Fresh net r.config.maxTraceLength) :
    r.coldStart.1.Recorded {} := by
  obtain ⟨state, phase, passes, failure, hrun⟩ := r.exists_coldStart
  rw [hrun]
  refine ⟨hfresh.bound, hfresh.nodup, rfl, by simp, fun t ht => ?_⟩
  exact Chronicle.covers_of_isEmpty (hfresh.label t ht) (hfresh.samples t ht)
    (hfresh.firstCycle t ht) rfl

theorem recorded_start (net : Network) (config : Config) : (start net config).1.Recorded {} :=
  recorded_coldStart (Monitors.fresh_initialMonitors net config.maxTraceLength)

/-- **A cycle** adds a sample to every trace and itself to the chronicle, or changes neither. -/
theorem Recorded.advance (hr : r.Recorded h) : r.advance.run.Recorded (h.cycle r) := by
  rcases r.advance_cases with ⟨o, -, hadvance⟩ | ⟨passes, state, probes, -, -, hadvance⟩ |
    ⟨probes, -, -, hadvance⟩
  · rw [Chronicle.cycle, hadvance]
    exact hr
  · rw [Chronicle.cycle, hadvance]
    dsimp only
    have hnodup : (r.monitors.record state.signals).labels.Nodup := by
      rw [Monitors.labels_record]
      exact hr.nodup
    refine ⟨hr.bound, hnodup, ?_, fun i s hs => ?_, fun t ht => ?_⟩
    · rw [Chronicle.extend, List.length_append, List.length_singleton, hr.length]
    · rcases Chronicle.getElem?_settled_extend hs with hs | ⟨rfl, rfl⟩
      · exact hr.dated i s hs
      · rw [hr.length]
        rfl
    · obtain ⟨u, hu, rfl⟩ := List.mem_map.mp ht
      refine (hr.covers u hu).push ?_
      -- The snapshot finds the value by the label, and no other trace has that label.
      have hvalue := Monitors.lookup_of_nodup (f := fun t => state.signals.get t.output) hnodup ht
      rw [Trace.label_push, Trace.output_push] at hvalue
      exact hvalue
  · rw [Chronicle.cycle, hadvance]
    exact ⟨hr.bound, hr.nodup, hr.length, hr.dated, hr.covers⟩

theorem Recorded.advanceBy (hr : r.Recorded h) (n : Nat) :
    (r.advanceBy n).run.Recorded (h.cycles r n) := by
  rw [run_advanceBy]
  induction n generalizing r h with
  | zero => exact hr
  | succ n ih =>
    rw [Function.iterate_succ_apply]
    exact ih hr.advance

theorem Recorded.reset (hr : r.Recorded h) : r.reset.run.Recorded {} := by
  refine recorded_coldStart (r := { r with monitors := r.monitors.clear 1 }) ?_
  refine ⟨hr.bound, ?_, fun t ht => ?_, fun t ht => ?_, fun t ht => ?_⟩
  · rw [Monitors.labels_clear]
    exact hr.nodup
  all_goals obtain ⟨u, hu, rfl⟩ := List.mem_map.mp ht
  · exact (hr.covers u hu).label
  · rfl
  · rfl

theorem Recorded.addMonitor (hr : r.Recorded h) (ref : OutputRef) :
    (r.addMonitor ref).run.Recorded (h.request r (.addMonitor ref)) := by
  rw [Chronicle.request]
  rcases r.addMonitor_cases ref with ⟨e, hrun⟩ | ⟨o, monitors, hout, hadd, hrun⟩
  · rw [hrun]
    cases net.output ref <;> exact hr
  · rw [hrun, hout]
    obtain ⟨hnew, hbound, htraces⟩ := Monitors.add?_cases hadd
    refine ⟨hbound.trans hr.bound, ?_, hr.length, hr.dated, fun t ht => ?_⟩
    · exact Monitors.nodup_labels_add? hr.nodup hadd
    · rw [htraces, List.mem_append, List.mem_singleton] at ht
      rcases ht with ht | rfl
      · rw [hbound]
        refine (hr.covers t ht).add fun heq => hnew ?_
        exact heq ▸ List.mem_map_of_mem ht
      · refine Chronicle.covers_of_isEmpty rfl rfl ?_ (h.since_add_self _)
        exact congrArg (· + 1) hr.length.symm

theorem Recorded.removeMonitor (hr : r.Recorded h) (label : String) :
    (r.removeMonitor label).run.Recorded h := by
  rw [run_removeMonitor, Monitors.getD_remove?]
  have hsub : (r.monitors.traces.eraseP (·.label == label)).Sublist r.monitors.traces :=
    List.eraseP_sublist
  exact ⟨hr.bound, hr.nodup.sublist (hsub.map _), hr.length, hr.dated,
    fun t ht => hr.covers t (hsub.subset ht)⟩

/-- **Every request** keeps the traces in step with the chronicle. -/
theorem Recorded.perform (hr : r.Recorded h) (c : Command) :
    (r.perform c).run.Recorded (h.request r c) := by
  cases c with
  | advance => exact hr.advance
  | advanceBy n => exact hr.advanceBy n
  | reset => exact hr.reset
  | setSwitch name value =>
    obtain ⟨state, hrun⟩ := r.exists_run_setSwitch name value
    show (r.setSwitch name value).run.Recorded h
    rw [hrun]
    exact ⟨hr.bound, hr.nodup, hr.length, hr.dated, hr.covers⟩
  | addMonitor ref => exact hr.addMonitor ref
  | removeMonitor label => exact hr.removeMonitor label

theorem Recorded.performAll (hr : r.Recorded h) (cs : List Command) :
    (r.performAll cs).Recorded (r.chronicle h cs) := by
  induction cs generalizing r h with
  | nil => exact hr
  | cons c cs ih => exact ih (hr.perform c)

/-! ### Recorded outputs -/

/-- The traces of a run hold what some chronicle says, of outputs that the network has. -/
structure WellRecorded (r : Run net) : Prop where
  recorded : ∃ h, r.Recorded h
  outputs : ∀ t ∈ r.monitors.traces, t.output < net.outputCount

namespace WellRecorded

theorem start (hmonitors : ∀ o ∈ net.monitors, o < net.outputCount) (config : Config) :
    (start net config).1.WellRecorded where
  recorded := ⟨{}, recorded_start net config⟩
  outputs := by
    rw [monitors_start]
    intro t ht
    exact hmonitors _ (Monitors.output_mem_of_mem_initialMonitors ht)

theorem advance (hr : r.WellRecorded) : r.advance.run.WellRecorded where
  recorded := by
    obtain ⟨h, hrecorded⟩ := hr.recorded
    exact ⟨_, hrecorded.advance⟩
  outputs := by
    obtain ⟨phase, failure, hrun⟩ | ⟨passes, state, -, hrun⟩ := r.run_advance_cases
    · rw [hrun]
      exact hr.outputs
    · rw [hrun]
      intro t ht
      obtain ⟨u, hu, rfl⟩ := List.mem_map.mp ht
      rw [Trace.output_push]
      exact hr.outputs u hu

/-- Every request keeps to outputs of the network. -/
theorem perform (hr : r.WellRecorded) (h : net.WellFormed) (c : Command) :
    (r.perform c).run.WellRecorded := by
  obtain ⟨chronicle, hrecorded⟩ := hr.recorded
  refine ⟨⟨_, hrecorded.perform c⟩, ?_⟩
  cases c with
  | advance => exact hr.advance.outputs
  | advanceBy n =>
    show ∀ t ∈ (r.advanceBy n).run.monitors.traces, t.output < net.outputCount
    rw [run_advanceBy]
    exact (Function.Iterate.rec WellRecorded hr (fun _ hr => hr.advance) n).outputs
  | reset =>
    show ∀ t ∈ ({ r with monitors := r.monitors.clear 1 } : Run net).coldStart.1.monitors.traces,
      t.output < net.outputCount
    rw [monitors_coldStart]
    intro t ht
    obtain ⟨u, hu, rfl⟩ := List.mem_map.mp ht
    exact hr.outputs u hu
  | setSwitch name value =>
    obtain ⟨state, hrun⟩ := r.exists_run_setSwitch name value
    show ∀ t ∈ (r.setSwitch name value).run.monitors.traces, t.output < net.outputCount
    rw [hrun]
    exact hr.outputs
  | addMonitor ref =>
    show ∀ t ∈ (r.addMonitor ref).run.monitors.traces, t.output < net.outputCount
    rcases r.addMonitor_cases ref with ⟨fault, hrun⟩ | ⟨o, monitors, hout, hadd, hrun⟩
    · rw [hrun]
      exact hr.outputs
    · rw [hrun]
      dsimp only
      rw [(Monitors.add?_cases hadd).2.2]
      intro t ht
      rcases List.mem_append.mp ht with ht | ht
      · exact hr.outputs t ht
      · rw [List.mem_singleton.mp ht]
        exact h.output_lt_of_eq_ok hout
  | removeMonitor label =>
    show ∀ t ∈ (r.removeMonitor label).run.monitors.traces, t.output < net.outputCount
    rw [run_removeMonitor, Monitors.getD_remove?]
    intro t ht
    exact hr.outputs t (List.mem_of_mem_eraseP ht)

theorem performAll (hr : r.WellRecorded) (h : net.WellFormed) (cs : List Command) :
    (r.performAll cs).WellRecorded := performAll_induction (fun _ c hr => hr.perform h c) hr cs

theorem label_eq (hr : r.WellRecorded) {t : Trace} (ht : t ∈ r.monitors.traces) :
    t.label = net.outputLabel t.output := by
  obtain ⟨chronicle, hrecorded⟩ := hr.recorded
  exact (hrecorded.covers t ht).label

theorem nodup (hr : r.WellRecorded) : r.monitors.labels.Nodup := by
  obtain ⟨chronicle, hrecorded⟩ := hr.recorded
  exact hrecorded.nodup

end WellRecorded

/-! ### Samples -/

/-- A sample is the value right after its cycle, and the one in the snapshot of the cycle. -/
theorem Recorded.exists_of_atCycle? (hr : r.Recorded h) {t : Trace} (ht : t ∈ r.monitors.traces)
    {c : Nat} {v : Bool} (hv : t.atCycle? c = some v) :
    ∃ s, h.settled[c - 1]? = some s ∧ s.snapshot.cycle = c ∧ s.signals.get t.output = v ∧
      s.snapshot.value? t.label = some v := by
  have hcovers := hr.covers t ht
  have hrecords := hcovers.records
  have hkept := (hrecords.isSome_atCycle?_iff c).mp (by rw [hv]; rfl)
  have hfirst := hrecords.since_lt_firstCycle
  rw [hrecords.atCycle? hkept.1, Chronicle.values, List.getElem?_map] at hv
  obtain ⟨s, hs, rfl⟩ := Option.map_eq_some_iff.mp hv
  refine ⟨s, hs, ?_, rfl, hcovers.shown _ s (by omega) hs⟩
  rw [hr.dated _ s hs]
  omega

end Run

end SyncCircuit

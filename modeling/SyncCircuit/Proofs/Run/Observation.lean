import SyncCircuit.Proofs.Build.Containment
import SyncCircuit.Proofs.Monitor.Lookup
import SyncCircuit.Proofs.Network.Labels
import SyncCircuit.Proofs.Run.Chronicle

/-!
# Watching a run does not change it

Monitors share the cycles, the cycle count and the failures of a run, but nothing flows back from
them. A request does the same to a run with its monitors and without, and one that only concerns
monitors does nothing to the rest. So two runs that differ in what is monitored, and in how many
samples are kept, are the same run apart from that. Where both have a sample it is the same one,
since both recorded it from the same signals.

## Main definitions

* `Command.observes` — the request only concerns what is monitored.
* `Run.unobserved` — a run without its monitors.
* `Chronicle.history` — the signals after each settled cycle.
-/
namespace SyncCircuit

variable {net : Network}

namespace Command

variable {c : Command}

/-- Whether the request only concerns what is monitored. -/
def observes : Command → Bool
  | .addMonitor _ | .removeMonitor _ => true
  | .advance | .advanceBy _ | .reset | .setSwitch _ _ => false

/-- The requests that do more than watch. -/
def effective (cs : List Command) : List Command := cs.filter (!·.observes)

theorem effective_cons_of_observes (hc : c.observes = true) (cs : List Command) :
    effective (c :: cs) = effective cs := by
  simp [effective, hc]

theorem effective_cons (hc : c.observes = false) (cs : List Command) :
    effective (c :: cs) = c :: effective cs := by
  simp [effective, hc]

end Command

/-- A snapshot without the monitored values. -/
def Snapshot.bare (s : Snapshot) : Snapshot := { s with values := [] }

/-- An answer without the monitored values. -/
def Reply.bare : Reply → Reply
  | .snapshot s => .snapshot s.bare
  | .done => .done
  | .trace t => .trace t

/-! ## Runs without monitors -/

namespace Run

variable {r r' : Run net}

/-- The run without its monitors, and without a bound on their samples. -/
def unobserved (r : Run net) : Run net :=
  { r with config := { r.config with maxTraceLength := none }, monitors := {} }

theorem coldStart_unobserved (r : Run net) :
    r.unobserved.coldStart = (r.coldStart.1.unobserved, r.coldStart.2) := by
  rw [coldStart, coldStart]
  dsimp only [maxPasses, unobserved, Config.maxPasses]
  split <;> rfl

/-- A run starts the same way whatever is monitored. -/
theorem unobserved_start (net : Network) {config config' : Config}
    (hmargin : config'.margin = config.margin) :
    (start net config').1.unobserved = (start net config).1.unobserved := by
  have hstart : ∀ config : Config, (start net config).1.unobserved =
      (coldStart (unobserved ⟨config, net.coldState, {}, .idle, 0, 0, none⟩)).1 :=
    fun config => (congrArg Prod.fst (coldStart_unobserved _)).symm
  obtain ⟨margin, bound⟩ := config
  obtain ⟨margin', bound'⟩ := config'
  obtain rfl : margin' = margin := hmargin
  rw [hstart, hstart]
  rfl

/-- **A cycle** does the same without the monitors; only the values of the snapshot are missing. -/
theorem advance_unobserved (r : Run net) :
    r.unobserved.advance =
      ⟨r.advance.answer.map Snapshot.bare, r.advance.run.unobserved, r.advance.events⟩ := by
  rcases r.advance_cases with ⟨o, hfail, hadvance⟩ |
    ⟨passes, state, probes, hfail, hout, hadvance⟩ | ⟨probes, hfail, hout, hadvance⟩
  · rw [hadvance, advance_of_failure (r := r.unobserved) hfail]
    rfl
  · rw [hadvance, advance_eq_of_some (r := r.unobserved) hfail hout]
    rfl
  · rw [hadvance, advance_eq_of_none (r := r.unobserved) hfail hout]
    rfl

theorem advanceLogged_unobserved (r : Run net) (events : Array RunEvent) (n : Nat) :
    r.unobserved.advanceLogged events n =
      ⟨(r.advanceLogged events n).answer, (r.advanceLogged events n).run.unobserved,
        (r.advanceLogged events n).events⟩ := by
  induction n generalizing r events with
  | zero => rfl
  | succ n ih =>
    have hstep := r.advance_unobserved
    cases hanswer : r.advance.answer with
    | ok s =>
      have hbare : r.unobserved.advance.answer = .ok s.bare := by
        rw [hstep, hanswer]
        rfl
      rw [advanceLogged_succ_of_ok hanswer, advanceLogged_succ_of_ok hbare, hstep]
      exact ih _ _
    | error e =>
      have hbare : r.unobserved.advance.answer = .error e := by
        rw [hstep, hanswer]
        rfl
      rw [advanceLogged_succ_of_error hanswer, advanceLogged_succ_of_error hbare, hstep]

theorem setSwitch_unobserved (r : Run net) (name : String) (value : Bool) :
    r.unobserved.setSwitch name value =
      ⟨(r.setSwitch name value).answer, (r.setSwitch name value).run.unobserved,
        (r.setSwitch name value).events⟩ := by
  rcases setSwitch_cases net name value with ⟨e, hrefused⟩ | ⟨o, hset⟩
  · rw [hrefused, hrefused]
  · rw [hset, hset]
    rfl

/-- **A request that does more than watch** does the same without the monitors. -/
theorem perform_unobserved (r : Run net) {c : Command} (hc : c.observes = false) :
    r.unobserved.perform c =
      ⟨(r.perform c).answer.map Reply.bare, (r.perform c).run.unobserved,
        (r.perform c).events⟩ := by
  cases c with
  | advance =>
    rw [perform, perform, advance_unobserved]
    cases hanswer : r.advance.answer <;> simp [Step.map, Except.map, Reply.bare, hanswer]
  | advanceBy n =>
    rw [perform, perform, advanceBy, advanceLogged_unobserved, advanceBy]
    cases hanswer : (r.advanceLogged #[] n).answer <;>
      simp [Step.map, Except.map, Reply.bare, hanswer]
  | reset =>
    have hcleared : ({ r.unobserved with monitors := r.unobserved.monitors.clear 1 } : Run net) =
        ({ r with monitors := r.monitors.clear 1 } : Run net).unobserved := rfl
    rw [perform, perform, reset, hcleared, coldStart_unobserved]
    rfl
  | setSwitch name value =>
    rw [perform, perform, setSwitch_unobserved]
    cases hanswer : (r.setSwitch name value).answer <;>
      simp [Step.map, Except.map, Reply.bare, hanswer]
  | addMonitor ref | removeMonitor label => cases hc

/-- **A request that only watches** does nothing else. -/
theorem unobserved_perform_of_observes (r : Run net) {c : Command} (hc : c.observes = true) :
    (r.perform c).run.unobserved = r.unobserved := by
  cases c with
  | addMonitor ref =>
    obtain ⟨monitors, hrun⟩ := r.exists_run_addMonitor ref
    show (r.addMonitor ref).run.unobserved = r.unobserved
    rw [hrun]
    rfl
  | removeMonitor label =>
    obtain ⟨monitors, hrun⟩ := r.exists_run_removeMonitor label
    show (r.removeMonitor label).run.unobserved = r.unobserved
    rw [hrun]
    rfl
  | advance | advanceBy n | reset | setSwitch name value => cases hc

/-- **A history** does to a run without monitors what is left of it without requests that only
watch. -/
theorem unobserved_performAll (r : Run net) (cs : List Command) :
    (r.performAll cs).unobserved = r.unobserved.performAll (Command.effective cs) := by
  induction cs generalizing r with
  | nil => rfl
  | cons c cs ih =>
    rw [performAll_cons, ih]
    cases hc : c.observes with
    | true => rw [unobserved_perform_of_observes r hc, Command.effective_cons_of_observes hc]
    | false => rw [Command.effective_cons hc, performAll_cons, perform_unobserved r hc]

end Run

/-! ## What there is to record -/

namespace Chronicle

variable {h h' : Chronicle}

/-- The signals right after each settled cycle. -/
def history (h : Chronicle) : List Signals := h.settled.map (·.signals)

@[simp] theorem history_extend (h : Chronicle) (s : SettledCycle) :
    (h.extend s).history = h.history ++ [s.signals] := by
  rw [history, extend, List.map_append, List.map_singleton, history]

/-- What a cycle leaves in the history does not depend on the monitors. -/
theorem history_cycle (hh : h'.history = h.history) (r : Run net) :
    (h'.cycle r.unobserved).history = (h.cycle r).history := by
  rw [cycle, cycle, r.advance_unobserved]
  rcases r.advance with ⟨_ | s, run, events⟩
  · exact hh
  · dsimp only [Except.map]
    rw [history_extend, history_extend, hh]
    rfl

theorem history_cycles (hh : h'.history = h.history) (r : Run net) (n : Nat) :
    (h'.cycles r.unobserved n).history = (h.cycles r n).history := by
  induction n generalizing h h' r with
  | zero => exact hh
  | succ n ih =>
    rw [cycles, cycles, r.advance_unobserved]
    exact ih (history_cycle hh r) _

theorem history_request (hh : h'.history = h.history) (r : Run net) {c : Command}
    (hc : c.observes = false) : (h'.request r.unobserved c).history = (h.request r c).history := by
  cases c with
  | advance => exact history_cycle hh r
  | advanceBy n => exact history_cycles hh r n
  | reset => rfl
  | setSwitch name value => exact hh
  | addMonitor ref | removeMonitor label => cases hc

/-- A request that only watches adds nothing to the history. -/
theorem history_request_of_observes (r : Run net) {c : Command} (hc : c.observes = true) :
    (h.request r c).history = h.history := by
  cases c with
  | addMonitor ref =>
    rw [request]
    split <;> rfl
  | removeMonitor label => rfl
  | advance | advanceBy n | reset | setSwitch name value => cases hc

/-- **The history of a run** is that of the run without monitors. -/
theorem history_chronicle (hh : h'.history = h.history) (r : Run net) (cs : List Command) :
    (r.unobserved.chronicle h' (Command.effective cs)).history = (r.chronicle h cs).history := by
  induction cs generalizing h h' r with
  | nil => exact hh
  | cons c cs ih =>
    rw [Run.chronicle]
    cases hc : c.observes with
    | true =>
      rw [Command.effective_cons_of_observes hc, ← r.unobserved_perform_of_observes hc]
      exact ih (hh.trans (history_request_of_observes r hc).symm) _
    | false =>
      rw [Command.effective_cons hc, Run.chronicle, r.perform_unobserved hc]
      exact ih (history_request hh r hc) _

end Chronicle

/-! ## Two runs -/

namespace Run

variable {r r' : Run net} {h h' : Chronicle}

/-- In two runs of one network, a label stands for one output, as names have no dots. -/
theorem WellRecorded.output_eq (hr : r.WellRecorded) (hr' : r'.WellRecorded) (h : net.WellFormed)
    (hdots : ∀ dev ∈ net.devices, '.' ∉ dev.name.toList) {t t' : Trace}
    (ht : t ∈ r.monitors.traces) (ht' : t' ∈ r'.monitors.traces) (hlabel : t'.label = t.label) :
    t'.output = t.output := by
  rw [hr.label_eq ht, hr'.label_eq ht'] at hlabel
  exact h.outputLabel_inj hdots (hr'.outputs t' ht') (hr.outputs t ht) hlabel

/-- Traces of one output, recorded in two runs with one history, agree where both have a sample. -/
theorem Recorded.sample_eq (hr : r.Recorded h) (hr' : r'.Recorded h')
    (hh : h'.history = h.history) {t t' : Trace} (ht : t ∈ r.monitors.traces)
    (ht' : t' ∈ r'.monitors.traces) (houtput : t'.output = t.output) {c : Nat} {v v' : Bool}
    (hv : t.atCycle? c = some v) (hv' : t'.atCycle? c = some v') : v' = v := by
  obtain ⟨s, hs, -, rfl, -⟩ := hr.exists_of_atCycle? ht hv
  obtain ⟨s', hs', -, rfl, -⟩ := hr'.exists_of_atCycle? ht' hv'
  have hsignals : h.history[c - 1]? = some s.signals := by
    rw [Chronicle.history, List.getElem?_map, hs]
    rfl
  rw [← hh, Chronicle.history, List.getElem?_map, hs'] at hsignals
  have hsame : s'.signals = s.signals := Option.some.inj hsignals
  rw [hsame, houtput]

/-- **Watching does not matter.** Two runs with one margin, whose requests differ only in those that
watch, have the same signals and memory, phase, counts and failure. They answer every other request
in the same way but for the monitored values. Where both have a sample of one label, it is the same,
also if they keep different numbers of samples. Whatever is only read off a run matters even less,
as it is a function of the run. -/
theorem build_observed_alike (d : Description) (options : BuildOptions) (net : Network)
    (hb : d.build options = .ok net) (config config' : Config)
    (hmargin : config'.margin = config.margin) (cs cs' : List Command)
    (hcs : Command.effective cs' = Command.effective cs) :
    let r := (start net config).1.performAll cs
    let r' := (start net config').1.performAll cs'
    r'.state = r.state ∧ r'.phase = r.phase ∧ r'.cycle = r.cycle ∧ r'.passes = r.passes ∧
    r'.failure = r.failure ∧
    (∀ c, c.observes = false →
      (r'.perform c).answer.map Reply.bare = (r.perform c).answer.map Reply.bare ∧
      (r'.perform c).events = (r.perform c).events) ∧
    ∀ label t t', r.monitors.find? label = some t → r'.monitors.find? label = some t' →
      ∀ c v v', t.atCycle? c = some v → t'.atCycle? c = some v' → v' = v := by
  have hstart := unobserved_start net hmargin
  have hsame : ((start net config').1.performAll cs').unobserved =
      ((start net config).1.performAll cs).unobserved := by
    rw [unobserved_performAll, unobserved_performAll, hstart, hcs]
  have hhistory : ((start net config').1.chronicle {} cs').history =
      ((start net config).1.chronicle {} cs).history :=
    calc ((start net config').1.chronicle {} cs').history
        = ((start net config').1.unobserved.chronicle {} (Command.effective cs')).history :=
          (Chronicle.history_chronicle rfl _ cs').symm
      _ = ((start net config).1.unobserved.chronicle {} (Command.effective cs)).history := by
          rw [hstart, hcs]
      _ = ((start net config).1.chronicle {} cs).history := Chronicle.history_chronicle rfl _ cs
  refine ⟨congrArg (·.state) hsame, congrArg (·.phase) hsame, congrArg (·.cycle) hsame,
    congrArg (·.passes) hsame, congrArg (·.failure) hsame, fun c hc => ?_, ?_⟩
  · have hstep := perform_unobserved ((start net config).1.performAll cs) hc
    rw [← hsame, perform_unobserved _ hc, Step.mk.injEq] at hstep
    exact ⟨hstep.1, hstep.2.2⟩
  · intro label t t' hfind hfind' c v v' hv hv'
    obtain ⟨ht, hlabel⟩ := Monitors.mem_of_find? hfind
    obtain ⟨ht', hlabel'⟩ := Monitors.mem_of_find? hfind'
    have h := Description.build_wellFormed hb
    have hmonitors := Description.build_monitors_lt hb
    have houtput : t'.output = t.output :=
      ((WellRecorded.start hmonitors config).performAll h cs).output_eq
        ((WellRecorded.start hmonitors config').performAll h cs') h
        (Description.build_noDots hb) ht ht' (hlabel'.trans hlabel.symm)
    exact ((recorded_start net config).performAll cs).sample_eq
      ((recorded_start net config').performAll cs') hhistory ht ht' houtput hv hv'

theorem latchAndRing_observed_alike :
    let cs : List Command :=
      [.setSwitch "H" false, .advanceBy 5, .setSwitch "H" true, .advance]
    let cs' : List Command := [.removeMonitor "N", .setSwitch "H" false, .addMonitor ⟨"N", none⟩,
      .advanceBy 5, .addMonitor ⟨"C", none⟩, .setSwitch "H" true, .advance]
    let r := (start latchAndRing.network {}).1.performAll cs
    let r' := (start latchAndRing.network { maxTraceLength := some 2 }).1.performAll cs'
    latchAndRing.build { allowFeedback := true } = .ok latchAndRing.network ∧
    ({ maxTraceLength := some 2 } : Config).margin = ({} : Config).margin ∧
    Command.effective cs' = Command.effective cs ∧
    r.failure = some ⟨6, 9⟩ ∧ r'.failure = r.failure ∧ r'.state = r.state ∧
    (r'.perform .advance).answer.map Reply.bare = (r.perform .advance).answer.map Reply.bare ∧
    r.monitors.find? "N" = some ⟨"N", 5, 1, #[true, true, true, true, true]⟩ ∧
    r'.monitors.find? "N" = some ⟨"N", 5, 4, #[true, true]⟩ ∧
    ∀ c v v', (⟨"N", 5, 1, #[true, true, true, true, true]⟩ : Trace).atCycle? c = some v →
      (⟨"N", 5, 4, #[true, true]⟩ : Trace).atCycle? c = some v' → v' = v := by
  dsimp only
  have hb : latchAndRing.build { allowFeedback := true } = .ok latchAndRing.network := rfl
  obtain ⟨hstate, -, -, -, hfailure, hanswer, hsamples⟩ :=
    build_observed_alike latchAndRing { allowFeedback := true } _ hb {}
      { maxTraceLength := some 2 } rfl
      [.setSwitch "H" false, .advanceBy 5, .setSwitch "H" true, .advance]
      [.removeMonitor "N", .setSwitch "H" false, .addMonitor ⟨"N", none⟩, .advanceBy 5,
        .addMonitor ⟨"C", none⟩, .setSwitch "H" true, .advance] rfl
  have hN : ((start latchAndRing.network {}).1.performAll
      [.setSwitch "H" false, .advanceBy 5, .setSwitch "H" true, .advance]).monitors.find? "N" =
        some ⟨"N", 5, 1, #[true, true, true, true, true]⟩ := by decide +kernel
  have hN' : ((start latchAndRing.network { maxTraceLength := some 2 }).1.performAll
      [.removeMonitor "N", .setSwitch "H" false, .addMonitor ⟨"N", none⟩, .advanceBy 5,
        .addMonitor ⟨"C", none⟩, .setSwitch "H" true, .advance]).monitors.find? "N" =
        some ⟨"N", 5, 4, #[true, true]⟩ := by decide +kernel
  exact ⟨hb, rfl, rfl, by decide +kernel, hfailure, hstate, (hanswer .advance rfl).1, hN, hN',
    hsamples _ _ _ hN hN'⟩

end Run

end SyncCircuit

import SyncCircuit.Proofs.Build.Extension
import SyncCircuit.Proofs.Monitor.Lookup
import SyncCircuit.Proofs.Network.Labels
import SyncCircuit.Proofs.Run.Chronicle
import SyncCircuit.Proofs.Run.Correspondence

/-!
# Runs of extended networks

A network can be extended without disturbing what was there before. The new part changes how many
passes a cycle takes, in which order gates are recomputed and whether flip-flops make them settle
twice, but it drives no old input; so the old part comes to rest where it always did. This holds
whatever is requested of both networks, and whatever switches of the new part are set in between.

## Main definitions

* `Run.Includes` — a run of an extended network includes one of the original network.
* `Command.Interspersed` — the same requests, with some switches set in between.
-/
namespace SyncCircuit

/-- An output is monitored from the start, under this label. -/
def Network.Monitored (net : Network) (label : String) : Prop :=
  ∃ o ∈ net.monitors, net.outputLabel o = label

/-- The same requests, but between them some switches are set in addition. -/
inductive Command.Interspersed (switch : String → Prop) : List Command → List Command → Prop
  | nil : Interspersed switch [] []
  | both {cs cs' : List Command} (c : Command) (h : Interspersed switch cs cs') :
      Interspersed switch (c :: cs) (c :: cs')
  | extra {cs cs' : List Command} {name : String} (value : Bool) (hname : switch name)
      (h : Interspersed switch cs cs') : Interspersed switch cs (.setSwitch name value :: cs')

variable {net net' : Network} {config : Config}

namespace Network.Extension

variable (e : net.Extension net') (h : net.WellFormed) (h' : net'.WellFormed)
  (hdots : ∀ dev ∈ net'.devices, '.' ∉ dev.name.toList)
  (hmonitors : ∀ o ∈ net.monitors, o < net.outputCount)

include e h h' hdots hmonitors

/-- Other outputs have other labels than those that are monitored from the start. -/
theorem not_monitored {o : Nat} (ho : o < net'.outputCount) (hnew : o ∉ net.monitors) :
    ¬ net.Monitored (net'.outputLabel o) := by
  rintro ⟨p, hp, hlabel⟩
  rw [← e.outputLabel_eq h h' (hmonitors p hp)] at hlabel
  have hlt := e.lt_outputCount h h' (hmonitors p hp)
  rw [h'.outputLabel_inj hdots hlt ho hlabel] at hp
  exact hnew hp

end Network.Extension

namespace Run

/-! ## Runs of both networks -/

/-- If the label of an output is in use, its trace goes back to now or further. -/
theorem WellRecorded.extends_new {r : Run net} (hr : r.WellRecorded) (h : net.WellFormed)
    (hdots : ∀ dev ∈ net.devices, '.' ∉ dev.name.toList) {o : Nat} (ho : o < net.outputCount)
    {t : Trace} (ht : r.monitors.find? (net.outputLabel o) = some t) :
    t.Extends ⟨net.outputLabel o, o, r.cycle + 1, #[]⟩ := by
  obtain ⟨hmem, hlabel⟩ := Monitors.mem_of_find? ht
  obtain ⟨chronicle, hrecorded⟩ := hr.recorded
  have hcovers := hrecorded.covers t hmem
  refine ⟨hlabel, ?_, ?_, List.nil_suffix⟩
  · exact h.outputLabel_inj hdots (hr.outputs t hmem) ho (hcovers.label.symm.trans hlabel)
  · rw [hcovers.records.dated, chronicle.length_values, hrecorded.length]
    rfl

/-- A run of an extended network shows at the old outputs what a run of the original network shows.
It has recorded all that the other one has, and exactly the same for the monitors that both networks
have from the start. -/
structure Includes (e : net.Extension net') (config : Config) (r' : Run net') (r : Run net) :
    Prop where
  corresponds : r.Corresponds e.toEmbedding config r'
  monitors : r'.monitors.Includes net.Monitored r.monitors
  recorded : r.WellRecorded
  recorded' : r'.WellRecorded

variable {e : net.Extension net'} {r : Run net} {r' : Run net'}

theorem Corresponds.get (hc : r.Corresponds e.toEmbedding config r') {o : Nat}
    (ho : o < net.outputCount) : r'.signals.get o = r.signals.get o := by
  rw [← hc.signals o ho, e.output_eq]

namespace Includes

theorem coldStart (hn : net.AlwaysSettles config) (hn' : net'.AlwaysSettles config)
    (hr : r.config = config) (hr' : r'.config = config)
    (hmonitors : r'.monitors.Includes net.Monitored r.monitors)
    (hrecorded : r.coldStart.1.WellRecorded) (hrecorded' : r'.coldStart.1.WellRecorded) :
    r'.coldStart.1.Includes e config r.coldStart.1 := by
  refine ⟨corresponds_coldStart e.toEmbedding hn hn' hr hr', ?_, hrecorded, hrecorded'⟩
  rw [monitors_coldStart, monitors_coldStart]
  exact hmonitors

theorem advance (hi : r'.Includes e config r) (hn : net.AlwaysSettles config)
    (hn' : net'.AlwaysSettles config) : r'.advance.run.Includes e config r.advance.run := by
  have hc := hi.corresponds.advance hn hn'
  refine ⟨hc, ?_, hi.recorded.advance, hi.recorded'.advance⟩
  obtain ⟨hintact, hintact'⟩ := hi.corresponds.intact
  obtain ⟨state, passes, hrun⟩ := hintact.exists_advance hn
  obtain ⟨state', passes', hrun'⟩ := hintact'.exists_advance hn'
  rw [hrun, hrun'] at hc ⊢
  refine hi.monitors.record ?_
  intro t ht
  exact hc.get (hi.recorded.outputs t ht)

theorem iterate_advance (hi : r'.Includes e config r) (hn : net.AlwaysSettles config)
    (hn' : net'.AlwaysSettles config) (n : Nat) :
    ((fun r : Run net' => r.advance.run)^[n] r').Includes e config
      ((fun r : Run net => r.advance.run)^[n] r) := by
  induction n generalizing r r' with
  | zero => exact hi
  | succ n ih => exact ih (hi.advance hn hn')

section Requests

variable (h : net.WellFormed) (h' : net'.WellFormed)

include h h'

theorem setSwitch (hi : r'.Includes e config r) (name : String) (value : Bool) :
    (r'.setSwitch name value).run.Includes e config (r.setSwitch name value).run := by
  refine ⟨hi.corresponds.setSwitch h h' name value, ?_,
    hi.recorded.perform h (.setSwitch name value), hi.recorded'.perform h' (.setSwitch name value)⟩
  obtain ⟨state, hrun⟩ := r.exists_run_setSwitch name value
  obtain ⟨state', hrun'⟩ := r'.exists_run_setSwitch name value
  rw [hrun, hrun']
  exact hi.monitors

/-- A switch of the new part is set. -/
theorem setSwitch_larger (hi : r'.Includes e config r) {name : String}
    (hname : net.device? name = none) (value : Bool) :
    (r'.setSwitch name value).run.Includes e config r := by
  have hset := hi.setSwitch h h' name value
  have hrefused : (r.setSwitch name value).run = r := by
    refine run_setSwitch_of_refused fun dev initial hdev => ?_
    rw [hname] at hdev
    cases hdev
  rwa [hrefused] at hset

/-- A monitor is added in both networks, or it is one of the new part. -/
theorem addMonitor (hi : r'.Includes e config r)
    (hdots : ∀ dev ∈ net'.devices, '.' ∉ dev.name.toList)
    (hmonitors : ∀ o ∈ net.monitors, o < net.outputCount) (ref : OutputRef) :
    (r'.addMonitor ref).run.Includes e config (r.addMonitor ref).run := by
  have hrecorded : (r.addMonitor ref).run.WellRecorded := hi.recorded.perform h (.addMonitor ref)
  have hrecorded' : (r'.addMonitor ref).run.WellRecorded :=
    hi.recorded'.perform h' (.addMonitor ref)
  rcases e.output_cases h h' ref with ⟨fault, fault', hout, hout'⟩ | ⟨o, ho, hout, hout'⟩ |
    ⟨fault, o', hout, hout', ho', hne⟩
  · rw [run_addMonitor_of_error hout, run_addMonitor_of_error hout']
    exact hi
  · rw [e.output_eq] at hout'
    rw [run_addMonitor_of_ok hout] at hrecorded ⊢
    rw [run_addMonitor_of_ok hout'] at hrecorded' ⊢
    refine ⟨hi.corresponds.setMonitors _ _, ?_, hrecorded, hrecorded'⟩
    dsimp only
    rw [e.outputLabel_eq h h' ho, hi.corresponds.cycle]
    -- If the output is monitored already, in the extended network only, its trace goes back further.
    refine hi.monitors.add fun t' ht' => ?_
    rw [← e.outputLabel_eq h h' ho] at ht' ⊢
    rw [← hi.corresponds.cycle]
    exact hi.recorded'.extends_new h' hdots (e.lt_outputCount h h' ho) ht'
  · -- Only the extended network has the output, so its label is none of the old ones.
    rw [run_addMonitor_of_error hout]
    rw [run_addMonitor_of_ok hout'] at hrecorded' ⊢
    refine ⟨hi.corresponds.setMonitors _ _, hi.monitors.add_larger ?_ _ _, hi.recorded, hrecorded'⟩
    refine e.not_monitored h h' hdots hmonitors ho' fun hold => ?_
    exact hne o' (hmonitors o' hold) (e.output_eq o')

theorem removeMonitor (hi : r'.Includes e config r) (label : String) :
    (r'.removeMonitor label).run.Includes e config (r.removeMonitor label).run := by
  have hrecorded : (r.removeMonitor label).run.WellRecorded :=
    hi.recorded.perform h (.removeMonitor label)
  have hrecorded' : (r'.removeMonitor label).run.WellRecorded :=
    hi.recorded'.perform h' (.removeMonitor label)
  rw [run_removeMonitor] at hrecorded hrecorded' ⊢
  rw [run_removeMonitor]
  exact ⟨hi.corresponds.setMonitors _ _,
    hi.monitors.remove hi.recorded.nodup hi.recorded'.nodup label, hrecorded, hrecorded'⟩

end Requests

section Perform

variable (hn : net.AlwaysSettles config) (hn' : net'.AlwaysSettles config)
  (hdots : ∀ dev ∈ net'.devices, '.' ∉ dev.name.toList)
  (hmonitors : ∀ o ∈ net.monitors, o < net.outputCount)

include hn hn' hdots hmonitors

/-- **Every request** to both runs. -/
theorem perform (hi : r'.Includes e config r) (c : Command) :
    (r'.perform c).run.Includes e config (r.perform c).run := by
  have h := hn.wellFormed
  have h' := hn'.wellFormed
  cases c with
  | advance => exact hi.advance hn hn'
  | advanceBy n =>
    show (r'.advanceBy n).run.Includes e config (r.advanceBy n).run
    rw [run_advanceBy, run_advanceBy]
    exact hi.iterate_advance hn hn' n
  | reset =>
    obtain ⟨hintact, hintact'⟩ := hi.corresponds.intact
    show ({ r' with monitors := r'.monitors.clear 1 } : Run net').coldStart.1.Includes e config
      ({ r with monitors := r.monitors.clear 1 } : Run net).coldStart.1
    exact coldStart hn hn' hintact.config_eq hintact'.config_eq (hi.monitors.clear 1)
      (hi.recorded.perform h .reset) (hi.recorded'.perform h' .reset)
  | setSwitch name value => exact hi.setSwitch h h' name value
  | addMonitor ref => exact hi.addMonitor h h' hdots hmonitors ref
  | removeMonitor label => exact hi.removeMonitor h h' label

/-- **All requests** to both runs, and switches of the new part set in between. -/
theorem performAll {switch : String → Prop}
    (hswitch : ∀ name, switch name → net.device? name = none) (hi : r'.Includes e config r)
    {cs cs' : List Command} (hcs : Command.Interspersed switch cs cs') :
    (r'.performAll cs').Includes e config (r.performAll cs) := by
  induction hcs generalizing r r' with
  | nil => exact hi
  | both c _ ih => exact ih (hi.perform hn hn' hdots hmonitors c)
  | extra value hname _ ih =>
    exact ih (hi.setSwitch_larger hn.wellFormed hn'.wellFormed (hswitch _ hname) value)

end Perform

end Includes

/-! ## Extended descriptions -/

end Run

end SyncCircuit

import SyncCircuit.Proofs.Build.Passes
import SyncCircuit.Proofs.Build.Realization
import SyncCircuit.Proofs.Build.Subjects

/-!
# Allowing feedback

Loops of gates are reported by one pass in the middle of a build, and no other pass depends on what it
reports. So a build that allows feedback reports the rest, whatever else is wrong with the
description; and if nothing else is wrong, the loops reported without feedback are loops of the network
that is built with it.

## Main definitions

* `BuildError.isLoop`, `NoLoops` — errors about loops, and lists without any.
* `reported` — the errors of a build.
-/
namespace SyncCircuit

/-- Whether the error is about a loop of gates. -/
def BuildError.isLoop : BuildError → Bool
  | .combinationalCycle _ => true
  | _ => false

/-- The errors of a build. There are none if it succeeds. -/
def reported {α : Type} : Except BuildErrors α → List BuildError
  | .ok _ => []
  | .error e => e.errors

/-! ## Passes that report no loops -/

/-- None of the errors is about a loop of gates. -/
def NoLoops (es : List BuildError) : Prop := ∀ e ∈ es, e.isLoop = false

/-- Nothing is left out with the loops. -/
theorem NoLoops.filter_eq {es : List BuildError} (h : NoLoops es) : es.filter (! ·.isLoop) = es :=
  List.filter_eq_self.mpr fun e he => by rw [h e he, Bool.not_false]

theorem BuildError.isLoop_iff {e : BuildError} : e.isLoop = true ↔ e.subject = .loop := by
  cases e <;> simp [isLoop, subject]

theorem AllAbout.noLoops {s : Subject} {es : List BuildError} (h : AllAbout s es)
    (hs : s ≠ .loop) : NoLoops es := by
  intro e he
  rw [← Bool.not_eq_true, BuildError.isLoop_iff, h e he]
  exact hs

namespace Description

variable {d : Description}

theorem reported_build (d : Description) (options : BuildOptions) :
    reported (d.build options) = d.errors options := by
  rw [build]
  split
  case isTrue h => exact h.symm
  case isFalse h => rfl

/-- The builder that goes over the statements pass by pass reports the same. -/
theorem reported_builder (d : Description) (options : BuildOptions) :
    reported (Builder.build d options) = reported (d.build options) := by
  rw [Builder.build_eq]
  cases d.build options <;> rfl

/-- **Without the loops** the report is the one of a build that allows feedback. -/
theorem filter_errors (d : Description) :
    (d.errors {}).filter (! ·.isLoop) = d.errors { allowFeedback := true } := by
  have hloops : d.wiring.loopErrors.filter (! ·.isLoop) = [] := by
    rw [List.filter_eq_nil_iff]
    intro e he
    rw [BuildError.isLoop_iff.mpr (AllAbout.loopErrors _ e he)]
    exact Bool.false_ne_true
  have hdecl := (AllAbout.declarationErrors d.devices).noLoops Subject.noConfusion
  have hconn := (AllAbout.connectionErrors d.table d.connections).noLoops Subject.noConfusion
  have hopen := (AllAbout.openInputErrors d.wiring).noLoops Subject.noConfusion
  have hmonitors := (AllAbout.monitorErrors d.table d.monitors).noLoops Subject.noConfusion
  rw [errors, errors, if_neg Bool.false_ne_true, if_pos rfl]
  simp only [List.filter_append, hloops, hdecl.filter_eq, hconn.filter_eq, hopen.filter_eq,
    hmonitors.filter_eq]

/-- If nothing else is wrong, the report is about loops only. -/
theorem errors_eq_loopErrors (h : d.errors { allowFeedback := true } = []) :
    d.errors {} = d.wiring.loopErrors := by
  rw [errors, if_pos rfl, List.append_nil, List.append_eq_nil_iff] at h
  obtain ⟨hbefore, hmonitors⟩ := h
  rw [errors, hbefore, hmonitors, if_neg Bool.false_ne_true, List.nil_append, List.append_nil]

/-! ## Loops of the network -/

/-- The name of a declared device in the network. -/
theorem WellDeclared.deviceName_network (h : d.WellDeclared) {i : Nat} {name : String}
    {part : Instance} (hdecl : d.Declares i name part) : d.network.deviceName i = name := by
  rw [Network.deviceName, h.getElem?_devices_network hdecl]
  rfl

/-- **Loops that are reported** are loops of the network, under the names of their gates. -/
theorem WellConnected.exists_loop_of_mem_loopErrors (hc : d.WellConnected) (hd : d.WellDeclared)
    {e : BuildError} (he : e ∈ d.wiring.loopErrors) :
    ∃ loop, e = .combinationalCycle (loop.map d.network.deviceName) ∧
      Graph.IsLoop d.network.Feeds loop ∧
      ∀ i ∈ loop, ∃ part, d.Declares i (d.network.deviceName i) part ∧ part.component.isGate := by
  obtain ⟨loop, hmem, rfl⟩ := List.mem_map.mp he
  obtain ⟨hloop, hchosen⟩ :=
    Graph.isLoop_of_mem_findLoops (fun u _ w hw => (Table.lt_of_mem_dependents hw).2) hmem
  have hgates : ∀ i ∈ loop, ∃ part,
      d.Declares i (d.network.deviceName i) part ∧ part.component.isGate := by
    intro i hi
    obtain ⟨name, part, hdecl, hgate⟩ := hd.isGate_wiring_iff.mp (hchosen i hi).2
    exact ⟨part, hd.deviceName_network hdecl ▸ hdecl, hgate⟩
  refine ⟨loop, ?_, ?_, hgates⟩
  · rw [← List.filterMap_eq_map]
    refine congrArg BuildError.combinationalCycle (List.filterMap_congr fun i hi => ?_)
    obtain ⟨part, hdecl, -⟩ := hgates i hi
    have hentry := hd.getElem?_entries_eq_some_iff (e := ⟨_, some part⟩).mpr ⟨part, hdecl, rfl⟩
    rw [show d.wiring.table = d.table from rfl, hentry]
    rfl
  · refine hloop.mono fun u w hedge => (hc.feeds_network_iff hd).mpr ?_
    obtain ⟨-, hu, huw, hw⟩ := hedge
    exact ⟨hd.isGate_wiring_iff.mp hu, hd.isGate_wiring_iff.mp hw, (hc.mem_dependents_iff hd).mp huw⟩

/-- **Allowing feedback takes the loops out of the report**, and nothing else. The builder that goes
over the statements pass by pass reports and builds what the description says. The errors that are
about no loop are the same with and without feedback, for every description. If both builds succeed,
the networks are the same; and if only the one with feedback does, the gates of its network form a
loop, and every error of the other build names such a loop of declared gates. -/
theorem feedback_removes_loop_errors (d : Description) :
    (∀ options, Builder.build d options = (d.build options).map Network.tables) ∧
    (reported (d.build {})).filter (! ·.isLoop) = reported (d.build { allowFeedback := true }) ∧
    (∀ net net', d.build {} = .ok net → d.build { allowFeedback := true } = .ok net' → net = net') ∧
    ∀ e net, d.build {} = .error e → d.build { allowFeedback := true } = .ok net →
      (∃ loop, Graph.IsLoop net.Feeds loop) ∧
      ∀ err ∈ e.errors, ∃ loop, err = .combinationalCycle (loop.map net.deviceName) ∧
        Graph.IsLoop net.Feeds loop ∧
        ∀ i ∈ loop, ∃ part, d.Declares i (net.deviceName i) part ∧ part.component.isGate := by
  refine ⟨Builder.build_eq d, ?_, fun net net' hnet hnet' => ?_, fun e net he hnet => ?_⟩
  · rw [reported_build, reported_build, filter_errors]
  · rw [(build_eq_ok_iff.mp hnet).2, (build_eq_ok_iff.mp hnet').2]
  · have herrors : e.errors = d.wiring.loopErrors := by
      rw [← errors_eq_loopErrors ((reported_build d _).symm.trans (congrArg reported hnet)),
        ← reported_build, he]
      rfl
    obtain ⟨hvalid, rfl⟩ := build_eq_ok_iff.mp hnet
    have hloops := fun err herr => hvalid.toWellConnected.exists_loop_of_mem_loopErrors
      hvalid.toWellDeclared (e := err) (herrors ▸ herr)
    obtain ⟨err, herr⟩ := List.exists_mem_of_ne_nil _ e.errors_ne_nil
    obtain ⟨loop, -, hloop, -⟩ := hloops err herr
    exact ⟨⟨loop, hloop⟩, hloops⟩

/-- Two gates that drive each other, one of which drives itself as well. -/
def latch : Description where
  devices := [⟨"S", .switch, some 0⟩, ⟨"A", .gate .nor, some 2⟩, ⟨"B", .gate .nor, some 2⟩]
  connections := [⟨⟨"S", none⟩, ⟨"A", "I1"⟩⟩, ⟨⟨"B", none⟩, ⟨"A", "I2"⟩⟩,
    ⟨⟨"A", none⟩, ⟨"B", "I1"⟩⟩, ⟨⟨"B", none⟩, ⟨"B", "I2"⟩⟩]
  monitors := [⟨"A", none⟩]

theorem feedback_latch_and_inverter :
    (∃ e net, latch.build {} = .error e ∧ latch.build { allowFeedback := true } = .ok net ∧
      e.errors = [.combinationalCycle ["A", "B", "A"], .combinationalCycle ["B", "B"]] ∧
      (∃ loop, Graph.IsLoop net.Feeds loop) ∧
      ∀ err ∈ e.errors, ∃ loop, err = .combinationalCycle (loop.map net.deviceName) ∧
        Graph.IsLoop net.Feeds loop) ∧
    ∃ net net', inverter.build {} = .ok net ∧
      inverter.build { allowFeedback := true } = .ok net' ∧ net = net' := by
  obtain ⟨-, -, -, hlatch⟩ := feedback_removes_loop_errors latch
  obtain ⟨-, -, hinverter, -⟩ := feedback_removes_loop_errors inverter
  obtain ⟨hloop, hnamed⟩ := hlatch _ latch.network rfl rfl
  refine ⟨⟨_, latch.network, rfl, rfl, by decide, hloop, fun err herr => ?_⟩,
    inverter.network, inverter.network, rfl, rfl, hinverter _ _ rfl rfl⟩
  obtain ⟨loop, herr, hloop, -⟩ := hnamed err herr
  exact ⟨loop, herr, hloop⟩

-- The loops are reported behind what is wrong with the connections and before the monitors.
example :
    let unknown : Connection := ⟨⟨"X", none⟩, ⟨"A", "I3"⟩⟩
    let d : Description :=
      { latch with connections := unknown :: latch.connections, monitors := [⟨"S", some "Q"⟩] }
    (reported (d.build {})).map (·.name) = ["UnknownDeviceReference", "InvalidPinReference",
      "CombinationalCycle", "CombinationalCycle", "InvalidMonitorTarget"] := by
  decide

end Description

end SyncCircuit

import SyncCircuit.Proofs.Run.Monitoring

/-!
# Monitors by label

A run keeps its monitors under the labels of their outputs. Labels stand for outputs, so all that a
network asks for is monitored from the start, no output is monitored twice, and what is removed under
the text of a reference is what was added under the reference (`Run.WellRecorded.removeMonitor`).
-/
namespace SyncCircuit

/-! ## Monitors -/

namespace Monitors

variable {m : Monitors} {label : String}

/-- Removing a label in use takes out the one trace that has it. -/
theorem exists_remove? (hnodup : m.labels.Nodup) (hmem : label ∈ m.labels) :
    ∃ before t after, m.traces = before ++ t :: after ∧ t.label = label ∧
      (∀ u ∈ before ++ after, u.label ≠ label) ∧
      m.remove? label = some (t, { m with traces := before ++ after }) := by
  obtain ⟨t, ht, hlabel⟩ := List.mem_map.mp hmem
  obtain ⟨before, after, htraces⟩ := List.append_of_mem ht
  have hothers : ∀ u ∈ before ++ after, u.label ≠ label := by
    rw [labels, htraces, List.map_append, List.map_cons, List.nodup_middle, ← List.map_append,
      List.nodup_cons, hlabel] at hnodup
    exact fun u hu heq => hnodup.1 (List.mem_map.mpr ⟨u, hu, heq⟩)
  have hbefore : ∀ u ∈ before, ¬ (u.label == label) = true := fun u hu heq =>
    hothers u (List.mem_append_left _ hu) (beq_iff_eq.mp heq)
  have hhead : (t :: after).eraseP (·.label == label) = after :=
    List.eraseP_cons_of_pos (beq_iff_eq.mpr hlabel)
  have herase : m.traces.eraseP (·.label == label) = before ++ after := by
    rw [htraces, List.eraseP_append_right _ hbefore, hhead]
  refine ⟨before, t, after, htraces, hlabel, hothers, ?_⟩
  rw [remove?, ← hlabel, find?_of_nodup hnodup ht, hlabel, herase]
  rfl

/-- Removing the last trace gives the others back. -/
theorem remove?_concat {t : Trace} (h : t.label ∉ m.labels) :
    ({ m with traces := m.traces ++ [t] } : Monitors).remove? t.label = some (t, m) := by
  have hothers : ∀ u ∈ m.traces, ¬ (u.label == t.label) = true := fun u hu heq =>
    h (List.mem_map.mpr ⟨u, hu, beq_iff_eq.mp heq⟩)
  have hlast : [t].eraseP (·.label == t.label) = [] :=
    List.eraseP_cons_of_pos (beq_self_eq_true _)
  have hfind : ({ m with traces := m.traces ++ [t] } : Monitors).find? t.label = some t := by
    rw [find?, List.find?_append, List.find?_eq_none.mpr hothers, Option.none_or,
      List.find?_singleton, if_pos (beq_self_eq_true _)]
  rw [remove?, hfind, List.eraseP_append_right _ hothers, hlast, List.append_nil]
  rfl

/-- Outputs with labels of their own are all recorded. -/
theorem traces_initialMonitors {net : Network} (bound : Option Nat)
    (hnodup : (net.monitors.map net.outputLabel).Nodup) :
    Run.initialMonitors net bound =
      ⟨net.monitors.map fun o => ⟨net.outputLabel o, o, 1, #[]⟩, bound⟩ := by
  have hlabels : ∀ t ∈ net.monitors.map (fun o => (⟨net.outputLabel o, o, 1, #[]⟩ : Trace)),
      t.label = net.outputLabel t.output := by
    intro t ht
    obtain ⟨o, -, rfl⟩ := List.mem_map.mp ht
    rfl
  have hadd := foldl_add? (m := ⟨[], bound⟩) hlabels (by rw [List.map_map]; exact hnodup)
  rw [List.map_map, List.map_map] at hadd
  have hid : ((fun t : Trace => t.output) ∘ fun o => (⟨net.outputLabel o, o, 1, #[]⟩ : Trace)) =
      id := rfl
  rw [hid, List.map_id] at hadd
  exact hadd

end Monitors

namespace Run

variable {net : Network} {r : Run net} {label : String}

/-! ## Labels in use -/

theorem labels_advance (r : Run net) : r.advance.run.monitors.labels = r.monitors.labels := by
  obtain ⟨phase, failure, hrun⟩ | ⟨passes, state, -, hrun⟩ := r.run_advance_cases
  · rw [hrun]
  · rw [hrun]
    exact Monitors.labels_record _ _

/-- A label stays in use until it is removed. -/
theorem mem_labels_perform (hmem : label ∈ r.monitors.labels) {c : Command}
    (hc : c ≠ .removeMonitor label) : label ∈ (r.perform c).run.monitors.labels := by
  cases c with
  | advance => exact r.labels_advance ▸ hmem
  | advanceBy n =>
    show label ∈ (r.advanceBy n).run.monitors.labels
    rw [run_advanceBy]
    exact Function.Iterate.rec (fun r : Run net => label ∈ r.monitors.labels) hmem
      (fun r hr => r.labels_advance ▸ hr) n
  | reset =>
    show label ∈ ({ r with monitors := r.monitors.clear 1 } : Run net).coldStart.1.monitors.labels
    rw [monitors_coldStart, Monitors.labels_clear]
    exact hmem
  | setSwitch name value =>
    obtain ⟨state, hrun⟩ := r.exists_run_setSwitch name value
    show label ∈ (r.setSwitch name value).run.monitors.labels
    rw [hrun]
    exact hmem
  | addMonitor ref =>
    show label ∈ (r.addMonitor ref).run.monitors.labels
    rcases r.addMonitor_cases ref with ⟨e, hrun⟩ | ⟨o, monitors, -, hadd, hrun⟩
    · rw [hrun]
      exact hmem
    · rw [hrun]
      dsimp only
      rw [Monitors.labels_add? hadd]
      exact List.mem_append_left _ hmem
  | removeMonitor other =>
    have hne : other ≠ label := fun heq => hc (heq ▸ rfl)
    show label ∈ (r.removeMonitor other).run.monitors.labels
    rw [run_removeMonitor, Monitors.getD_remove?]
    obtain ⟨t, ht, hlabel⟩ := List.mem_map.mp hmem
    have hkept : t ∈ r.monitors.traces.eraseP (·.label == other) :=
      (List.mem_eraseP_of_neg (p := (·.label == other)) fun heq =>
        hne ((beq_iff_eq.mp heq).symm.trans hlabel)).mpr ht
    exact List.mem_map.mpr ⟨t, hkept, hlabel⟩

theorem mem_labels_performAll (hmem : label ∈ r.monitors.labels) {cs : List Command}
    (hcs : .removeMonitor label ∉ cs) : label ∈ (r.performAll cs).monitors.labels := by
  induction cs generalizing r with
  | nil => exact hmem
  | cons c cs ih =>
    rw [List.mem_cons, not_or] at hcs
    exact ih (mem_labels_perform hmem (Ne.symm hcs.1)) hcs.2

/-! ## Adding and removing -/

/-- The labels of a run are the texts of references to its outputs. -/
theorem WellRecorded.nodup_outputs (hr : r.WellRecorded) :
    (r.monitors.traces.map (·.output)).Nodup := by
  have hlabels : r.monitors.labels = (r.monitors.traces.map (·.output)).map net.outputLabel := by
    rw [Monitors.labels, List.map_map]
    exact List.map_congr_left fun t ht => hr.label_eq ht
  exact (hlabels ▸ hr.nodup).of_map _

/-- **Removing under the text of a reference** takes out the trace of its output, and nothing else. -/
theorem WellRecorded.removeMonitor (hr : r.WellRecorded) (h : net.WellFormed)
    (hdots : ∀ dev ∈ net.devices, '.' ∉ dev.name.toList) {ref : OutputRef} {o : Nat}
    (hout : net.output ref = .ok o) (hmem : ref.text ∈ r.monitors.labels) :
    ∃ before t after, r.monitors.traces = before ++ t :: after ∧ t.output = o ∧
      t.label = ref.text ∧ (∀ u ∈ before ++ after, u.output ≠ o) ∧
      r.removeMonitor ref.text =
        ⟨.ok t, { r with monitors := { r.monitors with traces := before ++ after } },
          #[.stoppedMonitoring ref.text]⟩ := by
  obtain ⟨before, t, after, htraces, hlabel, hothers, hremove⟩ :=
    Monitors.exists_remove? hr.nodup hmem
  have htext := h.text_eq_outputLabel hout
  have ht : t ∈ r.monitors.traces := htraces ▸ List.mem_append_cons_self
  refine ⟨before, t, after, htraces, ?_, hlabel, fun u hu heq => hothers u hu ?_, ?_⟩
  · exact h.outputLabel_inj hdots (hr.outputs t ht) (h.output_lt_of_eq_ok hout)
      ((hr.label_eq ht).symm.trans (hlabel.trans htext))
  · have hu' : u ∈ r.monitors.traces := by
      rw [htraces]
      exact List.mem_append.mpr ((List.mem_append.mp hu).imp_right (List.mem_cons_of_mem t))
    rw [hr.label_eq hu', heq, htext]
  · rw [Run.removeMonitor, hremove]

/-- What is added is under the text of its reference. -/
theorem addMonitor_of_ok (h : net.WellFormed) {ref : OutputRef}
    (hok : (r.addMonitor ref).answer = .ok ()) :
    ∃ o, net.output ref = .ok o ∧ ref.text ∉ r.monitors.labels ∧
      (r.addMonitor ref).run = { r with monitors :=
        { r.monitors with traces := r.monitors.traces ++ [⟨ref.text, o, r.cycle + 1, #[]⟩] } } := by
  rcases r.addMonitor_cases ref with ⟨e, hrun⟩ | ⟨o, monitors, hout, hadd, hrun⟩
  · rw [hrun] at hok
    cases hok
  · rw [← h.text_eq_outputLabel hout] at hadd
    obtain ⟨hnew, hbound, htraces⟩ := Monitors.add?_cases hadd
    obtain ⟨traces, bound⟩ := monitors
    subst hbound htraces
    exact ⟨o, hout, hnew, by rw [hrun]⟩

/-- **Labels identify outputs** of a built network: different outputs have different labels, a label
read as a reference names its output, and whatever reference names an output is displayed as its
label and read back from there.

So a new run monitors all that its description asks for, in this order, although it would pass over
a label in use. However a run goes on, its monitored outputs are different and each is kept under its
label. Removing right after adding gives back the run from before. Removing later takes out the one
trace of the output and leaves the others in order, whatever has happened in between but for a removal
of this label. -/
theorem build_labels_identify_outputs (d : Description) (options : BuildOptions) (net : Network)
    (hb : d.build options = .ok net) :
    (∀ o < net.outputCount, ∀ p < net.outputCount, net.outputLabel o = net.outputLabel p → o = p) ∧
    (∀ o < net.outputCount, net.output (.ofText (net.outputLabel o)) = .ok o) ∧
    (∀ ref o, net.output ref = .ok o →
      o < net.outputCount ∧ ref.text = net.outputLabel o ∧ OutputRef.ofText ref.text = ref) ∧
    ∀ config,
      (start net config).1.monitors.traces =
        net.monitors.map (fun o => ⟨net.outputLabel o, o, 1, #[]⟩) ∧
      List.Forall₂ (fun ref t => net.output ref = .ok t.output ∧ t.label = ref.text)
        d.monitors (start net config).1.monitors.traces ∧
      ∀ cs,
        let r := (start net config).1.performAll cs
        (r.monitors.traces.map (·.output)).Nodup ∧
        (∀ t ∈ r.monitors.traces, t.output < net.outputCount ∧ t.label = net.outputLabel t.output) ∧
        ∀ ref, (r.addMonitor ref).answer = .ok () →
          ∃ o, net.output ref = .ok o ∧ (∀ t ∈ r.monitors.traces, t.output ≠ o) ∧
          (r.addMonitor ref).run.removeMonitor ref.text =
            ⟨.ok ⟨ref.text, o, r.cycle + 1, #[]⟩, r, #[.stoppedMonitoring ref.text]⟩ ∧
          ∀ later, .removeMonitor ref.text ∉ later →
            let u := (r.addMonitor ref).run.performAll later
            ∃ before t after, u.monitors.traces = before ++ t :: after ∧ t.output = o ∧
              t.label = ref.text ∧ (∀ t' ∈ before ++ after, t'.output ≠ o) ∧
              u.removeMonitor ref.text =
                ⟨.ok t, { u with monitors := { u.monitors with traces := before ++ after } },
                  #[.stoppedMonitoring ref.text]⟩ := by
  have h := Description.build_wellFormed hb
  have hdots := Description.build_noDots hb
  have hmonitors := Description.build_monitors_lt hb
  obtain ⟨hv, hnet⟩ := Description.build_eq_ok_iff.mp hb
  refine ⟨fun o ho p hp => h.outputLabel_inj hdots ho hp,
    fun o ho => h.output_ofText_outputLabel hdots ho, fun ref o hout => ?_, fun config => ?_⟩
  · exact ⟨h.output_lt_of_eq_ok hout, h.text_eq_outputLabel hout,
      OutputRef.ofText_text (Network.not_mem_device_of_output hdots hout)⟩
  have hstart : (start net config).1.monitors.traces =
      net.monitors.map (fun o => ⟨net.outputLabel o, o, 1, #[]⟩) := by
    have hnodup : net.monitors.Nodup := hnet ▸ nodup_eraseDups _
    have hlabels : (net.monitors.map net.outputLabel).Nodup :=
      hnodup.map_on fun o ho p hp => h.outputLabel_inj hdots (hmonitors o ho) (hmonitors p hp)
    rw [monitors_start, Monitors.traces_initialMonitors _ hlabels]
  refine ⟨hstart, ?_, fun cs => ?_⟩
  · have hrefs : List.Forall₂ (fun ref o => net.output ref = .ok o) d.monitors net.monitors :=
      hnet ▸ hv.forall₂_output_monitors
    rw [hstart, List.forall₂_map_right_iff]
    exact hrefs.imp fun ref o hout => ⟨hout, (h.text_eq_outputLabel hout).symm⟩
  have hr := (WellRecorded.start hmonitors config).performAll h cs
  dsimp only
  generalize (start net config).1.performAll cs = r at hr ⊢
  refine ⟨hr.nodup_outputs, fun t ht => ⟨hr.outputs t ht, hr.label_eq ht⟩, fun ref hok => ?_⟩
  obtain ⟨o, hout, hnew, hadd⟩ := addMonitor_of_ok h hok
  have hused : ref.text ∈ (r.addMonitor ref).run.monitors.labels := by
    rw [hadd, Monitors.labels, List.map_append]
    exact List.mem_append_right _ (List.mem_singleton_self _)
  have hadded : (r.addMonitor ref).run.WellRecorded := hr.perform h (.addMonitor ref)
  refine ⟨o, hout, fun t ht heq => ?_, ?_, fun later hlater => ?_⟩
  · refine hnew (List.mem_map.mpr ⟨t, ht, ?_⟩)
    rw [hr.label_eq ht, heq, h.text_eq_outputLabel hout]
  · have hremove := Monitors.remove?_concat (t := ⟨ref.text, o, r.cycle + 1, #[]⟩) hnew
    rw [hadd, Run.removeMonitor, hremove]
  · exact (hadded.performAll h later).removeMonitor h hdots hout
      (mem_labels_performAll hused hlater)

theorem latchAndRing_labels_identify_outputs :
    let net := latchAndRing.network
    let r := (start net {}).1.performAll [.addMonitor ⟨"A", none⟩, .advance]
    let ref : OutputRef := ⟨"F", some "QBAR"⟩
    let later : List Command := [.addMonitor ⟨"F", some "Q"⟩, .removeMonitor "N", .reset, .advance]
    let u := (r.addMonitor ref).run.performAll later
    latchAndRing.build { allowFeedback := true } = .ok net ∧
    net.output (.ofText (net.outputLabel 4)) = .ok 4 ∧ net.outputLabel 4 = "F.QBAR" ∧
    net.output ref = .ok 4 ∧ ref.text = "F.QBAR" ∧ OutputRef.ofText ref.text = ref ∧
    (start net {}).1.monitors.traces = [⟨"N", 5, 1, #[]⟩] ∧
    (r.monitors.traces.map (·.output)).Nodup ∧ u.monitors.labels = ["A", "F.QBAR", "F.Q"] ∧
    ∃ before t after, u.monitors.traces = before ++ t :: after ∧ t.output = 4 ∧
      t.label = ref.text ∧ (∀ t' ∈ before ++ after, t'.output ≠ 4) ∧
      (u.removeMonitor ref.text).run.monitors.traces = before ++ after := by
  dsimp only
  have hb : latchAndRing.build { allowFeedback := true } = .ok latchAndRing.network := rfl
  obtain ⟨-, hlabels, hrefs, hruns⟩ := build_labels_identify_outputs latchAndRing _ _ hb
  have hout : latchAndRing.network.output ⟨"F", some "QBAR"⟩ = .ok 4 := by decide +kernel
  obtain ⟨hlt, htext, hread⟩ := hrefs _ _ hout
  obtain ⟨hstart, -, hlater⟩ := hruns {}
  obtain ⟨hnodup, -, hmonitor⟩ := hlater [.addMonitor ⟨"A", none⟩, .advance]
  obtain ⟨o, hout', -, -, hremove⟩ := hmonitor ⟨"F", some "QBAR"⟩ (by decide +kernel)
  obtain rfl := Except.ok.inj (hout.symm.trans hout')
  obtain ⟨before, t, after, htraces, houtput, hlabel, hothers, hstep⟩ :=
    hremove [.addMonitor ⟨"F", some "Q"⟩, .removeMonitor "N", .reset, .advance] (by decide)
  refine ⟨hb, hlabels 4 hlt, htext.symm, hout, rfl, hread, hstart.trans (by decide +kernel), hnodup,
    by decide +kernel, before, t, after, htraces, houtput, hlabel, hothers, ?_⟩
  rw [hstep]

end Run

end SyncCircuit

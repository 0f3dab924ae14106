import SyncCircuit.Proofs.Build.Containment

/-!
# Monitored outputs of a description

A monitor is one more statement of a description. It is acceptable exactly if it names an output that
is not monitored yet, and then the network has the same devices and one more monitor, the output that
the network itself finds under the reference.

## Main definitions

* `Description.monitoring` — a description that asks for further monitors.
-/
namespace SyncCircuit.Description

variable {d : Description} {options : BuildOptions} {r : OutputRef}

/-- The description with further monitors behind its own. -/
def monitoring (d : Description) (refs : List OutputRef) : Description :=
  { d with monitors := d.monitors ++ refs }

theorem monitoring_nil (d : Description) : d.monitoring [] = d := by
  rw [monitoring, List.append_nil]

theorem monitoring_cons (d : Description) (r : OutputRef) (refs : List OutputRef) :
    d.monitoring (r :: refs) = (d.monitor r).monitoring refs := by
  rw [monitoring, monitoring, monitor, List.append_assoc, List.singleton_append]

/-- Monitors can be left out at the end. -/
theorem Valid.of_monitoring {refs : List OutputRef} (h : (d.monitoring refs).Valid options) :
    d.Valid options where
  toWellDeclared := ⟨h.names, h.distinct, h.parameters⟩
  toWellConnected := ⟨h.sources, h.targets, h.driven⟩
  monitored :=
    ⟨fun r hr => h.monitored.outputs r (List.mem_append_left _ hr),
      (List.pairwise_append.mp h.monitored.distinct).1⟩
  loopFree := h.loopFree

/-- One more monitor has to name an output that none of the others names. -/
theorem Valid.monitor_iff (h : d.Valid options) : (d.monitor r).Valid options ↔
    ∃ pin, d.NamesOutput r pin ∧ ∀ r' ∈ d.monitors, ¬ d.NamesOutput r' pin := by
  constructor
  · intro h'
    obtain ⟨pin, hpin⟩ := h'.monitored.outputs r (List.mem_append_right _ (List.mem_singleton_self r))
    have hdistinct := (List.pairwise_append.mp h'.monitored.distinct).2.2
    exact ⟨pin, hpin, fun r' hr' hsame => hdistinct r' hr' r (List.mem_singleton_self r) pin hsame hpin⟩
  · rintro ⟨pin, hpin, hnew⟩
    refine ⟨⟨h.names, h.distinct, h.parameters⟩, ⟨h.sources, h.targets, h.driven⟩, ⟨?_, ?_⟩,
      h.loopFree⟩
    · intro r' hr'
      rcases List.mem_append.mp hr' with hr' | hr'
      · exact h.monitored.outputs r' hr'
      · rw [List.mem_singleton.mp hr']
        exact ⟨pin, hpin⟩
    · refine List.pairwise_append.mpr ⟨h.monitored.distinct, List.pairwise_singleton _ _, ?_⟩
      intro r' hr' r'' hr'' pin' hpin' hsame
      -- The reference names one output only.
      rw [List.mem_singleton.mp hr''] at hsame
      have hfound := h.toWellDeclared.resolveOutput_eq_found_iff.mpr hpin
      rw [h.toWellDeclared.resolveOutput_eq_found_iff.mpr hsame, Resolution.found.injEq] at hfound
      exact hnew r' hr' (hfound ▸ hpin')

/-! ## In the network -/

/-- The network finds under a reference the output that the description names. -/
theorem Valid.output_network_eq_ok_iff (h : d.Valid options) {o : Nat} :
    d.network.output r = .ok o ↔ ∃ pin, d.NamesOutput r pin ∧ o = d.table.outputNumber pin := by
  have hd := h.toWellDeclared
  rw [Network.output_eq_ok_iff]
  constructor
  · rintro ⟨dev, k, hdev, hoffset, rfl⟩
    have hname : dev.name = r.device := by simpa using List.find?_some hdev
    obtain ⟨i, hi⟩ := List.mem_iff_getElem?.mp (List.mem_of_find?_eq_some hdev)
    obtain ⟨name, part, hdecl, rfl⟩ := hd.getElem?_devices_network_eq_some_iff.mp hi
    exact ⟨⟨i, k⟩, ⟨part, hname ▸ hdecl, Component.outputOffset_eq_ok_iff.mp hoffset⟩, rfl⟩
  · rintro ⟨pin, ⟨part, hdecl, houtput⟩, rfl⟩
    have hi := hd.getElem?_devices_network hdecl
    have hdev := (h.toWellConnected.wellFormed_network hd).device?_name hi
    exact ⟨_, pin.position, hdev, Component.outputOffset_eq_ok_iff.mpr houtput, rfl⟩

/-- The network finds its own monitors under the references that ask for them, in order. -/
theorem Valid.forall₂_output_monitors (h : d.Valid options) :
    List.Forall₂ (fun r o => d.network.output r = .ok o) d.monitors d.network.monitors := by
  have hd := h.toWellDeclared
  rw [hd.monitors_network_eq h.monitored]
  refine forall₂_filterMap fun r hr => ?_
  obtain ⟨pin, hpin⟩ := h.monitored.outputs r hr
  refine ⟨d.table.outputNumber pin, ?_, h.output_network_eq_ok_iff.mpr ⟨pin, hpin, rfl⟩⟩
  rw [hd.resolveOutput_eq_found_iff.mpr hpin]
  rfl

/-- The network monitors the named outputs. -/
theorem Valid.mem_monitors_network_iff (h : d.Valid options) {pin : Pin}
    (hpin : d.NamesOutput r pin) :
    d.table.outputNumber pin ∈ d.network.monitors ↔ ∃ r' ∈ d.monitors, d.NamesOutput r' pin := by
  have hd := h.toWellDeclared
  rw [hd.monitors_network_eq h.monitored, List.mem_filterMap]
  refine exists_congr fun r' => and_congr_right fun hr' => ?_
  obtain ⟨pin', hpin'⟩ := h.monitored.outputs r' hr'
  rw [hd.resolveOutput_eq_found_iff.mpr hpin']
  constructor
  · intro ho
    have ho' := hd.getElem?_outputs_network hpin'
    rw [Option.some.inj ho, hd.getElem?_outputs_network hpin] at ho'
    exact Option.some.inj ho' ▸ hpin'
  · intro hsame
    have hfound := hd.resolveOutput_eq_found_iff.mpr hpin'
    rw [hd.resolveOutput_eq_found_iff.mpr hsame, Resolution.found.injEq] at hfound
    rw [hfound]
    rfl

/-- **One more monitor** is accepted exactly if the network finds an output under its reference that
it does not monitor yet. -/
theorem Valid.monitor_iff_output (h : d.Valid options) : (d.monitor r).Valid options ↔
    ∃ o, d.network.output r = .ok o ∧ o ∉ d.network.monitors := by
  rw [h.monitor_iff]
  constructor
  · rintro ⟨pin, hpin, hnew⟩
    refine ⟨_, h.output_network_eq_ok_iff.mpr ⟨pin, hpin, rfl⟩, fun hmem => ?_⟩
    obtain ⟨r', hr', hsame⟩ := (h.mem_monitors_network_iff hpin).mp hmem
    exact hnew r' hr' hsame
  · rintro ⟨o, ho, hmem⟩
    obtain ⟨pin, hpin, rfl⟩ := h.output_network_eq_ok_iff.mp ho
    exact ⟨pin, hpin, fun r' hr' hsame =>
      hmem ((h.mem_monitors_network_iff hpin).mpr ⟨r', hr', hsame⟩)⟩

/-- The network then monitors that output last, and is the same otherwise. -/
theorem Valid.network_monitor (h : d.Valid options) (h' : (d.monitor r).Valid options) {o : Nat}
    (ho : d.network.output r = .ok o) :
    (d.monitor r).network = { d.network with monitors := d.network.monitors ++ [o] } := by
  have hd := h.toWellDeclared
  obtain ⟨pin, hpin, rfl⟩ := h.output_network_eq_ok_iff.mp ho
  have hwithin : d.Within (d.monitor r) id := ⟨fun _ _ hc => hc, fun _ hc => hc⟩
  have hmonitors := hwithin.monitors_network hd h.monitored h'.toWellDeclared h'.monitored
    (fun _ _ => (rfl : id _ = _)) (rfl : (d.monitor r).monitors = d.monitors ++ [r])
  have hlast : [r].filterMap (fun r' =>
      ((d.monitor r).table.resolveOutput r').pin?.map (d.monitor r).table.outputNumber) =
      [d.table.outputNumber pin] := by
    refine List.filterMap_cons_some ?_
    rw [h'.toWellDeclared.resolveOutput_eq_found_iff.mpr hpin]
    rfl
  rw [hlast, List.map_id] at hmonitors
  rw [← hmonitors]
  rfl

end SyncCircuit.Description

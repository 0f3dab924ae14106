import SyncCircuit.Proofs.Build.Realization
import SyncCircuit.Proofs.Network.Embedding

/-!
# Descriptions inside descriptions

A description contains another one if it makes all its declarations and connections, perhaps at other
places in its lists. What a reference names then is the same device, at its new place. If both
descriptions are valid, every input keeps its driver, for it has no other one; so the network of the
smaller description sits inside that of the larger one.

## Main definitions

* `Description.Within` — one description contains another.
* `Description.Within.embedding` — so does its network.
-/
namespace SyncCircuit

/-- The same pin of the device at another place. -/
def Pin.at (place : Nat → Nat) (pin : Pin) : Pin := ⟨place pin.device, pin.position⟩

namespace Description

variable {d d' : Description} {place : Nat → Nat}

/-- The declarations of a description are at these places in another one, which also makes its
connections. -/
structure Within (d d' : Description) (place : Nat → Nat) : Prop where
  devices : ∀ (i : Nat) (c : Declaration), d.devices[i]? = some c → d'.devices[place i]? = some c
  connections : ∀ c ∈ d.connections, c ∈ d'.connections

/-- An output pin of a declared device. -/
def IsOutput (d : Description) (pin : Pin) : Prop :=
  ∃ name part, d.Declares pin.device name part ∧ pin.position < part.component.outputCount

theorem NamesOutput.isOutput {r : OutputRef} {pin : Pin} (h : d.NamesOutput r pin) :
    d.IsOutput pin := by
  obtain ⟨part, hdecl, houtput⟩ := h
  exact ⟨r.device, part, hdecl, houtput.lt_outputCount⟩

theorem WellDeclared.getElem?_outputs_of_isOutput (h : d.WellDeclared) {pin : Pin}
    (hpin : d.IsOutput pin) : d.network.outputs[d.table.outputNumber pin]? = some pin := by
  obtain ⟨name, part, hdecl, hlt⟩ := hpin
  rw [Network.getElem?_outputs_eq_some_iff, h.outputsBefore_network]
  exact ⟨_, h.getElem?_devices_network hdecl, hlt, rfl⟩

/-- Monitors are outputs of the network. -/
theorem Valid.monitors_lt {options : BuildOptions} (h : d.Valid options) :
    ∀ o ∈ d.network.monitors, o < d.network.outputCount := by
  intro o ho
  rw [h.toWellDeclared.monitors_network_eq h.monitored, List.mem_filterMap] at ho
  obtain ⟨r, hr, ho⟩ := ho
  obtain ⟨pin, hpin⟩ := h.monitored.outputs r hr
  rw [h.toWellDeclared.resolveOutput_eq_found_iff.mpr hpin] at ho
  obtain rfl := Option.some.inj ho
  exact (List.getElem?_eq_some_iff.mp (h.toWellDeclared.getElem?_outputs_network hpin)).1

theorem build_monitors_lt {options : BuildOptions} {net : Network} (h : d.build options = .ok net) :
    ∀ o ∈ net.monitors, o < net.outputCount := by
  obtain ⟨hvalid, rfl⟩ := build_eq_ok_iff.mp h
  exact hvalid.monitors_lt

namespace Within

/-! ## References -/

theorem declares (h : d.Within d' place) {i : Nat} {name : String} {part : Instance}
    (hdecl : d.Declares i name part) : d'.Declares (place i) name part := by
  obtain ⟨c, hc, hname, hpart⟩ := hdecl
  exact ⟨c, h.devices i c hc, hname, hpart⟩

theorem namesOutput (h : d.Within d' place) {r : OutputRef} {pin : Pin}
    (hr : d.NamesOutput r pin) : d'.NamesOutput r (pin.at place) := by
  obtain ⟨part, hdecl, houtput⟩ := hr
  exact ⟨part, h.declares hdecl, houtput⟩

theorem namesInput (h : d.Within d' place) {r : InputRef} {pin : Pin}
    (hr : d.NamesInput r pin) : d'.NamesInput r (pin.at place) := by
  obtain ⟨part, hdecl, hinput⟩ := hr
  exact ⟨part, h.declares hdecl, hinput⟩

theorem isInput (h : d.Within d' place) {pin : Pin} (hpin : d.IsInput pin) :
    d'.IsInput (pin.at place) := by
  obtain ⟨name, part, hdecl, hlt⟩ := hpin
  exact ⟨name, part, h.declares hdecl, hlt⟩

/-- The declaration at a place is the one from there. -/
theorem namesInput_iff (h : d.Within d' place) {r : InputRef} {pin : Pin} (hpin : d.IsInput pin) :
    d'.NamesInput r (pin.at place) ↔ d.NamesInput r pin := by
  refine ⟨fun hr => ?_, h.namesInput⟩
  obtain ⟨name, part, hdecl, -⟩ := hpin
  obtain ⟨part', hdecl', hinput⟩ := hr
  obtain ⟨rfl, rfl⟩ := (h.declares hdecl).unique hdecl'
  exact ⟨part, hdecl, hinput⟩

theorem isGate (h : d.Within d' place) {i : Nat} (hi : d.IsGate i) : d'.IsGate (place i) := by
  obtain ⟨name, part, hdecl, hgate⟩ := hi
  exact ⟨name, part, h.declares hdecl, hgate⟩

theorem feeds (h : d.Within d' place) {i j : Nat} (hij : d.Feeds i j) :
    d'.Feeds (place i) (place j) := by
  obtain ⟨hi, hj, k, c, source, target, hk, hsource, htarget, rfl, rfl⟩ := hij
  obtain ⟨k', hk'⟩ := List.mem_iff_getElem?.mp (h.connections c (List.mem_of_getElem? hk))
  exact ⟨h.isGate hi, h.isGate hj, k', c, _, _, hk', h.namesOutput hsource, h.namesInput htarget,
    rfl, rfl⟩

/-! ## The network -/

/-- A device has the same drivers in both networks. -/
theorem drivers (h : d.Within d' place) (hd : d.WellDeclared) (hc : d.WellConnected)
    (hd' : d'.WellDeclared) (hc' : d'.WellConnected) {output : Nat → Nat}
    (houtput : ∀ pin, d.IsOutput pin →
      output (d.table.outputNumber pin) = d'.table.outputNumber (pin.at place))
    {i : Nat} {name : String} {part : Instance} (hdecl : d.Declares i name part) :
    (d'.device (place i) name part).drivers = (d.device i name part).drivers.map output := by
  have hlength := hc.length_drivers hd hdecl
  have hlength' := hc'.length_drivers hd' (h.declares hdecl)
  apply List.ext_getElem?
  intro slot
  rw [List.getElem?_map]
  by_cases hslot : slot < part.inputs
  · obtain ⟨o, ho⟩ : ∃ o, (d.device i name part).driver? slot = some o :=
      ⟨_, List.getElem?_eq_getElem (hlength ▸ hslot)⟩
    obtain ⟨k, c, source, hk, hinput, hsource, rfl⟩ :=
      (hc.driver?_device_eq_some_iff hd hdecl).mp ho
    obtain ⟨k', hk'⟩ := List.mem_iff_getElem?.mp (h.connections c (List.mem_of_getElem? hk))
    have ho' := (hc'.driver?_device_eq_some_iff hd' (h.declares hdecl)).mpr
      ⟨k', c, _, hk', h.namesInput hinput, h.namesOutput hsource, rfl⟩
    rw [Device.driver?] at ho ho'
    rw [ho, ho', Option.map_some, houtput source hsource.isOutput]
  · rw [List.getElem?_eq_none (by omega), List.getElem?_eq_none (by omega)]
    rfl

/-- **The network of a description** sits inside that of a larger one. -/
def embedding (h : d.Within d' place) (hd : d.WellDeclared) (hc : d.WellConnected)
    (hd' : d'.WellDeclared) (hc' : d'.WellConnected) (output : Nat → Nat)
    (houtput : ∀ pin, d.IsOutput pin →
      output (d.table.outputNumber pin) = d'.table.outputNumber (pin.at place)) :
    d.network.Embedding d'.network where
  device := place
  output := output
  image i dev hdev := by
    obtain ⟨name, part, hdecl, rfl⟩ := hd.getElem?_devices_network_eq_some_iff.mp hdev
    refine ⟨_, hd'.getElem?_devices_network (h.declares hdecl), rfl, rfl, ?_, fun k hk => ?_⟩
    · exact h.drivers hd hc hd' hc' houtput hdecl
    · exact houtput ⟨i, k⟩ ⟨name, part, hdecl, hk⟩

/-- The monitors of a description come first in a larger one that asks for them first. -/
theorem monitors_network (h : d.Within d' place) (hd : d.WellDeclared) (hm : d.WellMonitored)
    (hd' : d'.WellDeclared) (hm' : d'.WellMonitored) {output : Nat → Nat}
    (houtput : ∀ pin, d.IsOutput pin →
      output (d.table.outputNumber pin) = d'.table.outputNumber (pin.at place))
    {more : List OutputRef} (hmonitors : d'.monitors = d.monitors ++ more) :
    d'.network.monitors = d.network.monitors.map output ++
      more.filterMap fun r => (d'.table.resolveOutput r).pin?.map d'.table.outputNumber := by
  rw [hd.monitors_network_eq hm, hd'.monitors_network_eq hm', hmonitors, List.filterMap_append,
    List.map_filterMap]
  refine congrArg (· ++ _) (List.filterMap_congr fun r hr => ?_)
  obtain ⟨pin, hpin⟩ := hm.outputs r hr
  rw [hd.resolveOutput_eq_found_iff.mpr hpin, hd'.resolveOutput_eq_found_iff.mpr (h.namesOutput hpin)]
  exact congrArg some (houtput pin hpin.isOutput).symm

end Within

end Description

end SyncCircuit

import SyncCircuit.Proofs.Build.Acceptance
import SyncCircuit.Proofs.Network.Layout

/-!
# Assembling networks

Every declaration of a well-declared description becomes the device with its index, and if the
description is well connected too, every input of that device keeps its slot. So the network of a
valid description is well-formed, and the numbers of its outputs are those the wiring uses.
-/
namespace SyncCircuit.Description

variable {d : Description}

/-- The device a declaration becomes. -/
def device (d : Description) (i : Nat) (name : String) (part : Instance) : Device where
  name := name
  component := part.component
  drivers := (List.range part.inputs).filterMap fun slot =>
    (d.wiring.driver? ⟨i, slot⟩).map d.table.outputNumber
  firstOutput := d.table.firstOutput i
  dependents := d.wiring.dependents i

namespace WellDeclared

theorem getElem?_devices_network_eq_some_iff (h : d.WellDeclared) {i : Nat} {dev : Device} :
    d.network.devices[i]? = some dev ↔
      ∃ name part, d.Declares i name part ∧ dev = d.device i name part := by
  have hsome : ∀ p ∈ d.table.entries.zipIdx, (p.1.part.map (d.device p.2 p.1.name)).isSome := by
    intro ⟨e, j⟩ hmem
    have he := (List.mk_mem_zipIdx_iff_getElem? (x := e) (i := j)).mp hmem
    obtain ⟨part, -, hpart⟩ := h.getElem?_entries_eq_some_iff.mp he
    simp [hpart]
  have hget : d.network.devices[i]? =
      d.table.entries.zipIdx[i]?.bind fun p => p.1.part.map (d.device p.2 p.1.name) :=
    getElem?_filterMap_of_isSome hsome i
  rw [hget, List.getElem?_zipIdx, Nat.zero_add, Option.bind_map, Option.bind_eq_some_iff]
  constructor
  · intro ⟨e, he, hdev⟩
    obtain ⟨part, hdecl, hpart⟩ := h.getElem?_entries_eq_some_iff.mp he
    rw [Function.comp_apply, hpart] at hdev
    exact ⟨e.name, part, hdecl, (Option.some.inj hdev).symm⟩
  · intro ⟨name, part, hdecl, hdev⟩
    exact ⟨⟨name, some part⟩, h.getElem?_entries_eq_some_iff.mpr ⟨part, hdecl, rfl⟩, hdev ▸ rfl⟩

theorem getElem?_devices_network (h : d.WellDeclared) {i : Nat} {name : String} {part : Instance}
    (hdecl : d.Declares i name part) : d.network.devices[i]? = some (d.device i name part) :=
  h.getElem?_devices_network_eq_some_iff.mpr ⟨name, part, hdecl, rfl⟩

/-- What is read off a device and its entry alike is listed alike. -/
theorem map_devices_network {α : Type} (h : d.WellDeclared) (f : Device → α) (g : Entry → α)
    (hfg : ∀ i name part, f (d.device i name part) = g ⟨name, some part⟩) :
    d.network.devices.map f = d.table.entries.map g := by
  apply List.ext_getElem?
  intro i
  rw [List.getElem?_map, List.getElem?_map]
  cases he : d.table.entries[i]? with
  | none =>
    cases hdev : d.network.devices[i]? with
    | none => rfl
    | some dev =>
      obtain ⟨name, part, hdecl, -⟩ := h.getElem?_devices_network_eq_some_iff.mp hdev
      have := h.getElem?_entries_eq_some_iff (e := ⟨name, some part⟩).mpr ⟨part, hdecl, rfl⟩
      rw [he] at this
      cases this
  | some e =>
    obtain ⟨part, hdecl, hpart⟩ := h.getElem?_entries_eq_some_iff.mp he
    rw [h.getElem?_devices_network hdecl]
    cases e
    obtain rfl := hpart
    simp [hfg]

theorem names_network (h : d.WellDeclared) :
    d.network.devices.map (·.name) = d.devices.map (·.name) := by
  rw [h.map_devices_network (·.name) (·.name) fun _ _ _ => rfl, h.entries_table, List.map_map]
  rfl

/-- Devices have declared names. -/
theorem exists_name_eq (h : d.WellDeclared) {dev : Device} (hmem : dev ∈ d.network.devices) :
    ∃ c ∈ d.devices, c.name = dev.name := by
  have hname : dev.name ∈ d.network.devices.map (·.name) := List.mem_map_of_mem hmem
  rw [h.names_network] at hname
  exact List.mem_map.mp hname

theorem size_network (h : d.WellDeclared) : d.network.size = d.devices.length := by
  have := congrArg List.length h.names_network
  rwa [List.length_map, List.length_map] at this

theorem outputsBefore_network (h : d.WellDeclared) (i : Nat) :
    d.network.outputsBefore i = d.table.firstOutput i :=
  pinsBefore_congr (h.map_devices_network _ _ fun _ _ _ => rfl) i

/-- The number of a named output is the one that output has in the network. -/
theorem getElem?_outputs_network (h : d.WellDeclared) {r : OutputRef} {pin : Pin}
    (hpin : d.NamesOutput r pin) :
    d.network.outputs[d.table.outputNumber pin]? = some pin := by
  obtain ⟨part, hdecl, houtput⟩ := hpin
  rw [Network.getElem?_outputs_eq_some_iff, h.outputsBefore_network]
  exact ⟨_, h.getElem?_devices_network hdecl, houtput.lt_outputCount, rfl⟩

end WellDeclared

namespace WellConnected

theorem isSome_driver? (hc : d.WellConnected) (hd : d.WellDeclared) {i : Nat} {name : String}
    {part : Instance} (hdecl : d.Declares i name part) :
    ∀ slot ∈ List.range part.inputs,
      ((d.wiring.driver? ⟨i, slot⟩).map d.table.outputNumber).isSome := by
  intro slot hslot
  have hpin : d.IsInput ⟨i, slot⟩ := ⟨name, part, hdecl, List.mem_range.mp hslot⟩
  obtain ⟨source, hsource⟩ := hc.exists_driver? hd hpin
  simp [hsource]

/-- No slot of a device is dropped. -/
theorem length_drivers (hc : d.WellConnected) (hd : d.WellDeclared) {i : Nat} {name : String}
    {part : Instance} (hdecl : d.Declares i name part) :
    (d.device i name part).drivers.length = part.inputs := by
  rw [device, List.filterMap_length_eq_length.mpr (hc.isSome_driver? hd hdecl), List.length_range]

theorem driver?_device_eq_some_iff (hc : d.WellConnected) (hd : d.WellDeclared) {i slot o : Nat}
    {name : String} {part : Instance} (hdecl : d.Declares i name part) :
    (d.device i name part).driver? slot = some o ↔ ∃ (k : Nat) (c : Connection) (source : Pin),
      d.connections[k]? = some c ∧ d.NamesInput c.target ⟨i, slot⟩ ∧
        d.NamesOutput c.source source ∧ o = d.table.outputNumber source := by
  have hget : (d.device i name part).driver? slot = (List.range part.inputs)[slot]?.bind
      fun slot => (d.wiring.driver? ⟨i, slot⟩).map d.table.outputNumber :=
    getElem?_filterMap_of_isSome (hc.isSome_driver? hd hdecl) slot
  rw [hget, Option.bind_eq_some_iff]
  constructor
  · intro ⟨slot', hslot', hmap⟩
    obtain ⟨hlt, rfl⟩ := List.getElem?_eq_some_iff.mp hslot'
    rw [List.getElem_range, Option.map_eq_some_iff] at hmap
    obtain ⟨source, hdriver, ho⟩ := hmap
    obtain ⟨k, c, hk, hinput, hsource⟩ := (hc.driver?_eq_some_iff hd).mp hdriver
    exact ⟨k, c, source, hk, hinput, hsource, ho.symm⟩
  · intro ⟨k, c, source, hk, hinput, hsource, ho⟩
    obtain ⟨name', part', hdecl', hlt⟩ := hinput.isInput
    obtain ⟨-, rfl⟩ := hdecl.unique hdecl'
    refine ⟨slot, List.getElem?_range hlt, ?_⟩
    rw [(hc.driver?_eq_some_iff hd).mpr ⟨k, c, hk, hinput, hsource⟩, ho]
    rfl

/-- **The network of a valid description** is well-formed. -/
theorem wellFormed_network (hc : d.WellConnected) (hd : d.WellDeclared) :
    d.network.WellFormed where
  nodup_names := by
    rw [hd.names_network]
    exact hd.distinct
  firstOutput i dev hdev := by
    obtain ⟨name, part, -, rfl⟩ := hd.getElem?_devices_network_eq_some_iff.mp hdev
    exact (hd.outputsBefore_network i).symm
  allowsInputs dev hdev := by
    obtain ⟨i, hi⟩ := List.mem_iff_getElem?.mp hdev
    obtain ⟨name, part, hdecl, rfl⟩ := hd.getElem?_devices_network_eq_some_iff.mp hi
    rw [hc.length_drivers hd hdecl]
    obtain ⟨c, -, -, hpart⟩ := hdecl
    exact (Kind.instantiate_spec hpart).2
  driver_lt dev hdev o ho := by
    obtain ⟨i, hi⟩ := List.mem_iff_getElem?.mp hdev
    obtain ⟨name, part, hdecl, rfl⟩ := hd.getElem?_devices_network_eq_some_iff.mp hi
    obtain ⟨slot, hslot⟩ := List.mem_iff_getElem?.mp ho
    obtain ⟨k, c, source, -, -, hsource, rfl⟩ :=
      (hc.driver?_device_eq_some_iff hd hdecl).mp hslot
    exact (List.getElem?_eq_some_iff.mp (hd.getElem?_outputs_network hsource)).1

end WellConnected

end SyncCircuit.Description

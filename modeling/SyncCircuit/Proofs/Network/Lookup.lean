import Mathlib.Data.List.Nodup
import SyncCircuit.Proofs.Build.Distinct
import SyncCircuit.Proofs.Network.Layout

/-!
# Looking things up in a network

What the lists a network is asked for contain: the device with a name, the devices of some sort, and
the input pins of all devices. Devices are listed in declaration order, and nothing is listed twice.
-/
namespace SyncCircuit

namespace Network

variable {net : Network}

theorem mem_indicesOf_iff {test : Component → Bool} {i : Nat} :
    i ∈ net.indicesOf test ↔ ∃ dev, net.devices[i]? = some dev ∧ test dev.component := by
  rw [indicesOf, List.mem_map]
  constructor
  · intro ⟨⟨dev, j⟩, hmem, heq⟩
    obtain ⟨hzip, htest⟩ := List.mem_filter.mp hmem
    obtain rfl : j = i := heq
    exact ⟨dev, List.mk_mem_zipIdx_iff_getElem?.mp hzip, htest⟩
  · intro ⟨dev, hdev, htest⟩
    exact ⟨(dev, i), List.mem_filter.mpr ⟨List.mk_mem_zipIdx_iff_getElem?.mpr hdev, htest⟩, rfl⟩

theorem pairwise_indicesOf (net : Network) (test : Component → Bool) :
    (net.indicesOf test).Pairwise (· < ·) := by
  have hsub : (net.indicesOf test).Sublist (net.devices.zipIdx.map (·.2)) :=
    List.filter_sublist.map _
  rw [List.zipIdx_map_snd] at hsub
  exact List.Pairwise.sublist hsub (List.pairwise_lt_range' 1)

theorem device?_eq_bind (net : Network) (name : String) :
    net.device? name = (net.index? name).bind (net.devices[·]?) := by
  rw [device?, index?, List.find?_eq_bind_findIdx?_getElem?]

theorem WellFormed.index?_eq_some_iff_name (h : net.WellFormed) {name : String} {i : Nat} :
    net.index? name = some i ↔ ∃ dev, net.devices[i]? = some dev ∧ dev.name = name :=
  findIdx?_key_eq_some_iff h.nodup_names

theorem WellFormed.index?_eq_some_iff (h : net.WellFormed) {name : String} {i : Nat} :
    net.index? name = some i ↔ i < net.size ∧ net.deviceName i = name := by
  rw [h.index?_eq_some_iff_name]
  constructor
  · rintro ⟨dev, hdev, hname⟩
    refine ⟨(List.getElem?_eq_some_iff.mp hdev).1, ?_⟩
    rw [deviceName, hdev]
    exact hname
  · rintro ⟨hlt, hname⟩
    refine ⟨net.devices[i], List.getElem?_eq_getElem hlt, ?_⟩
    rw [deviceName, List.getElem?_eq_getElem hlt] at hname
    exact hname

theorem WellFormed.device?_name (h : net.WellFormed) {i : Nat} {dev : Device}
    (hdev : net.devices[i]? = some dev) : net.device? dev.name = some dev := by
  rw [device?_eq_bind, h.index?_eq_some_iff_name.mpr ⟨dev, hdev, rfl⟩, Option.bind_some, hdev]

theorem output_eq_ok_iff {ref : OutputRef} {o : Nat} :
    net.output ref = .ok o ↔ ∃ dev k, net.device? ref.device = some dev ∧
      dev.component.outputOffset ref.pin = .ok k ∧ o = dev.firstOutput + k := by
  rw [output]
  cases net.device? ref.device with
  | none => simp
  | some dev =>
    cases hoffset : dev.component.outputOffset ref.pin <;> simp [hoffset, eq_comm]

/-- References name outputs only. -/
theorem WellFormed.output_lt_of_eq_ok (h : net.WellFormed) {ref : OutputRef} {o : Nat}
    (ho : net.output ref = .ok o) : o < net.outputCount := by
  obtain ⟨dev, k, hdev, hoffset, rfl⟩ := output_eq_ok_iff.mp ho
  obtain ⟨i, hi⟩ := List.mem_iff_getElem?.mp (List.mem_of_find?_eq_some hdev)
  exact h.output_lt hi (Component.outputOffset_eq_ok_iff.mp hoffset).lt_outputCount

/-! ## Inputs -/

theorem mem_inputs_iff {pin : Pin} :
    pin ∈ net.inputs ↔
      ∃ dev, net.devices[pin.device]? = some dev ∧ pin.position < dev.drivers.length := by
  rw [List.mem_iff_getElem?]
  constructor
  · rintro ⟨o, ho⟩
    obtain ⟨dev, hdev, hlt, -⟩ := (getElem?_pins_eq_some_iff _ _).mp ho
    exact ⟨dev, hdev, hlt⟩
  · rintro ⟨dev, hdev, hlt⟩
    exact ⟨_, (getElem?_pins_eq_some_iff _ _).mpr ⟨dev, hdev, hlt, rfl⟩⟩

/-- Inputs are listed by device, and those of a device by slot. -/
theorem pairwise_inputs (net : Network) : net.inputs.Pairwise fun pin pin' =>
    pin.device < pin'.device ∨ pin.device = pin'.device ∧ pin.position < pin'.position := by
  rw [inputs, pins, List.pairwise_flatMap]
  constructor
  · rintro ⟨dev, i⟩ -
    rw [List.pairwise_map]
    exact List.pairwise_lt_range.imp fun hlt => .inr ⟨rfl, hlt⟩
  · have hindices : net.devices.zipIdx.Pairwise fun p q => p.2 < q.2 := by
      rw [← List.pairwise_map (f := Prod.snd) (R := (· < ·)), List.zipIdx_map_snd]
      exact List.pairwise_lt_range' 1
    refine hindices.imp fun hlt pin hpin pin' hpin' => .inl ?_
    obtain ⟨_, -, rfl⟩ := List.mem_map.mp hpin
    obtain ⟨_, -, rfl⟩ := List.mem_map.mp hpin'
    exact hlt

theorem nodup_inputs (net : Network) : net.inputs.Nodup := by
  refine net.pairwise_inputs.imp fun {pin pin'} hlt heq => ?_
  subst heq
  omega

end Network

end SyncCircuit

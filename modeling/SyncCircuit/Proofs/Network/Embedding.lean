import SyncCircuit.Proofs.Network.Equations

/-!
# Networks inside networks

A network may sit inside another one: its devices are there, perhaps at other places, with their
outputs renumbered and their inputs driven by the same outputs as before. The other network may have
more devices, but none of these drives an input of the smaller one. So a solution of the larger
equations is one of the smaller equations too, read along the renumbering.

## Main definitions

* `Device.Renumbered` — the same device, with other numbers for the outputs.
* `Network.Embedding` — where the devices and the outputs of a network are in another one.
* `Network.Extension` — an embedding that keeps numbers and monitors.
-/
namespace SyncCircuit

/-- The same device, but for the numbers of outputs and for what depends on it. -/
structure Device.Renumbered (output : Nat → Nat) (dev dev' : Device) : Prop where
  name : dev'.name = dev.name
  component : dev'.component = dev.component
  drivers : dev'.drivers = dev.drivers.map output
  outputs : ∀ k < dev.component.outputCount, output (dev.firstOutput + k) = dev'.firstOutput + k

namespace Device.Renumbered

variable {output : Nat → Nat} {dev dev' : Device}

theorem firstOutput (h : dev.Renumbered output dev') :
    output dev.firstOutput = dev'.firstOutput :=
  h.outputs 0 dev.component.outputCount_pos

theorem output? (h : dev.Renumbered output dev') (v : Nat → Bool) :
    dev'.output? v = dev.output? (v ∘ output) := by
  rw [Device.output?, Device.output?, h.component, h.drivers, List.map_map]

theorem outputLabel (h : dev.Renumbered output dev') (k : Nat) :
    dev'.outputLabel k = dev.outputLabel k := by
  rw [Device.outputLabel, Device.outputLabel, h.component, h.name]

end Device.Renumbered

namespace Network

variable {net net' : Network}

/-- Where the devices of a network are in another one, and which numbers their outputs have there. -/
structure Embedding (net net' : Network) where
  device : Nat → Nat
  output : Nat → Nat
  image : ∀ (i : Nat) (dev : Device), net.devices[i]? = some dev →
    ∃ dev', net'.devices[device i]? = some dev' ∧ dev.Renumbered output dev'

namespace Embedding

variable (e : Embedding net net')

/-! ## Devices and outputs -/

/-- What an output is in the other network. -/
theorem exists_output (h : net.WellFormed) {o : Nat} (ho : o < net.outputCount) :
    ∃ (i k : Nat) (dev dev' : Device), net.devices[i]? = some dev ∧
      net'.devices[e.device i]? = some dev' ∧ dev.Renumbered e.output dev' ∧
      k < dev.component.outputCount ∧ k < dev'.component.outputCount ∧
      o = dev.firstOutput + k ∧ e.output o = dev'.firstOutput + k := by
  obtain ⟨i, k, dev, hdev, hk, rfl⟩ := h.exists_of_lt ho
  obtain ⟨dev', hdev', hrenumbered⟩ := e.image i dev hdev
  exact ⟨i, k, dev, dev', hdev, hdev', hrenumbered, hk, hrenumbered.component ▸ hk, rfl,
    hrenumbered.outputs k hk⟩

theorem output_lt (h : net.WellFormed) (h' : net'.WellFormed) {o : Nat}
    (ho : o < net.outputCount) : e.output o < net'.outputCount := by
  obtain ⟨i, k, dev, dev', -, hdev', -, -, hk, -, heq⟩ := e.exists_output h ho
  rw [heq]
  exact h'.output_lt hdev' hk

/-- An output of a device that is not the image of one is no image of an output. -/
theorem output_ne (h : net.WellFormed) (h' : net'.WellFormed) {j l : Nat} {dev : Device}
    (hdev : net'.devices[j]? = some dev) (hl : l < dev.component.outputCount)
    (hj : ∀ i < net.size, e.device i ≠ j) {o : Nat} (ho : o < net.outputCount) :
    e.output o ≠ dev.firstOutput + l := by
  obtain ⟨i, k, devI, dev', hdevI, hdev', -, -, hk, -, heq⟩ := e.exists_output h ho
  intro hsame
  rw [heq] at hsame
  exact hj i (List.getElem?_eq_some_iff.mp hdevI).1 (h'.output_inj hdev' hdev hk hl hsame).1

theorem isSource {o : Nat} (ho : net.IsSource o) :
    net'.IsSource (e.output o) := by
  obtain ⟨i, k, dev, hdev, hgate, hk, rfl⟩ := ho
  obtain ⟨dev', hdev', hrenumbered⟩ := e.image i dev hdev
  refine ⟨e.device i, k, dev', hdev', ?_, ?_, hrenumbered.outputs k hk⟩
  · rw [hrenumbered.component, hgate]
  · rwa [hrenumbered.component]

theorem isGateOutput {o : Nat} (ho : IsGateOutput net.devices o) :
    IsGateOutput net'.devices (e.output o) := by
  obtain ⟨dev, hmem, hgate, rfl⟩ := ho
  obtain ⟨i, hi⟩ := List.mem_iff_getElem?.mp hmem
  obtain ⟨dev', hdev', hrenumbered⟩ := e.image i dev hi
  refine ⟨dev', List.mem_of_getElem? hdev', ?_, hrenumbered.firstOutput.symm⟩
  rwa [hrenumbered.component]

/-! ## Names and labels -/

theorem index? (h : net.WellFormed) (h' : net'.WellFormed) {name : String} {i : Nat}
    (hi : net.index? name = some i) : net'.index? name = some (e.device i) := by
  obtain ⟨dev, hdev, hname⟩ := h.index?_eq_some_iff_name.mp hi
  obtain ⟨dev', hdev', hrenumbered⟩ := e.image i dev hdev
  exact h'.index?_eq_some_iff_name.mpr ⟨dev', hdev', hrenumbered.name.trans hname⟩

/-- A device with a name that is not in the smaller network is not the image of one. -/
theorem device_ne (h' : net'.WellFormed) {name : String} (hnone : net.index? name = none)
    {j : Nat} (hj : net'.index? name = some j) : ∀ i < net.size, e.device i ≠ j := by
  intro i hi heq
  have hdev : net.devices[i]? = some net.devices[i] := List.getElem?_eq_getElem hi
  obtain ⟨dev', hdev', hrenumbered⟩ := e.image i _ hdev
  obtain ⟨dev, hdevJ, hname⟩ := h'.index?_eq_some_iff_name.mp hj
  rw [heq, hdevJ] at hdev'
  obtain rfl := Option.some.inj hdev'
  rw [Network.index?, List.findIdx?_eq_none_iff] at hnone
  have := hnone _ (List.mem_of_getElem? hdev)
  rw [← hrenumbered.name, hname, beq_self_eq_true] at this
  cases this

theorem device? (h : net.WellFormed) (h' : net'.WellFormed) {name : String} {dev : Device}
    (hdev : net.device? name = some dev) :
    ∃ dev', net'.device? name = some dev' ∧ dev.Renumbered e.output dev' := by
  rw [device?_eq_bind, Option.bind_eq_some_iff] at hdev
  obtain ⟨i, hi, hdev⟩ := hdev
  obtain ⟨dev', hdev', hrenumbered⟩ := e.image i dev hdev
  refine ⟨dev', ?_, hrenumbered⟩
  rw [device?_eq_bind, e.index? h h' hi]
  exact hdev'

/-- References name the same outputs. -/
theorem output_eq_ok (h : net.WellFormed) (h' : net'.WellFormed) {ref : OutputRef} {o : Nat}
    (ho : net.output ref = .ok o) : net'.output ref = .ok (e.output o) := by
  obtain ⟨dev, k, hdev, hoffset, rfl⟩ := output_eq_ok_iff.mp ho
  obtain ⟨dev', hdev', hrenumbered⟩ := e.device? h h' hdev
  have hk := (Component.outputOffset_eq_ok_iff.mp hoffset).lt_outputCount
  exact output_eq_ok_iff.mpr ⟨dev', k, hdev', hrenumbered.component ▸ hoffset,
    hrenumbered.outputs k hk⟩

/-- What a reference can name in both networks: nothing, the same output, or an output that only
the larger one has. -/
theorem output_cases (h : net.WellFormed) (h' : net'.WellFormed) (ref : OutputRef) :
    (∃ fault fault', net.output ref = .error fault ∧ net'.output ref = .error fault') ∨
    (∃ o < net.outputCount, net.output ref = .ok o ∧ net'.output ref = .ok (e.output o)) ∨
    (∃ fault o', net.output ref = .error fault ∧ net'.output ref = .ok o' ∧
      o' < net'.outputCount ∧ ∀ o < net.outputCount, e.output o ≠ o') := by
  cases ho : net.output ref with
  | ok o => exact .inr (.inl ⟨o, h.output_lt_of_eq_ok ho, rfl, e.output_eq_ok h h' ho⟩)
  | error fault =>
    cases ho' : net'.output ref with
    | error fault' => exact .inl ⟨fault, fault', rfl, rfl⟩
    | ok o' =>
      refine .inr (.inr ⟨fault, o', rfl, rfl, h'.output_lt_of_eq_ok ho', ?_⟩)
      obtain ⟨dev', k, hdev', hoffset, rfl⟩ := output_eq_ok_iff.mp ho'
      have hk := (Component.outputOffset_eq_ok_iff.mp hoffset).lt_outputCount
      cases hdev : net.device? ref.device with
      | none =>
        obtain ⟨j, hj, hdev'⟩ := Option.bind_eq_some_iff.mp (device?_eq_bind .. ▸ hdev')
        exact fun o ho => e.output_ne h h' hdev' hk
          (e.device_ne h' ((net.device?_eq_none_iff _).mp hdev) hj) ho
      | some dev =>
        -- A device of both networks has the same pins in both.
        obtain ⟨image, himage, hrenumbered⟩ := e.device? h h' hdev
        obtain rfl := Option.some.inj (himage.symm.trans hdev')
        rw [hrenumbered.component] at hoffset
        rw [output_eq_ok_iff.mpr ⟨dev, k, hdev, hoffset, rfl⟩] at ho
        cases ho

/-- Outputs have the same labels. -/
theorem outputLabel (h : net.WellFormed) (h' : net'.WellFormed) {o : Nat}
    (ho : o < net.outputCount) : net'.outputLabel (e.output o) = net.outputLabel o := by
  obtain ⟨i, k, dev, dev', hdev, hdev', hrenumbered, hk, hk', rfl, heq⟩ := e.exists_output h ho
  rw [Network.outputLabel, Network.outputLabel, heq, h.getElem?_outputs hdev hk,
    h'.getElem?_outputs hdev' hk']
  dsimp only
  rw [hdev, hdev', Option.map_some, Option.map_some, hrenumbered.outputLabel]

/-! ## Equations -/

/-- **A solution of the larger equations** solves the smaller ones. -/
theorem solves {src v : Nat → Bool} (hv : net'.Solves src v) :
    net.Solves (src ∘ e.output) (v ∘ e.output) where
  gates dev hmem b hb := by
    obtain ⟨i, hi⟩ := List.mem_iff_getElem?.mp hmem
    obtain ⟨dev', hdev', hrenumbered⟩ := e.image i dev hi
    rw [← hrenumbered.output?] at hb
    rw [Function.comp_apply, hrenumbered.firstOutput]
    exact hv.gates dev' (List.mem_of_getElem? hdev') b hb
  sources o ho := hv.sources (e.output o) (e.isSource ho)

/-- **The larger evaluation contains the smaller one**, if the sources of the smaller network are
given the same values in both. -/
theorem eval (h : net.WellFormed) (h' : net'.WellFormed) (hl : net.LoopFree) (hl' : net'.LoopFree)
    {src src' : Nat → Bool} (hsrc : ∀ o, net.IsSource o → src' (e.output o) = src o) :
    ∀ o < net.outputCount, net'.eval src' (e.output o) = net.eval src o :=
  ((e.solves (hl'.eval_solves h' src')).congr hsrc).eq_eval hl h

end Embedding

/-- An embedding that leaves the numbers of outputs as they are. What the other network monitors
from the start begins with what this one monitors, and has no duplicates. -/
structure Extension (net net' : Network) extends net.Embedding net' where
  output_eq : ∀ o, output o = o
  monitors : net.monitors <+: net'.monitors
  nodup_monitors : net'.monitors.Nodup

namespace Extension

theorem outputLabel_eq (e : net.Extension net') (h : net.WellFormed) (h' : net'.WellFormed)
    {o : Nat} (ho : o < net.outputCount) : net'.outputLabel o = net.outputLabel o := by
  rw [← e.outputLabel h h' ho, e.output_eq]

theorem lt_outputCount (e : net.Extension net') (h : net.WellFormed) (h' : net'.WellFormed)
    {o : Nat} (ho : o < net.outputCount) : o < net'.outputCount := by
  have hlt := e.output_lt h h' ho
  rwa [e.output_eq] at hlt

end Extension

end Network

end SyncCircuit

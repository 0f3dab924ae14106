import SyncCircuit.Proofs.Build.Realization

/-!
# Labels of outputs

The label of an output is the name of its device, with the label of the pin behind a dot if there is
one. Names have no dots, so the label can be taken apart again, and no two outputs share a label. A
label, read as a reference, names its output, and no other reference does.
-/
namespace SyncCircuit

theorem Component.hasOutput_outputLabel? {c : Component} {k : Nat} (hk : k < c.outputCount) :
    c.HasOutput (c.outputLabel? k) k := by
  cases c with
  | dtype =>
    have hk : k < 2 := hk
    obtain rfl | rfl : k = 0 ∨ k = 1 := by omega
    · exact .q
    · exact .qbar
  | gate g | switch initial | clock halfPeriod =>
    obtain rfl : k = 0 := Nat.lt_one_iff.mp hk
    constructor

theorem Component.HasOutput.outputLabel?_eq {c : Component} {label : Option String} {k : Nat}
    (h : c.HasOutput label k) : c.outputLabel? k = label := by
  cases h <;> rfl

/-- A reference is read back from its text, if the name in it has no dot. -/
theorem OutputRef.ofText_text {ref : OutputRef} (hdots : '.' ∉ ref.device.toList) :
    OutputRef.ofText ref.text = ref := by
  obtain ⟨device, pin⟩ := ref
  cases pin with
  | none =>
    have hsplit : splitAtDot device = (device, none) := splitAtDot_of_not_mem hdots
    rw [text, ofText, hsplit]
  | some label =>
    have hsplit : splitAtDot (device ++ "." ++ label) = (device, some label) :=
      splitAtDot_append hdots
    rw [text, ofText, hsplit]

/-- A label is taken apart at its first dot. -/
theorem Device.splitAtDot_outputLabel {dev : Device} (hdots : '.' ∉ dev.name.toList) (k : Nat) :
    splitAtDot (dev.outputLabel k) = (dev.name, dev.component.outputLabel? k) := by
  rw [outputLabel]
  cases dev.component.outputLabel? k with
  | none => exact splitAtDot_of_not_mem hdots
  | some label => exact splitAtDot_append hdots

namespace Network

variable {net : Network}

theorem WellFormed.outputLabel_output (h : net.WellFormed) {i k : Nat} {dev : Device}
    (hdev : net.devices[i]? = some dev) (hk : k < dev.component.outputCount) :
    net.outputLabel (dev.firstOutput + k) = dev.outputLabel k := by
  rw [outputLabel, h.getElem?_outputs hdev hk]
  dsimp only
  rw [hdev]
  rfl

/-- **A label names its output.** -/
theorem WellFormed.output_ofText_outputLabel (h : net.WellFormed)
    (hdots : ∀ dev ∈ net.devices, '.' ∉ dev.name.toList) {o : Nat} (ho : o < net.outputCount) :
    net.output (.ofText (net.outputLabel o)) = .ok o := by
  obtain ⟨i, k, dev, hdev, hk, rfl⟩ := h.exists_of_lt ho
  rw [h.outputLabel_output hdev hk, OutputRef.ofText,
    Device.splitAtDot_outputLabel (hdots dev (List.mem_of_getElem? hdev)), output_eq_ok_iff]
  exact ⟨dev, k, h.device?_name hdev,
    Component.outputOffset_eq_ok_iff.mpr (Component.hasOutput_outputLabel? hk), rfl⟩

/-- **Different outputs have different labels**, if no name has a dot. -/
theorem WellFormed.outputLabel_inj (h : net.WellFormed)
    (hdots : ∀ dev ∈ net.devices, '.' ∉ dev.name.toList) {o p : Nat} (ho : o < net.outputCount)
    (hp : p < net.outputCount) (heq : net.outputLabel o = net.outputLabel p) : o = p := by
  have hnames := h.output_ofText_outputLabel hdots ho
  rw [heq, h.output_ofText_outputLabel hdots hp] at hnames
  exact (Except.ok.inj hnames).symm

/-- **No other reference names it.** -/
theorem WellFormed.text_eq_outputLabel (h : net.WellFormed) {ref : OutputRef} {o : Nat}
    (hout : net.output ref = .ok o) : ref.text = net.outputLabel o := by
  obtain ⟨dev, k, hdev, hoffset, rfl⟩ := output_eq_ok_iff.mp hout
  have hname : dev.name = ref.device := by simpa using List.find?_some hdev
  obtain ⟨i, hi⟩ := List.mem_iff_getElem?.mp (List.mem_of_find?_eq_some hdev)
  have hpin := Component.outputOffset_eq_ok_iff.mp hoffset
  rw [h.outputLabel_output hi hpin.lt_outputCount, Device.outputLabel, hpin.outputLabel?_eq, hname]
  obtain ⟨device, pin⟩ := ref
  cases pin <;> rfl

/-- The name in a reference to an output has no dot. -/
theorem not_mem_device_of_output (hdots : ∀ dev ∈ net.devices, '.' ∉ dev.name.toList)
    {ref : OutputRef} {o : Nat} (hout : net.output ref = .ok o) : '.' ∉ ref.device.toList := by
  obtain ⟨dev, k, hdev, -, -⟩ := output_eq_ok_iff.mp hout
  have hname : dev.name = ref.device := by simpa using List.find?_some hdev
  exact hname ▸ hdots dev (List.mem_of_find?_eq_some hdev)

end Network

/-- Names of built devices are valid. -/
theorem Description.build_validName {d : Description} {options : BuildOptions} {net : Network}
    (hb : d.build options = .ok net) : ∀ dev ∈ net.devices, ValidName dev.name := by
  obtain ⟨hv, rfl⟩ := build_eq_ok_iff.mp hb
  intro dev hmem
  obtain ⟨c, hc, hsame⟩ := hv.toWellDeclared.exists_name_eq hmem
  exact hsame ▸ hv.names c hc

/-- Names of built devices have no dots. -/
theorem Description.build_noDots {d : Description} {options : BuildOptions} {net : Network}
    (hb : d.build options = .ok net) : ∀ dev ∈ net.devices, '.' ∉ dev.name.toList :=
  fun dev hmem => (build_validName hb dev hmem).not_mem (by decide)

/-- Labels of outputs are made of letters, digits and dots. -/
theorem Network.WellFormed.mem_outputLabel {net : Network} (h : net.WellFormed)
    (hnames : ∀ dev ∈ net.devices, ValidName dev.name) {o : Nat} (ho : o < net.outputCount)
    {c : Char} (hc : c ∈ (net.outputLabel o).toList) : c.isAlphanum ∨ c = '.' := by
  obtain ⟨i, k, dev, hdev, hk, rfl⟩ := h.exists_of_lt ho
  have hname := (hnames dev (List.mem_of_getElem? hdev)).alphanumeric
  have hpin := Component.hasOutput_outputLabel? hk
  rw [h.outputLabel_output hdev hk, Device.outputLabel] at hc
  generalize dev.component.outputLabel? k = label at hpin hc
  cases label with
  | none => exact .inl (hname c hc)
  | some label =>
    simp only [String.toList_append, List.mem_append] at hc
    rcases hc with (hc | hc) | hc
    · exact .inl (hname c hc)
    · exact .inr (List.mem_singleton.mp hc)
    · left
      generalize dev.component = component at hpin
      have hpins : "Q".toList.all Char.isAlphanum ∧ "QBAR".toList.all Char.isAlphanum := by decide
      cases hpin with
      | q => exact List.all_eq_true.mp hpins.1 c hc
      | qbar => exact List.all_eq_true.mp hpins.2 c hc

end SyncCircuit

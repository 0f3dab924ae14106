import Mathlib
import SyncCircuit.Proofs.Build.InputText
import SyncCircuit.Proofs.Build.Realization

/-!
# Labels of inputs

A device can be asked for the label of any slot, whether it has that input or not. A gate numbers its
slots, and so do switches and clocks, which have no inputs. A flip-flop goes by the low byte of the
slot, so from 256 on the labels of its pins come back, four in every 256 slots. Read as a reference, a
label names the slot that it shows if the device has that input, and nothing otherwise. This is the
slot asked for, unless a flip-flop was asked for one from 256 on.

## Main definitions

* `Component.shownSlot` — the slot that a label shows.
* `Component.Repeats` — slots of a flip-flop with the label of one pin.
-/
namespace SyncCircuit

/-! ## Components -/

/-- No pin has a label with a hash sign in front. -/
theorem FlipFlop.Input.label_ne_hash (p : FlipFlop.Input) (s : String) : p.label ≠ "#" ++ s := by
  intro heq
  have hhead := congrArg (·.toList.head?) heq
  cases p <;> simp [label] at hhead

namespace Component

variable {c : Component} {inputs slot slot' k : Nat}

/-- The slot that the label of a slot shows: its low byte if it is one of a flip-flop. -/
def shownSlot : Component → Nat → Nat
  | .dtype, slot => slot % 256
  | .gate _, slot | .switch _, slot | .clock _, slot => slot

/-- The component is a flip-flop, and the low byte of both slots is that of one of its pins. -/
structure Repeats (c : Component) (slot slot' : Nat) : Prop where
  isDtype : c = .dtype
  lowByte : slot % 256 = slot' % 256
  isPin : slot % 256 < FlipFlop.Input.all.length

/-- Other components than flip-flops number their slots. -/
theorem toList_inputLabel (h : c ≠ .dtype) (slot : Nat) :
    (c.inputLabel slot).toList = 'I' :: Nat.toDigits 10 (slot + 1) := by
  have hnumber : ("I" ++ toString (slot + 1)).toList = 'I' :: Nat.toDigits 10 (slot + 1) := by
    rw [String.toList_append, Nat.toString_eq_repr, Nat.toList_repr]
    rfl
  cases c with
  | dtype => exact absurd rfl h
  | gate g | switch initial | clock halfPeriod => exact hnumber

/-- The label of a flip-flop's slot is that of the pin with its low byte, or the whole slot behind a
hash sign if there is no such pin. -/
theorem inputLabel_dtype_cases (slot : Nat) :
    (∃ p ∈ FlipFlop.Input.all, slot % 256 = p.index ∧ dtype.inputLabel slot = p.label) ∨
      FlipFlop.Input.all.length ≤ slot % 256 ∧ dtype.inputLabel slot = "#" ++ toString slot := by
  rcases Nat.lt_or_ge (slot % 256) FlipFlop.Input.all.length with hlt | hge
  · obtain ⟨p, hp, hindex⟩ := FlipFlop.Input.exists_of_lt hlt
    refine .inl ⟨p, hp, hindex, ?_⟩
    rw [inputLabel, hindex, FlipFlop.Input.ofIndex?_index, Option.elim_some]
  · refine .inr ⟨hge, ?_⟩
    rw [inputLabel, FlipFlop.Input.ofIndex?, List.getElem?_eq_none hge, Option.elim_none]
    rfl

/-- A slot in use is shown as itself. -/
theorem shownSlot_of_lt (h : c.AllowsInputs inputs) (hlt : slot < inputs) :
    c.shownSlot slot = slot := by
  cases c with
  | dtype =>
    obtain rfl : inputs = 4 := h
    exact Nat.mod_eq_of_lt (by omega)
  | gate g | switch initial | clock halfPeriod => rfl

/-- The label of a slot names no other input than the one that it shows. -/
theorem HasInput.eq_shownSlot (h : c.HasInput inputs (c.inputLabel slot) k) :
    k = c.shownSlot slot := by
  cases c with
  | gate g =>
    obtain ⟨digits, hlabel, -, -, hvalue, -⟩ := h
    rw [toList_inputLabel Component.noConfusion] at hlabel
    obtain ⟨-, rfl⟩ := List.cons.inj hlabel
    have hnumber := (Numeral.toDigits (slot + 1)).ofDigitChars
    exact Nat.succ.inj (hvalue.symm.trans hnumber)
  | dtype =>
    obtain ⟨p, -, hlabel, rfl⟩ := hasInput_dtype_iff.mp h
    rcases inputLabel_dtype_cases slot with ⟨p', -, hindex, hshown⟩ | ⟨-, hshown⟩
    · obtain rfl := FlipFlop.Input.label_inj (hlabel.symm.trans hshown)
      exact hindex.symm
    · exact absurd (hlabel.symm.trans hshown) (p.label_ne_hash _)
  | switch initial | clock halfPeriod => nomatch h

/-- **What a label names**: the slot that it shows, if the device has that input. -/
theorem hasInput_inputLabel_iff (h : c.AllowsInputs inputs) :
    c.HasInput inputs (c.inputLabel slot) k ↔ k = c.shownSlot slot ∧ k < inputs := by
  constructor
  · exact fun hinput => ⟨hinput.eq_shownSlot, hinput.lt h⟩
  · rintro ⟨rfl, hlt⟩
    cases c with
    | dtype =>
      obtain rfl : inputs = 4 := h
      rcases inputLabel_dtype_cases slot with ⟨p, hp, hindex, hshown⟩ | ⟨hge, -⟩
      · exact hasInput_dtype_iff.mpr ⟨p, hp, hshown, hindex⟩
      · exact absurd hlt (Nat.not_lt.mpr hge)
    | gate g | switch initial | clock halfPeriod => exact hasInput_inputLabel h hlt

theorem Repeats.inputLabel_eq (h : c.Repeats slot slot') :
    c.inputLabel slot = c.inputLabel slot' := by
  obtain ⟨rfl, hlow, hpin⟩ := h
  obtain ⟨p, -, hindex⟩ := FlipFlop.Input.exists_of_lt hpin
  rw [inputLabel, inputLabel, ← hlow, hindex, FlipFlop.Input.ofIndex?_index, Option.elim_some,
    Option.elim_some]

/-- **Slots of one component have different labels**, but for those of a flip-flop that show one
pin. -/
theorem inputLabel_eq_iff :
    c.inputLabel slot = c.inputLabel slot' ↔ slot = slot' ∨ c.Repeats slot slot' := by
  constructor
  · intro heq
    by_cases hc : c = .dtype
    · subst hc
      rcases inputLabel_dtype_cases slot with ⟨p, -, hindex, hshown⟩ | ⟨-, hshown⟩ <;>
        rcases inputLabel_dtype_cases slot' with ⟨p', hp', hindex', hshown'⟩ | ⟨-, hshown'⟩ <;>
        rw [hshown, hshown'] at heq
      · obtain rfl := FlipFlop.Input.label_inj heq
        refine .inr ⟨rfl, hindex.trans hindex'.symm, ?_⟩
        rw [hindex]
        cases p <;> decide
      · exact absurd heq (p.label_ne_hash _)
      · exact absurd heq.symm (p'.label_ne_hash _)
      · exact .inl (Nat.repr_inj.mp ((String.append_right_inj _).mp heq))
    · have hlists := congrArg String.toList heq
      rw [toList_inputLabel hc, toList_inputLabel hc] at hlists
      have hdigits := Numeral.toDigits (slot + 1)
      rw [(List.cons.inj hlists).2] at hdigits
      exact .inl (Nat.succ.inj (hdigits.unique (Numeral.toDigits (slot' + 1))))
  · rintro (rfl | hrepeats)
    · rfl
    · exact hrepeats.inputLabel_eq

/-- A label shows an input exactly if the slot is in use, or repeats one of a flip-flop. -/
theorem shownSlot_lt_iff (h : c.AllowsInputs inputs) : c.shownSlot slot < inputs ↔
    slot < inputs ∨ 256 ≤ slot ∧ c.Repeats slot (slot % 256) := by
  cases c with
  | dtype =>
    have hfour : inputs = FlipFlop.Input.all.length := h
    constructor
    · intro hlt
      by_cases hbyte : slot < 256
      · left
        rwa [shownSlot, Nat.mod_eq_of_lt hbyte] at hlt
      · rw [hfour] at hlt
        exact .inr ⟨Nat.not_lt.mp hbyte, rfl, (Nat.mod_mod slot 256).symm, hlt⟩
    · rintro (hlt | ⟨-, hrepeats⟩)
      · rwa [shownSlot_of_lt h hlt]
      · rw [hfour]
        exact hrepeats.isPin
  | gate g | switch initial | clock halfPeriod =>
    exact ⟨.inl, fun hor => hor.resolve_right fun hrepeats => nomatch hrepeats.2.isDtype⟩

end Component

/-! ## Devices -/

namespace Description

variable {d : Description} {i : Nat} {name : String} {part : Instance} {pin : Pin}

/-- A name is given once. -/
theorem Declares.index_unique {j : Nat} {part' : Instance} (hd : d.Declares i name part)
    (hd' : d.Declares j name part') (h : d.WellDeclared) : i = j := by
  have hindex := h.findIdx?_table_eq_some_iff.mpr ⟨part, hd⟩
  rw [h.findIdx?_table_eq_some_iff.mpr ⟨part', hd'⟩] at hindex
  exact (Option.some.inj hindex).symm

/-- A reference to a declared device names the input that the device has under the label. -/
theorem Declares.resolveInput_append_iff (hd : d.Declares i name part) (h : d.WellDeclared)
    {label : String} : d.table.resolveInput (.ofText (name ++ "." ++ label)) = .found pin ↔
      pin.device = i ∧ part.component.HasInput part.inputs label pin.position := by
  rw [InputRef.ofText_append ((hd.valid h).not_mem (by decide)), h.resolveInput_eq_found_iff]
  constructor
  · rintro ⟨part', hd', hinput⟩
    obtain rfl := hd.index_unique hd' h
    obtain ⟨-, rfl⟩ := hd.unique hd'
    exact ⟨rfl, hinput⟩
  · rintro ⟨rfl, hinput⟩
    exact ⟨part, hd, hinput⟩

/-- The label of a slot names the slot that it shows, if the device has that input. -/
theorem Declares.resolveInput_inputLabel_iff (hd : d.Declares i name part) (h : d.WellDeclared)
    {slot : Nat} :
    d.table.resolveInput (.ofText (name ++ "." ++ part.component.inputLabel slot)) = .found pin ↔
      pin = ⟨i, part.component.shownSlot slot⟩ ∧ pin.position < part.inputs := by
  obtain ⟨c, -, -, hpart⟩ := id hd
  obtain ⟨j, k⟩ := pin
  rw [hd.resolveInput_append_iff h,
    Component.hasInput_inputLabel_iff (Kind.instantiate_spec hpart).2, Pin.mk.injEq, and_assoc]

end Description

namespace Network

/-- **Labels and slots** of a built device. The label of every input, read as a reference, names that
input. The label of any slot names the slot that it shows if that is driven, and nothing otherwise.
So it names an input exactly if the slot is driven, or repeats one of a flip-flop from 256 on, and
only such slots have a label in common. -/
theorem build_input_labels (d : Description) (options : BuildOptions) (net : Network)
    (hb : d.build options = .ok net) (i : Nat) (dev : Device) (hdev : net.devices[i]? = some dev)
    (slot : Nat) :
    let named := d.table.resolveInput (.ofText (dev.inputLabel slot))
    (slot < dev.drivers.length → named = .found ⟨i, slot⟩) ∧
    (∀ pin, named = .found pin ↔
      pin = ⟨i, dev.component.shownSlot slot⟩ ∧ (dev.driver? pin.position).isSome) ∧
    ((∃ pin, named = .found pin) ↔
      (dev.driver? slot).isSome ∨ 256 ≤ slot ∧ dev.component.Repeats slot (slot % 256)) ∧
    ∀ slot', dev.inputLabel slot = dev.inputLabel slot' ↔
      slot = slot' ∨ dev.component.Repeats slot slot' := by
  obtain ⟨hv, rfl⟩ := Description.build_eq_ok_iff.mp hb
  have hd := hv.toWellDeclared
  obtain ⟨name, part, hdecl, rfl⟩ := hd.getElem?_devices_network_eq_some_iff.mp hdev
  have hinputs := hv.toWellConnected.length_drivers hd hdecl
  have hallows : part.component.AllowsInputs part.inputs := by
    obtain ⟨c, -, -, hpart⟩ := hdecl
    exact (Kind.instantiate_spec hpart).2
  have hdriven : ∀ k, ((d.device i name part).driver? k).isSome ↔ k < part.inputs := by
    intro k
    rw [Device.driver?, isSome_getElem?, hinputs]
  have hnamed : ∀ pin, d.table.resolveInput (.ofText ((d.device i name part).inputLabel slot)) =
      .found pin ↔ pin = ⟨i, part.component.shownSlot slot⟩ ∧ pin.position < part.inputs :=
    fun pin => hdecl.resolveInput_inputLabel_iff hd
  dsimp only
  refine ⟨fun hlt => ?_, fun pin => ?_, ?_, fun slot' => ?_⟩
  · rw [hinputs] at hlt
    exact (hnamed _).mpr ⟨by rw [Component.shownSlot_of_lt hallows hlt], hlt⟩
  · rw [hdriven]
    exact hnamed pin
  · rw [hdriven]
    refine Iff.trans ?_ (Component.shownSlot_lt_iff hallows)
    constructor
    · rintro ⟨pin, hpin⟩
      obtain ⟨rfl, hlt⟩ := (hnamed pin).mp hpin
      exact hlt
    · exact fun hlt => ⟨_, (hnamed _).mpr ⟨rfl, hlt⟩⟩
  · rw [Device.inputLabel, Device.inputLabel, String.append_right_inj]
    exact Component.inputLabel_eq_iff

/-- A flip-flop with all its inputs on one switch. -/
def tiedInputs : Description where
  devices := [⟨"S", .switch, some 1⟩, ⟨"F", .dtype, none⟩]
  connections := [⟨⟨"S", none⟩, ⟨"F", "DATA"⟩⟩, ⟨⟨"S", none⟩, ⟨"F", "CLK"⟩⟩,
    ⟨⟨"S", none⟩, ⟨"F", "SET"⟩⟩, ⟨⟨"S", none⟩, ⟨"F", "CLEAR"⟩⟩]

/-- The last input is found under its label, and so is it under that of a slot far beyond. The next
label of either sort names nothing. -/
theorem tiedInputs_input_labels :
    tiedInputs.build {} = .ok tiedInputs.network ∧
    ∃ dev, tiedInputs.network.devices[1]? = some dev ∧
      tiedInputs.table.resolveInput (.ofText (dev.inputLabel 3)) = .found ⟨1, 3⟩ ∧
      tiedInputs.table.resolveInput (.ofText (dev.inputLabel 515)) = .found ⟨1, 3⟩ ∧
      (∀ pin, tiedInputs.table.resolveInput (.ofText (dev.inputLabel 4)) ≠ .found pin) ∧
      (∀ pin, tiedInputs.table.resolveInput (.ofText (dev.inputLabel 516)) ≠ .found pin) ∧
      dev.inputLabel 4 ≠ dev.inputLabel 516 := by
  have hb : tiedInputs.build {} = .ok tiedInputs.network := rfl
  have hdev : tiedInputs.network.devices[1]? = some ⟨"F", .dtype, [0, 0, 0, 0], 1, []⟩ := by
    decide +kernel
  have h := build_input_labels tiedInputs {} _ hb 1 _ hdev
  refine ⟨hb, _, hdev, (h 3).1 (by decide), ?_, fun pin hpin => ?_, fun pin hpin => ?_, fun heq => ?_⟩
  · exact ((h 515).2.1 ⟨1, 3⟩).mpr ⟨rfl, by decide⟩
  · obtain ⟨rfl, hdriven⟩ := ((h 4).2.1 pin).mp hpin
    cases hdriven
  · obtain ⟨rfl, hdriven⟩ := ((h 516).2.1 pin).mp hpin
    cases hdriven
  · rcases ((h 4).2.2.2 516).mp heq with hsame | hrepeats
    · cases hsame
    · exact absurd hrepeats.isPin (by decide)

/-- A slot that a flip-flop does not have can be labelled like the input at another one. -/
theorem tiedInputs_label_of_no_input :
    tiedInputs.build {} = .ok tiedInputs.network ∧
    ∃ dev, tiedInputs.network.devices[1]? = some dev ∧ dev.driver? 256 = none ∧
      tiedInputs.table.resolveInput (.ofText (dev.inputLabel 256)) = .found ⟨1, 0⟩ ∧
      dev.inputLabel 256 = dev.inputLabel 0 :=
  ⟨rfl, ⟨"F", .dtype, [0, 0, 0, 0], 1, []⟩, by decide +kernel, rfl, by decide +kernel,
    by decide +kernel⟩

end Network

end SyncCircuit

import SyncCircuit.Catalog.Component

/-!
# Pin labels

Pins are addressed by label in a description and by position inside: an input has a slot, an
output a distance from the first output of its device. Gate inputs are `I1`, `I2` and so on,
flip-flop pins have names, all other outputs have none.
-/
namespace SyncCircuit

/-- The place of a pin in a circuit: the index of its device, and its position among the inputs or
among the outputs there. -/
structure Pin where
  device : Nat
  position : Nat
deriving DecidableEq, Repr

section Pins

variable {α : Type} (count : α → Nat) (as : List α)

/-- All pins of some devices in order, given how many each of them has. -/
def pins : List Pin := as.zipIdx.flatMap fun (a, i) => (List.range (count a)).map (⟨i, ·⟩)

/-- The number of pins of the devices before an index. -/
def pinsBefore (i : Nat) : Nat := (pins count (as.take i)).length

end Pins

/-- Numbers in labels are below this bound. -/
def numeralBound : Nat := UInt64.size

/-- The value of a non-empty string of ASCII digits, if it is below `numeralBound`. Leading zeros
are allowed. -/
def numeral? (digits : List Char) : Option Nat :=
  if digits ≠ [] ∧ digits.all Char.isDigit ∧ Nat.ofDigitChars 10 digits 0 < numeralBound then
    some (Nat.ofDigitChars 10 digits 0)
  else
    none

/-- The number behind the letter of a gate input label. -/
def gateInputNumber? (label : String) : Option Nat :=
  match label.toList with
  | 'I' :: digits => numeral? digits
  | _ => none

/-- Why a label names no pin of its device. -/
inductive PinFault where
  | unknownOutput (label : String)
  | outputLabelMissing
  | unnamedOutput (kind : Kind) (label : String)
  | inputNumber (gate : Gate) (inputs number : Nat)
  | inputFormat (inputs : Nat) (label : String)
  | unknownInput (label : String)
  | noInputs (kind : Kind)
deriving DecidableEq, Repr

/-- The wording of a fault. -/
def PinFault.reason : PinFault → String
  | .unknownOutput label => s!"DTYPE outputs are Q and QBAR, not {label}"
  | .outputLabelMissing => "DTYPE outputs must be named Q or QBAR"
  | .unnamedOutput kind label => s!"{kind.name} devices have a single unnamed output, not {label}"
  | .inputNumber gate inputs number =>
    s!"{gate.name} has inputs I1 to I{inputs}, not I{number}"
  | .inputFormat inputs label => s!"gate inputs are named I1 to I{inputs}, not {label}"
  | .unknownInput label => s!"DTYPE inputs are DATA, CLK, SET and CLEAR, not {label}"
  | .noInputs kind => s!"{kind.name} devices have no inputs"

namespace Component

/-- The distance from the first output to the one a label names. -/
def outputOffset : Component → Option String → Except PinFault Nat
  | .dtype, some label =>
    (FlipFlop.Output.ofLabel? label).elim (.error (.unknownOutput label)) (.ok ·.index)
  | .dtype, none => .error .outputLabelMissing
  | _, none => .ok 0
  | c, some label => .error (.unnamedOutput c.kind label)

/-- The slot of the input a label names, for a device with `inputs` inputs. -/
def inputSlot (c : Component) (inputs : Nat) (label : String) : Except PinFault Nat :=
  match c with
  | .gate g =>
    match gateInputNumber? label with
    | some n => if 1 ≤ n ∧ n ≤ inputs then .ok (n - 1) else .error (.inputNumber g inputs n)
    | none => .error (.inputFormat inputs label)
  | .dtype => (FlipFlop.Input.ofLabel? label).elim (.error (.unknownInput label)) (.ok ·.index)
  | .switch _ | .clock _ => .error (.noInputs c.kind)

/-- The label of the input at a slot. Flip-flop pins are told apart by the low byte of the slot;
one that names no pin is shown as the whole slot behind a hash sign. -/
def inputLabel (c : Component) (slot : Nat) : String :=
  match c with
  | .dtype => (FlipFlop.Input.ofIndex? (slot % 256)).elim s!"#{slot}" (·.label)
  | .gate _ | .switch _ | .clock _ => s!"I{slot + 1}"

/-- The label of the output at a distance from the first one, if it has one. The low byte of the
distance is what tells flip-flop pins apart. -/
def outputLabel? (c : Component) (offset : Nat) : Option String :=
  match c with
  | .dtype => (FlipFlop.Output.ofIndex? (offset % 256)).map (·.label)
  | .gate _ | .switch _ | .clock _ => none

end Component

/-! ## Labels that were written are read back -/

@[simp] theorem numeral?_toDigits {n : Nat} (h : n < numeralBound) :
    numeral? (Nat.toDigits 10 n) = some n := by
  have hv : Nat.ofDigitChars 10 (Nat.toDigits 10 n) 0 = n :=
    Nat.ofDigitChars_toDigits (by decide) (by decide)
  have hd : (Nat.toDigits 10 n).all Char.isDigit = true :=
    List.all_eq_true.mpr fun c hc => Nat.isDigit_of_mem_toDigits (by decide) (by decide) hc
  simp [numeral?, hv, hd, h, Nat.toDigits_ne_nil]

theorem gateInputNumber?_inputLabel {g : Gate} {slot : Nat} (h : slot + 1 < numeralBound) :
    gateInputNumber? ((Component.gate g).inputLabel slot) = some (slot + 1) := by
  simp [gateInputNumber?, Component.inputLabel, toString, Nat.repr, numeral?_toDigits h]

end SyncCircuit

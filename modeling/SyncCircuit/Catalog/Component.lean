import SyncCircuit.Catalog.FlipFlop
import SyncCircuit.Catalog.Kind

/-!
# Components

A component is a device kind together with its checked parameter. `Kind.instantiate` checks the
parameter of a declaration and says how many inputs the device gets.
-/
namespace SyncCircuit

/-- The largest number of inputs of an AND, OR, NAND or NOR gate. -/
def maxGateInputs : Nat := 16

/-- A device kind with only the parameters relevant to it. -/
inductive Component where
  | gate (g : Gate)
  | switch (initial : Bool)
  | clock (halfPeriod : UInt32)
  | dtype
deriving DecidableEq, Repr

namespace Component

/-- The kind of the component. -/
def kind : Component → Kind
  | .gate g => .gate g
  | .switch _ => .switch
  | .clock _ => .clock
  | .dtype => .dtype

/-- Whether the output is a function of the inputs alone. -/
def isGate : Component → Bool
  | .gate _ => true
  | .switch _ | .clock _ | .dtype => false

/-- The number of output pins. -/
def outputCount : Component → Nat
  | .dtype => 2
  | .gate _ | .switch _ | .clock _ => 1

/-- The kind, and the parameter where the kind does not fix it. -/
def text : Component → String
  | .switch initial => s!"SWITCH {initial.toNat}"
  | .clock halfPeriod => s!"CLOCK {halfPeriod}"
  | .gate g => g.name
  | .dtype => Kind.dtype.name

theorem outputCount_pos (c : Component) : 0 < c.outputCount := by
  cases c <;> simp [outputCount]

end Component

/-- A component with its number of input pins. -/
structure Instance where
  component : Component
  inputs : Nat
deriving DecidableEq, Repr

/-- Why the parameter of a declaration is refused. -/
inductive ParameterFault where
  /-- A gate of free width got a width that is not between 1 and `maxGateInputs`. -/
  | gateWidth (g : Gate) (got : UInt32)
  /-- A gate of free width got no width. -/
  | gateWidthMissing (g : Gate)
  /-- A gate of fixed width got another one. -/
  | gateWidthFixed (g : Gate) (inputs : Nat) (got : UInt32)
  | switchState (got : UInt32)
  | switchStateMissing
  | clockHalfPeriod (got : UInt32)
  | clockHalfPeriodMissing
  | dtypeParameter (got : UInt32)
deriving DecidableEq, Repr

/-- The wording of a fault. -/
def ParameterFault.reason : ParameterFault → String
  | .gateWidth g got => s!"{g.name} gates take between 1 and {maxGateInputs} inputs, got {got}"
  | .gateWidthMissing g => s!"{g.name} gates need an input count"
  | .gateWidthFixed g inputs got => s!"{g.name} gates have exactly {inputs} input(s), got {got}"
  | .switchState got => s!"switches start at 0 or 1, got {got}"
  | .switchStateMissing => "switches need an initial state of 0 or 1"
  | .clockHalfPeriod got => s!"clock half period must be at least 1, got {got}"
  | .clockHalfPeriodMissing => "clocks need a half period"
  | .dtypeParameter got => s!"DTYPE devices take no parameter, got {got}"

namespace Gate

/-- Checks the declared width of a gate. A gate of fixed width may repeat it or leave it out. -/
def instantiate (g : Gate) (width : Option UInt32) : Except ParameterFault Instance :=
  match g.fixedInputs?, width with
  | some n, none => .ok ⟨.gate g, n⟩
  | some n, some w =>
    if w.toNat = n then .ok ⟨.gate g, n⟩ else .error (.gateWidthFixed g n w)
  | none, none => .error (.gateWidthMissing g)
  | none, some w =>
    if 1 ≤ w.toNat ∧ w.toNat ≤ maxGateInputs then .ok ⟨.gate g, w.toNat⟩
    else .error (.gateWidth g w)

end Gate

/-- Checks the declared parameter of a device: the width of a gate, the state a switch starts in,
the half period of a clock, nothing for a flip-flop. -/
def Kind.instantiate (k : Kind) (parameter : Option UInt32) : Except ParameterFault Instance :=
  match k, parameter with
  | .gate g, width => g.instantiate width
  | .switch, none => .error .switchStateMissing
  | .switch, some n =>
    if n = 0 then .ok ⟨.switch false, 0⟩
    else if n = 1 then .ok ⟨.switch true, 0⟩
    else .error (.switchState n)
  | .clock, none => .error .clockHalfPeriodMissing
  | .clock, some n => if n = 0 then .error (.clockHalfPeriod n) else .ok ⟨.clock n, 0⟩
  | .dtype, none => .ok ⟨.dtype, FlipFlop.Input.all.length⟩
  | .dtype, some n => .error (.dtypeParameter n)

end SyncCircuit

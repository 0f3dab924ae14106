/-!
# D-type flip-flops

The named pins of a flip-flop and the value it stores on a rising clock edge. A pin has a label,
used in descriptions, and an index, its place among the pins of its side.
-/
namespace SyncCircuit.FlipFlop

/-- The value stored on a rising clock edge: SET wins over CLEAR, which wins over DATA. -/
def next (data set clear : Bool) : Bool :=
  if set then true else if clear then false else data

/-- Input pins of a flip-flop. -/
inductive Input where
  | data
  | clk
  | set
  | clear
deriving DecidableEq, Repr

namespace Input

/-- The inputs by index. -/
def all : List Input := [.data, .clk, .set, .clear]

/-- The label of the pin. -/
def label : Input → String
  | .data => "DATA"
  | .clk => "CLK"
  | .set => "SET"
  | .clear => "CLEAR"

/-- The slot of the pin. -/
def index : Input → Nat
  | .data => 0
  | .clk => 1
  | .set => 2
  | .clear => 3

/-- The input with this label. -/
def ofLabel? (s : String) : Option Input := all.find? (·.label == s)

/-- The input with this index. -/
def ofIndex? (i : Nat) : Option Input := all[i]?

@[simp] theorem ofLabel?_label (p : Input) : ofLabel? p.label = some p := by
  cases p <;> simp [ofLabel?, all, label]

@[simp] theorem ofIndex?_index (p : Input) : ofIndex? p.index = some p := by cases p <;> rfl

end Input

/-- Output pins of a flip-flop. -/
inductive Output where
  | q
  | qbar
deriving DecidableEq, Repr

namespace Output

/-- The outputs by index. -/
def all : List Output := [.q, .qbar]

/-- The label of the pin. -/
def label : Output → String
  | .q => "Q"
  | .qbar => "QBAR"

/-- The distance of the pin from the first output of its device. -/
def index : Output → Nat
  | .q => 0
  | .qbar => 1

/-- The output with this label. -/
def ofLabel? (s : String) : Option Output := all.find? (·.label == s)

/-- The output with this index. -/
def ofIndex? (i : Nat) : Option Output := all[i]?

@[simp] theorem ofLabel?_label (p : Output) : ofLabel? p.label = some p := by
  cases p <;> simp [ofLabel?, all, label]

@[simp] theorem ofIndex?_index (p : Output) : ofIndex? p.index = some p := by cases p <;> rfl

end Output

/-- Why a pin cannot be read from a text or a number. -/
inductive LookupFault where
  | unknownLabel
  | unknownInputIndex (index : Nat)
  | unknownOutputIndex (index : Nat)
deriving DecidableEq, Repr

/-- The wording of a fault. -/
def LookupFault.message : LookupFault → String
  | .unknownLabel => "Matching variant not found"
  | .unknownInputIndex i => s!"No discriminant in enum `DtypeInput` matches the value `{i}`"
  | .unknownOutputIndex i => s!"No discriminant in enum `DtypeOutput` matches the value `{i}`"

/-- Reads an input from its label. -/
def Input.ofLabel (s : String) : Except LookupFault Input :=
  (ofLabel? s).elim (.error .unknownLabel) .ok

/-- Reads an input from its index. -/
def Input.ofIndex (i : Nat) : Except LookupFault Input :=
  (ofIndex? i).elim (.error (.unknownInputIndex i)) .ok

/-- Reads an output from its label. -/
def Output.ofLabel (s : String) : Except LookupFault Output :=
  (ofLabel? s).elim (.error .unknownLabel) .ok

/-- Reads an output from its index. -/
def Output.ofIndex (i : Nat) : Except LookupFault Output :=
  (ofIndex? i).elim (.error (.unknownOutputIndex i)) .ok

end SyncCircuit.FlipFlop

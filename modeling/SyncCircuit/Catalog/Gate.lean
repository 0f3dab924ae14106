/-!
# Logic gates

The six gates and their output as a function of a list of input values. A gate folds its inputs
with one boolean operation and inverts the result if it is a negated one. The fold stops at the
first input that decides it, so `evaluate` never looks at inputs that cannot matter.
-/
namespace SyncCircuit

/-- A combinational gate. -/
inductive Gate where
  | and
  | or
  | nand
  | nor
  | xor
  | not
deriving DecidableEq, Repr

namespace Gate

/-- The gates in the order of the catalog. -/
def all : List Gate := [.and, .or, .nand, .nor, .xor, .not]

/-- The word a circuit description uses for the gate. -/
def name : Gate → String
  | .and => "AND"
  | .or => "OR"
  | .nand => "NAND"
  | .nor => "NOR"
  | .xor => "XOR"
  | .not => "NOT"

/-- The value the fold starts from; combining it with an input gives that input. -/
def neutral : Gate → Bool
  | .and | .nand => true
  | .or | .nor | .xor | .not => false

/-- Folds one more input into an accumulated value. -/
def combine : Gate → Bool → Bool → Bool
  | .and, acc, b | .nand, acc, b => acc && b
  | .or, acc, b | .nor, acc, b | .not, acc, b => acc || b
  | .xor, acc, b => acc ^^ b

/-- Whether one input can decide the fold on its own. -/
def absorbs : Gate → Bool
  | .xor => false
  | .and | .or | .nand | .nor | .not => true

/-- Whether the folded value is inverted before it reaches the output. -/
def isNegated : Gate → Bool
  | .nand | .nor | .not => true
  | .and | .or | .xor => false

/-- Folds the inputs from `acc` on, up to the first one that decides the result. -/
def accumulate (g : Gate) (acc : Bool) : List Bool → Bool
  | [] => acc
  | b :: bs =>
    let next := g.combine acc b
    if g.absorbs && next == !g.neutral then next else g.accumulate next bs

/-- The output of the gate. Any number of inputs is folded; none leaves the neutral value. -/
def evaluate (g : Gate) (inputs : List Bool) : Bool :=
  g.isNegated ^^ g.accumulate g.neutral inputs

/-- The number of inputs of a gate that leaves no choice. -/
def fixedInputs? : Gate → Option Nat
  | .xor => some 2
  | .not => some 1
  | .and | .or | .nand | .nor => none

@[simp] theorem combine_neutral (g : Gate) (b : Bool) : g.combine g.neutral b = b := by
  cases g <;> simp [combine, neutral]

@[simp] theorem accumulate_nil (g : Gate) (acc : Bool) : g.accumulate acc [] = acc := rfl

@[simp] theorem evaluate_nil (g : Gate) : g.evaluate [] = (g.isNegated ^^ g.neutral) := rfl

@[simp] theorem mem_all (g : Gate) : g ∈ all := by cases g <;> simp [all]

end Gate

end SyncCircuit

import SyncCircuit.Catalog.Gate

/-!
# Device kinds

The fixed catalog of kinds a circuit description can declare, spelled the way it spells them.
-/
namespace SyncCircuit

/-- A kind of device. -/
inductive Kind where
  | gate (g : Gate)
  | switch
  | clock
  | dtype
deriving DecidableEq, Repr

namespace Kind

/-- The catalog. -/
def all : List Kind := Gate.all.map .gate ++ [.switch, .clock, .dtype]

/-- The word for the kind. -/
def name : Kind → String
  | .gate g => g.name
  | .switch => "SWITCH"
  | .clock => "CLOCK"
  | .dtype => "DTYPE"

/-- The kind a word stands for. Only the exact spelling counts. -/
def ofName? (s : String) : Option Kind := all.find? (·.name == s)

@[simp] theorem mem_all (k : Kind) : k ∈ all := by
  cases k <;> simp [all]

@[simp] theorem ofName?_name (k : Kind) : ofName? k.name = some k := by
  rcases k with (_ | _ | _ | _ | _ | _) | _ | _ | _ <;>
    simp [ofName?, all, Gate.all, name, Gate.name]

end Kind

end SyncCircuit

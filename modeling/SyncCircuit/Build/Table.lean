import SyncCircuit.Build.Distinct
import SyncCircuit.BuildError

/-!
# The table of declared devices

The first stage of building a network: which names are declared, what the first declaration of
each makes of it, and which pin a reference names. A declaration whose parameter is refused still
makes its name known; references to it are set aside without a fault of their own.
-/
namespace SyncCircuit

/-- A declared name. -/
structure Entry where
  name : String
  /-- The device, unless the parameter of its declaration is refused. -/
  part : Option Instance
deriving DecidableEq, Repr

namespace Entry

/-- What a declaration makes of its name. -/
def ofDeclaration (d : Declaration) : Entry := ⟨d.name, (d.kind.instantiate d.parameter).toOption⟩

/-- The number of outputs; a refused device has none. -/
def outputCount (e : Entry) : Nat := e.part.elim 0 (·.component.outputCount)

end Entry

/-- The declared names in order, each of them once. -/
structure Table where
  entries : List Entry
deriving DecidableEq, Repr

/-- The declarations that introduce a new name. -/
def firstDeclarations (ds : List Declaration) : List Declaration := firsts (·.name) ds

/-- What naming a pin comes to. -/
inductive Resolution where
  | found (pin : Pin)
  /-- The parameter of the named device is refused. -/
  | rejected
  | invalid (fault : ReferenceFault)
deriving DecidableEq, Repr

namespace Resolution

/-- The pin that was found. -/
def pin? : Resolution → Option Pin
  | .found pin => some pin
  | .rejected | .invalid _ => none

/-- The fault of the reference. -/
def fault? : Resolution → Option ReferenceFault
  | .invalid fault => some fault
  | .found _ | .rejected => none

end Resolution

namespace Table

/-- The table of a list of declarations. -/
def ofDeclarations (ds : List Declaration) : Table :=
  ⟨(firstDeclarations ds).map Entry.ofDeclaration⟩

/-- The device with this index, unless it is refused. -/
def part? (t : Table) (i : Nat) : Option Instance := t.entries[i]?.bind (·.part)

/-- The number of the first output of the device with this index: outputs are numbered in
declaration order. -/
def firstOutput (t : Table) (i : Nat) : Nat := pinsBefore Entry.outputCount t.entries i

/-- The number of an output. -/
def outputNumber (t : Table) (pin : Pin) : Nat := t.firstOutput pin.device + pin.position

/-- Finds the pin of a device, given how its label is read. -/
def resolve (t : Table) (device : String) (position : Instance → Except PinFault Nat) :
    Resolution :=
  match t.entries.findIdx? (·.name == device) with
  | none => .invalid (.unknownDevice device)
  | some i =>
    match t.part? i with
    | none => .rejected
    | some part =>
      match position part with
      | .ok k => .found ⟨i, k⟩
      | .error fault => .invalid (.pin fault)

/-- Finds the output a reference names. -/
def resolveOutput (t : Table) (r : OutputRef) : Resolution :=
  t.resolve r.device fun part => part.component.outputOffset r.pin

/-- Finds the input a reference names. -/
def resolveInput (t : Table) (r : InputRef) : Resolution :=
  t.resolve r.device fun part => part.component.inputSlot part.inputs r.pin

theorem names_ofDeclarations (ds : List Declaration) :
    (ofDeclarations ds).entries.map (·.name) = (firstDeclarations ds).map (·.name) := by
  simp [ofDeclarations, Entry.ofDeclaration]

/-- A name has one entry only. -/
theorem nodup_names_ofDeclarations (ds : List Declaration) :
    ((ofDeclarations ds).entries.map (·.name)).Nodup := by
  rw [names_ofDeclarations]
  exact nodup_map_firsts _ _

end Table

namespace Declaration

/-- What is wrong with the name. -/
def nameErrors (d : Declaration) : List BuildError :=
  (nameFault? d.name).toList.map (.invalidDeviceName d.name)

/-- What is wrong with the parameter. -/
def parameterErrors (d : Declaration) : List BuildError :=
  match d.kind.instantiate d.parameter with
  | .ok _ => []
  | .error fault => [.invalidDeviceParameter d.name fault]

end Declaration

/-- What is wrong with the declarations, given the names declared before them. The parameter of a
declaration that repeats a name does not matter. -/
def declarationErrors (seen : List String) : List Declaration → List BuildError
  | [] => []
  | d :: ds =>
    d.nameErrors ++
      if d.name ∈ seen then .duplicateDeviceName d.name :: declarationErrors seen ds
      else d.parameterErrors ++ declarationErrors (d.name :: seen) ds

end SyncCircuit

import SyncCircuit.BuildError

/-!
# Networks

A network is a checked circuit. Devices have indices in declaration order, and the output pins of
all devices are numbered consecutively in that order; a flip-flop has Q before QBAR. Every input
slot is bound to the number of the output that drives it. A network never changes: the values of
its outputs are kept in a run.
-/
namespace SyncCircuit

/-- What is said of the entries of a list does not depend on their places. -/
theorem map_fst_zipIdx {α β : Type} (f : α → β) (as : List α) :
    as.zipIdx.map (fun p => f p.1) = as.map f := by
  rw [← Function.comp_def f Prod.fst, ← List.map_map, List.zipIdx_map_fst]

/-- A device of a network. -/
structure Device where
  name : String
  component : Component
  /-- The output that drives each input, by slot. -/
  drivers : List Nat
  /-- The number of its first output. -/
  firstOutput : Nat
  /-- The devices with an input it drives, by the first such connection. -/
  dependents : List Nat
deriving DecidableEq, Repr

/-- A checked circuit, with the outputs its description wants monitored. -/
structure Network where
  devices : List Device
  monitors : List Nat
deriving DecidableEq, Repr

namespace Device

/-- The output that drives an input. -/
def driver? (d : Device) (slot : Nat) : Option Nat := d.drivers[slot]?

/-- The label of an output: the name of the device, and the label of the pin if it has one. -/
def outputLabel (d : Device) (offset : Nat) : String :=
  match d.component.outputLabel? offset with
  | some label => d.name ++ "." ++ label
  | none => d.name

/-- The label of an input: the name of the device and the label of the pin. -/
def inputLabel (d : Device) (slot : Nat) : String := d.name ++ "." ++ d.component.inputLabel slot

end Device

namespace Network

/-- The number of devices. -/
def size (net : Network) : Nat := net.devices.length

/-- Whether there is no device. -/
def isEmpty (net : Network) : Bool := net.devices.isEmpty

/-- The number of connections. -/
def connectionCount (net : Network) : Nat := (net.devices.flatMap (·.drivers)).length

/-- The index of the device with this name. -/
def index? (net : Network) (name : String) : Option Nat := net.devices.findIdx? (·.name == name)

/-- The device with this name. -/
def device? (net : Network) (name : String) : Option Device := net.devices.find? (·.name == name)

/-- The name of the device with this index. -/
def deviceName (net : Network) (i : Nat) : String := (net.devices[i]?.map (·.name)).getD ""

/-- The indices of the devices whose component satisfies a test, in declaration order. -/
def indicesOf (net : Network) (test : Component → Bool) : List Nat :=
  (net.devices.zipIdx.filter fun (d, _) => test d.component).map (·.2)

/-- All outputs by number: whose output it is, and its position among the outputs there. -/
def outputs (net : Network) : List Pin := pins (·.component.outputCount) net.devices

/-- The number of outputs. -/
def outputCount (net : Network) : Nat := net.outputs.length

/-- The input pins of all devices, in order. -/
def inputs (net : Network) : List Pin := pins (·.drivers.length) net.devices

/-- The number of the output a reference names. -/
def output (net : Network) (r : OutputRef) : Except ReferenceFault Nat :=
  match net.device? r.device with
  | none => .error (.unknownDevice r.device)
  | some d =>
    match d.component.outputOffset r.pin with
    | .ok offset => .ok (d.firstOutput + offset)
    | .error fault => .error (.pin fault)

/-- The device an output belongs to. -/
def outputDevice? (net : Network) (o : Nat) : Option Nat := net.outputs[o]?.map (·.device)

/-- The label of an output, the empty text for a number that no output has. -/
def outputLabel (net : Network) (o : Nat) : String :=
  match net.outputs[o]? with
  | some pin => ((net.devices[pin.device]?).map (·.outputLabel pin.position)).getD ""
  | none => ""

theorem length_inputs (net : Network) : net.inputs.length = net.connectionCount := by
  simp only [inputs, pins, connectionCount, List.length_flatMap, List.length_map, List.length_range,
    map_fst_zipIdx (fun d : Device => d.drivers.length)]

theorem device?_eq_none_iff (net : Network) (name : String) :
    net.device? name = none ↔ net.index? name = none := by
  simp [device?, index?]

end Network

end SyncCircuit

import SyncCircuit.Network.Dot
import SyncCircuit.Signals.Bounded

/-!
# Tables that are looked up by index

A network can be kept in separate tables: names, what is known of each device, outputs, and lists of
the gates, clocks and flip-flops. Every question to the network is then a chain of lookups by index,
and each of them can miss.

## Main definitions

* `IndexFault` — a lookup that has missed.
* `Tables` — the tables of a network.
* `Network.tables` — the tables as they should be.
* `Tables.deviceName`, `Tables.output`, `Tables.dot` and others — questions to a network.
-/
namespace SyncCircuit

/-! ## Lookups -/

/-- The tables that are looked up by index. -/
inductive TableName where
  | names
  | nodes
  | outputs
  | drivers
  | memory
deriving DecidableEq, Repr

/-- A lookup that has missed. -/
inductive IndexFault where
  /-- The table has no entry with this index. -/
  | entry (table : TableName) (index size : Nat)
  /-- The signals have no bit with this index. -/
  | signal (fault : OutOfBounds)
deriving DecidableEq, Repr

namespace TableName

variable {α : Type} {xs : List α} {i : Nat} {a : α}

/-- The entry with an index. -/
def read (table : TableName) (xs : List α) (i : Nat) : Except IndexFault α :=
  match xs[i]? with
  | some a => .ok a
  | none => .error (.entry table i xs.length)

/-- The table with another entry at an index. -/
def write (table : TableName) (xs : List α) (i : Nat) (a : α) : Except IndexFault (List α) :=
  if i < xs.length then .ok (xs.set i a) else .error (.entry table i xs.length)

theorem read_of_getElem? (table : TableName) (h : xs[i]? = some a) : table.read xs i = .ok a := by
  rw [read, h]

theorem write_of_lt (table : TableName) (h : i < xs.length) (a : α) :
    table.write xs i a = .ok (xs.set i a) := if_pos h

end TableName

namespace Signals

variable {s : Signals} {o : Nat}

/-- The value of a bit, which the signals must have. -/
def readBit (s : Signals) (o : Nat) : Except IndexFault Bool := (s.read o).mapError .signal

/-- Writes a bit that the signals must have; also answers whether its value differed. -/
def writeBit (s : Signals) (o : Nat) (v : Bool) : Except IndexFault (Bool × Signals) :=
  (s.write o v).mapError .signal

theorem readBit_of_lt (h : o < s.size) : s.readBit o = .ok (s.get o) := by
  rw [readBit, read, within, if_pos h]
  rfl

theorem writeBit_of_lt (h : o < s.size) (v : Bool) :
    s.writeBit o v = .ok (s.differs o v, s.set o v) := by
  rw [writeBit, write, within, if_pos h]
  rfl

end Signals

/-! ## The tables of a network -/

/-- What is known of a device besides its name. -/
structure Node where
  component : Component
  drivers : List Nat
  firstOutput : Nat
  dependents : List Nat
deriving DecidableEq, Repr

/-- A device without its name. -/
def Device.node (dev : Device) : Node :=
  ⟨dev.component, dev.drivers, dev.firstOutput, dev.dependents⟩

/-- A device, given its name. -/
def Node.named (node : Node) (name : String) : Device :=
  ⟨name, node.component, node.drivers, node.firstOutput, node.dependents⟩

/-- Whether the component is a clock. -/
def Component.isClock : Component → Bool
  | .clock _ => true
  | .gate _ | .switch _ | .dtype => false

/-- Whether the component is a flip-flop. -/
def Component.isFlipFlop : Component → Bool
  | .dtype => true
  | .gate _ | .switch _ | .clock _ => false

theorem Component.isFlipFlop_iff {c : Component} : c.isFlipFlop = true ↔ c = .dtype := by
  cases c <;> simp [isFlipFlop]

/-- The tables of a network. -/
structure Tables where
  /-- The names of the devices, each with the index of the device. -/
  names : List (String × Nat)
  nodes : List Node
  outputs : List Pin
  gates : List Nat
  clocks : List Nat
  flipFlops : List Nat
  monitors : List Nat
deriving DecidableEq, Repr

/-- The tables of a network, all of them in the order of the devices. -/
def Network.tables (net : Network) : Tables where
  names := net.devices.zipIdx.map fun (dev, i) => (dev.name, i)
  nodes := net.devices.map Device.node
  outputs := net.outputs
  gates := net.indicesOf Component.isGate
  clocks := net.indicesOf Component.isClock
  flipFlops := net.indicesOf Component.isFlipFlop
  monitors := net.monitors

/-! ## Questions to a network, by way of its tables -/

namespace Tables

variable (t : Tables)

/-- What is known of the device with this index. -/
def node (i : Nat) : Except IndexFault Node := TableName.nodes.read t.nodes i

/-- Whose output this is. -/
def pin (o : Nat) : Except IndexFault Pin := TableName.outputs.read t.outputs o

/-- The index of the device with this name. -/
def index? (name : String) : Option Nat := (t.names.find? (·.1 == name)).map (·.2)

/-- The name of the device with this index. -/
def deviceName (i : Nat) : Except IndexFault String := do
  let (name, _) ← TableName.names.read t.names i
  pure name

/-- The component of the device with this index. -/
def component (i : Nat) : Except IndexFault Component := do
  let node ← t.node i
  pure node.component

/-- The names and components of all devices, in declaration order. -/
def devices : Except IndexFault (List (String × Component)) :=
  t.names.mapM fun (name, i) => do
    let component ← t.component i
    pure (name, component)

/-- The number of the output a reference names. -/
def output (r : OutputRef) : Except IndexFault (Except ReferenceFault Nat) :=
  match t.index? r.device with
  | none => pure (.error (.unknownDevice r.device))
  | some i => do
    let node ← t.node i
    match node.component.outputOffset r.pin with
    | .ok offset => pure (.ok (node.firstOutput + offset))
    | .error fault => pure (.error (.pin fault))

/-- The device an output belongs to. -/
def outputDevice (o : Nat) : Except IndexFault Nat := do
  let pin ← t.pin o
  pure pin.device

/-- The label of an output. -/
def outputLabel (o : Nat) : Except IndexFault String := do
  let pin ← t.pin o
  let name ← t.deviceName pin.device
  let node ← t.node pin.device
  pure ((node.named name).outputLabel pin.position)

/-- The label of an input, whether or not the device has it. -/
def inputLabel (i slot : Nat) : Except IndexFault String := do
  let name ← t.deviceName i
  let node ← t.node i
  pure ((node.named name).inputLabel slot)

/-- The output that drives an input, if the device has the input. -/
def driver? (i slot : Nat) : Except IndexFault (Option Nat) := do
  let node ← t.node i
  pure node.drivers[slot]?

/-- The devices that a device drives. -/
def dependents (i : Nat) : Except IndexFault (List Nat) := do
  let node ← t.node i
  pure node.dependents

/-- The vertex of a device in the drawing, which has one for every name. -/
def vertex (i : Nat) : Except IndexFault Nat := do
  let _ ← TableName.names.read t.names i
  pure i

/-- The edge into an input of a device, given what drives it. -/
def edge (i : Nat) (node : Node) (o slot : Nat) : Except IndexFault String := do
  let pin ← t.pin o
  let source ← t.vertex pin.device
  let target ← t.vertex i
  pure (Network.edgeLine source target (node.component.inputLabel slot))

/-- The nodes of the drawing, one for every name. -/
def nodeLines : Except IndexFault (List String) :=
  t.names.zipIdx.mapM fun ((name, _), i) => do
    let node ← t.node i
    pure (Network.nodeLine i (node.named name))

/-- The edges of the drawing, device by device. -/
def edgeLines : Except IndexFault (List (List String)) :=
  t.nodes.zipIdx.mapM fun (node, i) =>
    node.drivers.zipIdx.mapM fun (o, slot) => t.edge i node o slot

/-- The drawing of the network. -/
def dot : Except IndexFault String := do
  let nodeLines ← t.nodeLines
  let edgeLines ← t.edgeLines
  pure ("digraph \x7b\n" ++ String.join nodeLines ++ String.join edgeLines.flatten ++ "\x7d\n")

end Tables

end SyncCircuit

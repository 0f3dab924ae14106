import SyncCircuit.Build.Basic
import SyncCircuit.Graph.Traversal
import SyncCircuit.Network.Tables

/-!
# The builder at work

The builder goes over the statements in passes. It keeps a node for every declared name, with slots
that the connections bind one after the other, and one list of errors that every pass adds to. The
search for loops looks at the nodes as they are by then, with slots left open and devices refused. A
monitor that names no pin takes back what has just been reported and reports it anew.

## Main definitions

* `Description.tables` — the tables of the network that is built.
* `Slot`, `BuildNode`, `Builder` — what is known while it is built.
* `Builder.declare`, `Builder.connect`, `Builder.openErrors`, `Builder.loopErrors`,
  `Builder.monitor` — the passes.
* `Builder.build` — all of them, one after the other.
-/
namespace SyncCircuit

/-! ## What is built -/

/-- The devices of a table whose component satisfies a test, by index. -/
def Table.indicesOf (t : Table) (test : Component → Bool) : List Nat :=
  (t.entries.zipIdx.filter fun (e, _) => e.part.any fun part => test part.component).map (·.2)

/-- The tables as the builder fills them. Names and outputs are entered when a device is declared,
refused or not, while the devices that are kept are collected in the end. -/
def Description.tables (d : Description) : Tables where
  names := d.table.entries.zipIdx.map fun (e, i) => (e.name, i)
  nodes := d.wiring.devices.map Device.node
  outputs := pins Entry.outputCount d.table.entries
  gates := d.table.indicesOf Component.isGate
  clocks := d.table.indicesOf Component.isClock
  flipFlops := d.table.indicesOf Component.isFlipFlop
  monitors := d.network.monitors

/-! ## What is known on the way -/

/-- What an input is bound to while a network is built. -/
inductive Slot where
  | vacant
  /-- Driven by the output with this number, through the connection with this index. -/
  | driven (output connection : Nat)
  /-- Taken by the connection with this index, which comes from a refused device. -/
  | refused (connection : Nat)
deriving DecidableEq, Repr

namespace Slot

/-- The connection that took the input. -/
def connection? : Slot → Option Nat
  | .vacant => none
  | .driven _ k | .refused k => some k

/-- The output that drives the input. -/
def output? : Slot → Option Nat
  | .driven o _ => some o
  | .vacant | .refused _ => none

end Slot

/-- A device while a network is built. -/
structure BuildNode where
  /-- The component, unless the declaration is refused. -/
  component : Option Component
  slots : List Slot
  firstOutput : Nat
  dependents : List Nat
deriving DecidableEq, Repr

/-- What is known while a network is built. -/
structure Builder where
  nodes : List BuildNode := []
  /-- The declared names, each with the index of its node. -/
  names : List (String × Nat) := []
  outputs : List Pin := []
  errors : List BuildError := []
deriving DecidableEq, Repr

namespace Builder

variable (b : Builder)

/-- The index of the node with a name. -/
def index? (name : String) : Option Nat := (b.names.find? (·.1 == name)).map (·.2)

/-- The component of a node, unless it is refused. -/
def component? (i : Nat) : Option Component := b.nodes[i]?.bind (·.component)

/-- The inputs of a node. -/
def slots (i : Nat) : List Slot := b.nodes[i]?.elim [] (·.slots)

/-- The first output of a node. -/
def firstOutput (i : Nat) : Nat := b.nodes[i]?.elim 0 (·.firstOutput)

/-- The dependents of a node. -/
def dependents (i : Nat) : List Nat := b.nodes[i]?.elim [] (·.dependents)

/-- Adds errors to the report. -/
def report (errors : List BuildError) : Builder := { b with errors := b.errors ++ errors }

/-! ## Declarations -/

/-- Adds a node for a name. -/
def add (name : String) (part : Option Instance) : Builder where
  nodes := b.nodes ++ [⟨part.map (·.component), .replicate (part.elim 0 (·.inputs)) .vacant,
    b.outputs.length, []⟩]
  names := b.names ++ [(name, b.nodes.length)]
  outputs := b.outputs ++
    (List.range (part.elim 0 (·.component.outputCount))).map (⟨b.nodes.length, ·⟩)
  errors := b.errors

/-- Goes over a declaration. -/
def declare (c : Declaration) : Builder :=
  let b := b.report c.nameErrors
  if (b.index? c.name).isSome then b.report [.duplicateDeviceName c.name]
  else
    match c.kind.instantiate c.parameter with
    | .ok part => b.add c.name (some part)
    | .error fault => (b.report [.invalidDeviceParameter c.name fault]).add c.name none

/-! ## Connections -/

/-- The node a name stands for and its component. An unknown name is reported. -/
def lookup (name reference : String) : Builder × Option (Nat × Component) :=
  match b.index? name with
  | some i => (b, (b.component? i).map (i, ·))
  | none => (b.report [.unknownDeviceReference name reference], none)

/-- Whether the name is declared, but refused. -/
def isRefused (name : String) : Bool :=
  (b.index? name).any fun i => (b.component? i).isNone

/-- The number of the output that a reference names. What is wrong with it is reported. -/
def resolveOutput (r : OutputRef) : Builder × Option Nat :=
  match b.lookup r.device r.text with
  | (b, none) => (b, none)
  | (b, some (i, component)) =>
    match component.outputOffset r.pin with
    | .ok k => (b, some (b.firstOutput i + k))
    | .error fault => (b.report [.invalidPinReference r.text fault], none)

/-- The input that a reference names. What is wrong with it is reported. -/
def resolveInput (r : InputRef) : Builder × Option Pin :=
  match b.lookup r.device r.text with
  | (b, none) => (b, none)
  | (b, some (i, component)) =>
    match component.inputSlot (b.slots i).length r.pin with
    | .ok k => (b, some ⟨i, k⟩)
    | .error fault => (b.report [.invalidPinReference r.text fault], none)

/-- Binds an input. -/
def setSlot (pin : Pin) (slot : Slot) : Builder :=
  { b with nodes := b.nodes.modify pin.device fun n =>
    { n with slots := n.slots.set pin.position slot } }

/-- The list with an element at the end that was not in it. -/
def insertNew (xs : List Nat) (x : Nat) : List Nat := if x ∈ xs then xs else xs ++ [x]

/-- Enters a device among the dependents of the one that drives its input. -/
def addDependent (slot : Slot) (i : Nat) : Builder :=
  match slot.output?.bind (b.outputs[·]?) with
  | none => b
  | some driver =>
    { b with nodes := b.nodes.modify driver.device fun n =>
      { n with dependents := insertNew n.dependents i } }

/-- Binds the input that a connection leads to, unless another one of the connections has. -/
def take (cs : List Connection) (c : Connection) (pin : Pin) (slot : Slot) : Builder :=
  match ((b.slots pin.device)[pin.position]?).bind Slot.connection? with
  | some first =>
    b.report [.duplicateDriver c.target.text (cs[first]?.elim "" (·.source.text)) c.source.text]
  | none => (b.setSlot pin slot).addDependent slot pin.device

/-- Goes over one of the connections, given with its index. -/
def connect (cs : List Connection) (b : Builder) : Connection × Nat → Builder
  | (c, k) =>
    let (b, driver) := b.resolveOutput c.source
    let (b, input) := b.resolveInput c.target
    match driver, input with
    | some o, some pin => b.take cs c pin (.driven o k)
    | none, some pin =>
      if b.isRefused c.source.device then b.take cs c pin (.refused k) else b
    | _, none => b

/-! ## Checks -/

/-- The inputs left open. -/
def openErrors : List BuildError :=
  b.names.flatMap fun (name, i) =>
    match b.component? i with
    | none => []
    | some component =>
      (b.slots i).zipIdx.filterMap fun (slot, k) =>
        if slot = .vacant then some (.unconnectedInput name (component.inputLabel k)) else none

/-- Whether a node is a gate. -/
def isGate (i : Nat) : Bool := (b.component? i).any (·.isGate)

/-- The loops of gates. -/
def loopErrors : List BuildError :=
  ((Graph.Traversal.loops? b.nodes.length b.isGate b.dependents).getD []).map fun loop =>
    .combinationalCycle ((loop.mapM fun i => b.names[i]?.map (·.1)).getD [])

/-! ## Monitors -/

/-- Goes over a monitor, given the outputs monitored before it. -/
def monitor : Builder × List Nat → OutputRef → Builder × List Nat
  | (b, monitors), r =>
    if (b.index? r.device).isNone then
      (b.report [.invalidMonitorTarget r.text (.reference (.unknownDevice r.device))], monitors)
    else
      match b.resolveOutput r with
      | (b, some o) =>
        if o ∈ monitors then (b.report [.invalidMonitorTarget r.text .alreadyMonitored], monitors)
        else (b, monitors ++ [o])
      | (b', none) =>
        -- What has been reported about the pin is taken back.
        match b'.errors[b.errors.length]? with
        | some (.invalidPinReference _ fault) =>
          (({ b' with errors := b'.errors.take b.errors.length } : Builder).report
            [.invalidMonitorTarget r.text (.reference (.pin fault))], monitors)
        | _ => (b', monitors)

/-! ## The whole build -/

/-- The nodes whose component satisfies a test, by index. -/
def indicesOf (test : Component → Bool) : List Nat :=
  (b.nodes.zipIdx.filter fun (n, _) => n.component.any test).map (·.2)

/-- The tables of the finished network. -/
def finish (monitors : List Nat) : Tables where
  names := b.names
  nodes := b.nodes.filterMap fun n => n.component.map fun component =>
    ⟨component, n.slots.filterMap Slot.output?, n.firstOutput, n.dependents⟩
  outputs := b.outputs
  gates := b.indicesOf Component.isGate
  clocks := b.indicesOf Component.isClock
  flipFlops := b.indicesOf Component.isFlipFlop
  monitors := monitors

/-- Goes over all statements. -/
def run (d : Description) (options : BuildOptions) : Builder × List Nat :=
  let b := d.devices.foldl declare {}
  let b := d.connections.zipIdx.foldl (connect d.connections) b
  let b := b.report b.openErrors
  let b := if options.allowFeedback then b else b.report b.loopErrors
  d.monitors.foldl monitor (b, [])

/-- Finishes the network if there is nothing to report. -/
def build (d : Description) (options : BuildOptions) : Except BuildErrors Tables :=
  let (b, monitors) := run d options
  if h : b.errors = [] then .ok (b.finish monitors) else .error ⟨b.errors, h⟩

end Builder

end SyncCircuit

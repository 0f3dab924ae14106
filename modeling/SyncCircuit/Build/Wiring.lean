import SyncCircuit.Build.Table
import SyncCircuit.Graph.Loop
import SyncCircuit.Network.Basic

/-!
# Wiring

The second stage of building a network: which output drives which input. A connection takes its
target pin if that pin exists and the source is an output or a refused device; the first connection
to take a pin holds it.
-/
namespace SyncCircuit

/-- A connection that takes an input pin. -/
structure Attachment where
  target : Pin
  /-- The driving output, unless the parameter of its device is refused. -/
  driver : Option Pin
  connection : Connection
deriving DecidableEq, Repr

namespace Table

/-- The pin a connection takes, and what drives it. -/
def attachment? (t : Table) (c : Connection) : Option Attachment :=
  match t.resolveInput c.target, t.resolveOutput c.source with
  | .found target, .found driver => some ⟨target, some driver, c⟩
  | .found target, .rejected => some ⟨target, none, c⟩
  | _, _ => none

/-- What is wrong with the two ends of a connection. -/
def endErrors (t : Table) (c : Connection) : List BuildError :=
  ((t.resolveOutput c.source).fault?.map (·.buildError c.source.text)).toList ++
    ((t.resolveInput c.target).fault?.map (·.buildError c.target.text)).toList

/-- What is wrong with the connections, given the attachments that hold a pin already. -/
def connectionErrors (t : Table) (held : List Attachment) : List Connection → List BuildError
  | [] => []
  | c :: cs =>
    t.endErrors c ++
      match t.attachment? c with
      | none => t.connectionErrors held cs
      | some a =>
        match held.find? (·.target == a.target) with
        | some first =>
          .duplicateDriver c.target.text first.connection.source.text c.source.text ::
            t.connectionErrors held cs
        | none => t.connectionErrors (a :: held) cs

end Table

/-- A table of devices with the connections that hold their pins, at most one for each pin. -/
structure Wiring where
  table : Table
  attachments : List Attachment
deriving DecidableEq, Repr

namespace Wiring

/-- Connects the devices of a table. -/
def ofConnections (t : Table) (cs : List Connection) : Wiring :=
  ⟨t, firsts (·.target) (cs.filterMap t.attachment?)⟩

/-- The connection that holds a pin. -/
def holder? (w : Wiring) (pin : Pin) : Option Attachment :=
  w.attachments.find? (·.target == pin)

/-- A pin is held by the first connection that takes it. -/
theorem holder?_ofConnections (t : Table) (cs : List Connection) (pin : Pin) :
    (ofConnections t cs).holder? pin = (cs.filterMap t.attachment?).find? (·.target == pin) :=
  find?_firsts _ _ _

/-- The output that drives a pin. -/
def driver? (w : Wiring) (pin : Pin) : Option Pin := (w.holder? pin).bind (·.driver)

/-- The devices with an input that a device drives, by the first such connection. -/
def dependents (w : Wiring) (i : Nat) : List Nat :=
  ((w.attachments.filter (·.driver.any (·.device == i))).map (·.target.device)).eraseDups

/-- The inputs nothing is connected to, by device and slot. -/
def openInputErrors (w : Wiring) : List BuildError :=
  w.table.entries.zipIdx.flatMap fun (e, i) =>
    match e.part with
    | none => []
    | some part =>
      ((List.range part.inputs).filter fun slot => (w.holder? ⟨i, slot⟩).isNone).map fun slot =>
        .unconnectedInput e.name (part.component.inputLabel slot)

/-- Whether the device with this index is a gate. -/
def isGate (w : Wiring) (i : Nat) : Bool := (w.table.part? i).any (·.component.isGate)

/-- The loops that run through gates only. -/
def loops (w : Wiring) : List (List Nat) :=
  Graph.findLoops w.table.entries.length w.isGate w.dependents

/-- The loops as errors. -/
def loopErrors (w : Wiring) : List BuildError :=
  w.loops.map fun loop =>
    .combinationalCycle (loop.filterMap fun i => w.table.entries[i]?.map (·.name))

/-- The devices that were not refused, with their inputs bound. -/
def devices (w : Wiring) : List Device :=
  w.table.entries.zipIdx.filterMap fun (e, i) =>
    e.part.map fun part =>
      { name := e.name
        component := part.component
        drivers := (List.range part.inputs).filterMap fun slot =>
          (w.driver? ⟨i, slot⟩).map w.table.outputNumber
        firstOutput := w.table.firstOutput i
        dependents := w.dependents i }

end Wiring

end SyncCircuit

import SyncCircuit.Catalog.Kind
import SyncCircuit.Reference

/-!
# Circuit descriptions

A description is three lists of statements, each in the order they were made: devices,
connections and monitors. It may say anything; `Description.build` decides whether it
makes sense. The functions below append statements, so a circuit can be written as a chain.
-/
namespace SyncCircuit

/-- Declares a device. The parameter is the number of inputs of a gate, the initial state of a
switch or the half period of a clock. -/
structure Declaration where
  name : String
  kind : Kind
  parameter : Option UInt32
deriving DecidableEq, Repr

/-- Connects an output pin to an input pin. -/
structure Connection where
  source : OutputRef
  target : InputRef
deriving DecidableEq, Repr

/-- The statements of a circuit description. -/
structure Description where
  devices : List Declaration := []
  connections : List Connection := []
  monitors : List OutputRef := []
deriving DecidableEq, Repr

namespace Description

/-- Declares a device of any kind. -/
def declare (d : Description) (name : String) (kind : Kind) (parameter : Option UInt32) :
    Description :=
  { d with devices := d.devices ++ [⟨name, kind, parameter⟩] }

/-- Connects an output to an input. -/
def connect (d : Description) (source : OutputRef) (target : InputRef) : Description :=
  { d with connections := d.connections ++ [⟨source, target⟩] }

/-- Adds an output to the monitored ones. -/
def monitor (d : Description) (output : OutputRef) : Description :=
  { d with monitors := d.monitors ++ [output] }

/-- Connects the drivers, in order, to the inputs `I1`, `I2` and so on of a device. -/
def wire (d : Description) (name : String) (drivers : List String) : Description :=
  { d with connections := d.connections ++
      drivers.mapIdx fun i driver => ⟨.ofText driver, ⟨name, s!"I{i + 1}"⟩⟩ }

/-- Declares a gate with a number of inputs. -/
def gate (d : Description) (g : Gate) (name : String) (inputs : UInt32) : Description :=
  d.declare name (.gate g) (some inputs)

/-- Declares a gate whose number of inputs is fixed by its kind. -/
def fixedGate (d : Description) (g : Gate) (name : String) : Description :=
  d.declare name (.gate g) none

/-- Declares a gate with one input for each driver and connects them. -/
def wiredGate (d : Description) (g : Gate) (name : String) (drivers : List String) : Description :=
  (d.gate g name drivers.length.toUInt32).wire name drivers

/-- Declares a gate whose number of inputs is fixed by its kind and connects the drivers. -/
def wiredFixedGate (d : Description) (g : Gate) (name : String) (drivers : List String) :
    Description :=
  (d.fixedGate g name).wire name drivers

/-- Declares a switch and the state it starts in. -/
def switch (d : Description) (name : String) (initial : Bool) : Description :=
  d.declare name .switch (some (if initial then 1 else 0))

/-- Declares a clock whose output holds each phase for `halfPeriod` cycles. -/
def clock (d : Description) (name : String) (halfPeriod : UInt32) : Description :=
  d.declare name .clock (some halfPeriod)

/-- Declares a flip-flop. -/
def dtype (d : Description) (name : String) : Description := d.declare name .dtype none

end Description

end SyncCircuit

import SyncCircuit.Catalog.Pin
import SyncCircuit.Description

/-!
# Faults of a description

Everything that can be wrong with a circuit description, each fault with its cause. The names of
the error kinds and the wording of the messages are fixed here.
-/
namespace SyncCircuit

/-- Why a name cannot be given to a device. -/
inductive NameFault where
  | empty
  | firstCharacter
  | character
  | keyword
deriving DecidableEq, Repr

/-- The wording of a fault. -/
def NameFault.reason : NameFault → String
  | .empty => "names can't be empty"
  | .firstCharacter => "names must start with a letter"
  | .character => "names may only contain letters and digits"
  | .keyword => "names can't be a list keyword"

/-- Words that open or close a list of statements. -/
def listKeywords : List String := ["DEVICE", "CONNECT", "MONITOR", "INPUTS"]

/-- What is wrong with a device name, if anything: it has to start with an ASCII letter, to hold
nothing but ASCII letters and digits, and not to be a list keyword. -/
def nameFault? (name : String) : Option NameFault :=
  match name.toList with
  | [] => some .empty
  | c :: cs =>
    if !c.isAlpha then some .firstCharacter
    else if !(c :: cs).all Char.isAlphanum then some .character
    else if name ∈ listKeywords then some .keyword
    else none

/-- Why a reference names no pin. -/
inductive ReferenceFault where
  | unknownDevice (device : String)
  | pin (fault : PinFault)
deriving DecidableEq, Repr

/-- Why an output cannot be monitored. -/
inductive MonitorFault where
  | reference (fault : ReferenceFault)
  | alreadyMonitored
deriving DecidableEq, Repr

/-- The wording of a fault. -/
def MonitorFault.reason : MonitorFault → String
  | .reference (.unknownDevice device) => s!"no device named `{device}`"
  | .reference (.pin fault) => fault.reason
  | .alreadyMonitored => "already monitored"

/-- A fault of a description. References are quoted in their displayed form. -/
inductive BuildError where
  /-- Two devices share a name. -/
  | duplicateDeviceName (name : String)
  | invalidDeviceName (name : String) (fault : NameFault)
  | invalidDeviceParameter (device : String) (fault : ParameterFault)
  /-- A connection names a device that is not declared. -/
  | unknownDeviceReference (device reference : String)
  /-- A connection names a pin its device does not have. -/
  | invalidPinReference (reference : String) (fault : PinFault)
  /-- An input pin has no driver. -/
  | unconnectedInput (device pin : String)
  /-- An input pin has a driver already. -/
  | duplicateDriver (input first second : String)
  /-- A closed chain of gates, which ends with the device it starts with. -/
  | combinationalCycle (devices : List String)
  | invalidMonitorTarget (reference : String) (fault : MonitorFault)
deriving DecidableEq, Repr

namespace BuildError

/-- The name of the kind of error. -/
def name : BuildError → String
  | .duplicateDeviceName _ => "DuplicateDeviceName"
  | .invalidDeviceName _ _ => "InvalidDeviceName"
  | .invalidDeviceParameter _ _ => "InvalidDeviceParameter"
  | .unknownDeviceReference _ _ => "UnknownDeviceReference"
  | .invalidPinReference _ _ => "InvalidPinReference"
  | .unconnectedInput _ _ => "UnconnectedInput"
  | .duplicateDriver _ _ _ => "DuplicateDriver"
  | .combinationalCycle _ => "CombinationalCycle"
  | .invalidMonitorTarget _ _ => "InvalidMonitorTarget"

/-- The wording of the error. -/
def message : BuildError → String
  | .duplicateDeviceName name => s!"device `{name}` is declared more than once"
  | .invalidDeviceName name fault => s!"`{name}` is not a valid device name: {fault.reason}"
  | .invalidDeviceParameter device fault => s!"device `{device}` is invalid: {fault.reason}"
  | .unknownDeviceReference device reference =>
    s!"`{reference}` refers to undeclared device `{device}`"
  | .invalidPinReference reference fault => s!"`{reference}` is not a valid pin: {fault.reason}"
  | .unconnectedInput device pin => s!"input `{device}.{pin}` is not connected"
  | .duplicateDriver input first second =>
    s!"input `{input}` is driven by both `{first}` and `{second}`"
  | .combinationalCycle devices =>
    "combinational feedback loop through " ++ " -> ".intercalate devices
  | .invalidMonitorTarget reference fault => s!"cannot monitor `{reference}`: {fault.reason}"

end BuildError

/-- The error a connection with this fault causes. -/
def ReferenceFault.buildError (reference : String) : ReferenceFault → BuildError
  | .unknownDevice device => .unknownDeviceReference device reference
  | .pin fault => .invalidPinReference reference fault

/-- The faults of a description in the order they were found. There is at least one. -/
structure BuildErrors where
  errors : List BuildError
  errors_ne_nil : errors ≠ []

namespace BuildErrors

/-- The number of errors. -/
def length (e : BuildErrors) : Nat := e.errors.length

/-- The number of errors of a kind. -/
def count (e : BuildErrors) (name : String) : Nat := e.errors.countP (·.name == name)

/-- Whether there is an error of a kind. -/
def contains (e : BuildErrors) (name : String) : Bool := e.errors.any (·.name == name)

/-- The number of errors of every kind that occurs, by first appearance. -/
def counts (e : BuildErrors) : List (String × Nat) :=
  (e.errors.map (·.name)).eraseDups.map fun name => (name, e.count name)

/-- All errors on lines of their own, below a line with their number. -/
def message (e : BuildErrors) : String :=
  s!"{e.length} error(s) in circuit description" ++
    String.join (e.errors.map fun error => s!"\n  {error.name}: {error.message}")

end BuildErrors

end SyncCircuit

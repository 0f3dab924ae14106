import SyncCircuit.Run.Fault
import SyncCircuit.Run.Settle

/-!
# The log of a run

Log messages are values of the event types of the operations that cause them; each event has a level
and a wording. Here are the levels and the events of a run. Outputs are kept by number and get their
label from the network when the message is written.
-/
namespace SyncCircuit

/-- How much a log message matters. -/
inductive Level where
  | error
  | warn
  | info
  | debug
deriving DecidableEq, Repr

/-- The word for a level. -/
def Level.name : Level → String
  | .error => "error"
  | .warn => "warn"
  | .info => "info"
  | .debug => "debug"

/-- A step of a run worth a log message. -/
inductive RunEvent where
  | probe (cycle : Nat) (probe : Probe)
  | coldStartSettled (passes : Nat)
  | cycleSettled (cycle passes : Nat)
  | oscillated (o : Oscillation)
  | restarted
  | monitoring (reference : String)
  | stoppedMonitoring (label : String)
deriving DecidableEq, Repr

namespace RunEvent

/-- How much the event matters. -/
def level : RunEvent → Level
  | .oscillated _ => .error
  | .restarted => .info
  | .probe _ _ | .coldStartSettled _ | .cycleSettled _ _ | .monitoring _
  | .stoppedMonitoring _ => .debug

/-- The wording of the event. -/
def message (net : Network) : RunEvent → String
  | .probe cycle p =>
    s!"cycle {cycle} pass {p.pass}: {net.outputLabel p.output} -> {p.value.toNat}"
  | .coldStartSettled passes => s!"cold start settled after {passes} passes"
  | .cycleSettled cycle passes => s!"cycle {cycle} settled after {passes} passes"
  | .oscillated o => o.message
  | .restarted => "simulation reset"
  | .monitoring reference => s!"monitoring {reference}"
  | .stoppedMonitoring label => s!"stopped monitoring {label}"

end RunEvent

end SyncCircuit

import SyncCircuit.BuildError

/-!
# Faults of a run

A run can fail by itself in one way only: signals that do not settle. All other faults refuse a
request and leave the run as it is.
-/
namespace SyncCircuit

/-- Signals kept changing for the whole budget of passes. Cycle zero is the cold start. -/
structure Oscillation where
  cycle : Nat
  maxPasses : Nat
deriving DecidableEq, Repr

/-- The wording of the fault. -/
def Oscillation.message (o : Oscillation) : String :=
  s!"signals did not settle within {o.maxPasses} propagation passes in cycle {o.cycle}"

/-- Why a request to a run fails. -/
inductive RunFault where
  | oscillation (o : Oscillation)
  | unknownDevice (name : String)
  | notASwitch (name : String)
  | invalidMonitorTarget (reference : String) (fault : MonitorFault)
  | notMonitored (label : String)
deriving DecidableEq, Repr

namespace RunFault

/-- Why an output cannot be monitored, as a run words it. -/
def monitorReason (reference : String) : MonitorFault → String
  | .reference fault => (fault.buildError reference).message
  | .alreadyMonitored => MonitorFault.alreadyMonitored.reason

/-- The wording of the fault. -/
def message : RunFault → String
  | .oscillation o => o.message
  | .unknownDevice name => s!"no device named `{name}`"
  | .notASwitch name => s!"device `{name}` is not a switch"
  | .invalidMonitorTarget reference fault =>
    s!"cannot monitor `{reference}`: {monitorReason reference fault}"
  | .notMonitored label => s!"`{label}` is not monitored"

end RunFault

end SyncCircuit

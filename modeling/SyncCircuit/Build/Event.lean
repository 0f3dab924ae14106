import SyncCircuit.Build.Basic
import SyncCircuit.Run.Event

/-!
# The log of a build

Building reports every name as it is declared, and at the end either all errors or the size of the
network.
-/
namespace SyncCircuit

/-- A step of a build worth a log message. -/
inductive BuildEvent where
  | declared (name : String) (kind : Kind)
  | refused (error : BuildError)
  | built (devices connections monitors : Nat)
deriving DecidableEq, Repr

namespace BuildEvent

/-- How much the event matters. -/
def level : BuildEvent → Level
  | .declared _ _ => .debug
  | .refused _ => .warn
  | .built _ _ _ => .info

/-- The wording of the event. -/
def message : BuildEvent → String
  | .declared name kind => s!"declared {name}: {kind.name}"
  | .refused error => error.message
  | .built devices connections monitors =>
    s!"built network: {devices} devices, {connections} connections, {monitors} monitors"

end BuildEvent

namespace Description

/-- What a finished build has to report. -/
def outcomeEvents : Except BuildErrors Network → List BuildEvent
  | .ok net => [.built net.size net.connectionCount net.monitors.length]
  | .error e => e.errors.map .refused

/-- The log of building a description. -/
def buildEvents (d : Description) (options : BuildOptions) : List BuildEvent :=
  (firstDeclarations d.devices).map (fun c => .declared c.name c.kind) ++
    outcomeEvents (d.build options)

end Description

end SyncCircuit

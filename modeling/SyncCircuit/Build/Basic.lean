import SyncCircuit.Build.Wiring

/-!
# Building networks

`Description.build` checks all statements of a description and either assembles the network they
describe or reports everything that is wrong with them. `Description.errors` is that report and
`Description.network` that network; the network has a meaning only if there are no errors.
-/
namespace SyncCircuit

/-- Options for building a network. -/
structure BuildOptions where
  /-- Whether loops made of gates only are accepted. -/
  allowFeedback : Bool := false
deriving DecidableEq, Repr

/-- What is wrong with the monitored outputs, given the outputs monitored before them. References to
refused devices are passed over. -/
def Table.monitorErrors (t : Table) (seen : List Pin) : List OutputRef → List BuildError
  | [] => []
  | r :: rs =>
    match t.resolveOutput r with
    | .rejected => t.monitorErrors seen rs
    | .invalid fault =>
      .invalidMonitorTarget r.text (.reference fault) :: t.monitorErrors seen rs
    | .found pin =>
      if pin ∈ seen then
        .invalidMonitorTarget r.text .alreadyMonitored :: t.monitorErrors seen rs
      else t.monitorErrors (pin :: seen) rs

namespace Description

/-- The declared devices. -/
def table (d : Description) : Table := .ofDeclarations d.devices

/-- The declared devices and their connections. -/
def wiring (d : Description) : Wiring := .ofConnections d.table d.connections

/-- Everything that is wrong with a description: first with the declarations, then with the
connections, the inputs left open, the loops and the monitors. -/
def errors (d : Description) (options : BuildOptions) : List BuildError :=
  declarationErrors [] d.devices ++
    d.table.connectionErrors [] d.connections ++
    d.wiring.openInputErrors ++
    (if options.allowFeedback then [] else d.wiring.loopErrors) ++
    d.table.monitorErrors [] d.monitors

/-- The network a description without errors describes. -/
def network (d : Description) : Network where
  devices := d.wiring.devices
  monitors :=
    let pins := d.monitors.filterMap fun r => (d.table.resolveOutput r).pin?
    (pins.map d.table.outputNumber).eraseDups

/-- Builds the network of a description, or reports all its errors. -/
def build (d : Description) (options : BuildOptions) : Except BuildErrors Network :=
  if h : d.errors options = [] then .ok d.network else .error ⟨d.errors options, h⟩

end Description

end SyncCircuit

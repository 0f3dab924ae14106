import SyncCircuit.Network.Basic
import SyncCircuit.Text.Lines

/-!
# Networks as DOT text

A network drawn in the DOT language: a node for every device and an edge for every input pin. What is
drawn is a graph with labels, whatever the spelling of the lines for its nodes and edges; the DOT
language is one spelling.

## Main definitions

* `Network.dot` — the text of a network.
* `Drawing` — a graph with labels on nodes and edges.
* `Drawing.Format` — how the lines for nodes and edges are spelled.
* `Network.drawing` — the graph of a network.
-/
namespace SyncCircuit

/-! ## The text -/

namespace Network

/-- The line of a device, labelled with its name and type. -/
def nodeLine (i : Nat) (d : Device) : String :=
  s!"    {i} [ label = \"{d.name}:{d.component.text}\" ]\n"

/-- The line of an input pin, from the device that drives it to the device that has it. -/
def edgeLine (source target : Nat) (label : String) : String :=
  s!"    {source} -> {target} [ label = \"{label}\" ]\n"

/-- The edges into a device, by slot. -/
def edgeLines (net : Network) (i : Nat) (d : Device) : List String :=
  d.drivers.zipIdx.filterMap fun (o, slot) =>
    (net.outputDevice? o).map fun source => edgeLine source i (d.component.inputLabel slot)

/-- The drawing: all nodes in declaration order, then all edges by device and slot. -/
def dot (net : Network) : String :=
  let devices := net.devices.zipIdx
  "digraph \x7b\n" ++ String.join (devices.map fun (d, i) => nodeLine i d) ++
    String.join (devices.flatMap fun (d, i) => net.edgeLines i d) ++ "\x7d\n"

end Network

/-! ## Any spelling of a graph -/

/-- An edge of a drawing, between two nodes given by their numbers. -/
structure Edge where
  source : Nat
  target : Nat
  label : String
deriving DecidableEq, Repr

/-- A graph with labels, its nodes and edges in the order in which they were added. -/
structure Drawing where
  nodes : List String
  edges : List Edge
deriving DecidableEq, Repr

namespace Drawing

/-- How the lines of a drawing are spelled. -/
structure Format where
  opening : String
  node : Nat → String → String
  edge : Edge → String
  closing : String

/-- The lines of the text: a line for every node with its number, and then a line for every edge. -/
def textLines (f : Format) (d : Drawing) : List String :=
  f.opening :: ((d.nodes.zipIdx.map fun (label, i) => f.node i label) ++
    (d.edges.map f.edge ++ [f.closing]))

/-- The text of a drawing. -/
def text (f : Format) (d : Drawing) : String := unlines (d.textLines f)

/-- The spelling of lines in the DOT language. -/
def dotFormat : Format where
  opening := "digraph \x7b"
  node i label := "    " ++ toString i ++ " [ label = \"" ++ label ++ "\" ]"
  edge e := "    " ++ toString e.source ++ " -> " ++ toString e.target ++ " [ label = \"" ++
    e.label ++ "\" ]"
  closing := "\x7d"

end Drawing

namespace Network

/-- The device whose output drives an input. -/
def drivingDevice? (net : Network) (pin : Pin) : Option Nat := do
  let dev ← net.devices[pin.device]?
  let o ← dev.driver? pin.position
  net.outputDevice? o

/-- The edge into an input. -/
def edge? (net : Network) (pin : Pin) : Option Edge := do
  let dev ← net.devices[pin.device]?
  let source ← net.drivingDevice? pin
  some ⟨source, pin.device, dev.component.inputLabel pin.position⟩

/-- The graph of a network: a node for every device, and an edge for every input. -/
def drawing (net : Network) : Drawing where
  nodes := net.devices.map fun dev => dev.name ++ ":" ++ dev.component.text
  edges := net.inputs.filterMap net.edge?

end Network

end SyncCircuit

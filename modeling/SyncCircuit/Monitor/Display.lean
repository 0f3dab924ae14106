import SyncCircuit.Monitor.Basic

/-!
# Displayed traces

All traces as text, one to a line: the label, padded so that the traces line up, and the pattern.
There is a plain form and one for terminals, where labels are blue, high samples green and low
samples red. Terminals have their own ways to write colours, so there is a form for any of them.
-/
namespace SyncCircuit

/-- Colours of a terminal. -/
inductive Colour where
  | blue
  | green
  | red
deriving DecidableEq, Repr

namespace Colour

/-- The number of the colour in the palette of 256. -/
def code : Colour → Nat
  | .blue => 12
  | .green => 10
  | .red => 9

/-- A text in a colour, between the escape sequences that turn it on and off. -/
def paint (c : Colour) (s : String) : String := s!"\x1b[38;5;{c.code}m" ++ s ++ "\x1b[0m"

end Colour

/-- Fills a text up with blanks to a width. -/
def padRight (s : String) (width : Nat) : String :=
  s ++ String.ofList (List.replicate (width - s.length) ' ')

/-- A sample in its colour. -/
def colouredSample (v : Bool) : String :=
  (if v then Colour.green else Colour.red).paint (String.singleton (sampleChar v))

namespace Trace

/-- The label padded to a width, with the separator behind it. -/
def heading (t : Trace) (width : Nat) : String := padRight t.label width ++ " : "

/-- The plain line of a trace. -/
def line (t : Trace) (width : Nat) : String := t.heading width ++ t.pattern

/-- The coloured line of a trace, with the end of the line. -/
def colouredLine (t : Trace) (width : Nat) : String :=
  Colour.blue.paint (t.heading width) ++
    String.join (t.samples.toList.map colouredSample) ++ "\n"

/-- The line of a trace in colours, with its end. -/
def paintedLine (paint : Colour → String → String) (t : Trace) (width : Nat) : String :=
  paint .blue (t.heading width) ++
    String.join (t.samples.toList.map fun v =>
      paint (if v then .green else .red) (String.singleton (sampleChar v))) ++ "\n"

end Trace

namespace Monitors

/-- The width of the longest label, in bytes. -/
def margin (m : Monitors) : Nat := (m.traces.map (·.label.utf8ByteSize)).foldl max 0

/-- The plain lines of all traces. -/
def display (m : Monitors) : String :=
  "\n".intercalate (m.traces.map (·.line m.margin))

/-- The coloured lines of all traces. -/
def colouredDisplay (m : Monitors) : String :=
  String.join (m.traces.map (·.colouredLine m.margin))

/-- The lines of all traces in colours, however these are written. -/
def paintedDisplay (paint : Colour → String → String) (m : Monitors) : String :=
  String.join (m.traces.map (·.paintedLine paint m.margin))

end Monitors

end SyncCircuit

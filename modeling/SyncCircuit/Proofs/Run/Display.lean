import SyncCircuit.Proofs.Monitor.Display
import SyncCircuit.Proofs.Run.Labels

/-!
# The display of a run

Whatever has happened in a run, its monitors have the labels of outputs, made of letters, digits and
dots. So both displays say the same, and all that is recorded can be read from them.
-/
namespace SyncCircuit.Run

variable {net : Network} {r : Run net}

theorem WellRecorded.legible (hr : r.WellRecorded) (h : net.WellFormed)
    (hnames : ∀ dev ∈ net.devices, ValidName dev.name) : ∀ t ∈ r.monitors.traces, t.Legible := by
  intro t ht c hc
  rw [hr.label_eq ht] at hc
  exact h.mem_outputLabel hnames (hr.outputs t ht) hc

/-- **Both displays of a run agree and lose nothing.** However colours are written, the coloured
display without its escape sequences is the plain one and one more line end, or empty if nothing is
monitored. The plain display has a line for each monitor, in order. In every line the separator is
where the margin says, the label stands before it, and the samples behind it. -/
theorem build_displays_agree (d : Description) (options : BuildOptions) (net : Network)
    (hb : d.build options = .ok net) (config : Config) (cs : List Command) :
    let m := ((start net config).1.performAll cs).monitors
    (∀ paint, Escaping paint →
      plainText (m.paintedDisplay paint) = if m.traces = [] then "" else m.display ++ "\n") ∧
    (Escaping Colour.paint ∧ m.colouredDisplay = m.paintedDisplay Colour.paint) ∧
    (lines m.display).map reading? =
      m.traces.map fun t => some ⟨m.margin, t.label, t.samples.toList⟩ := by
  have hr := (WellRecorded.start (Description.build_monitors_lt hb) config).performAll
    (Description.build_wellFormed hb) cs
  have hlegible := hr.legible (Description.build_wellFormed hb) (Description.build_validName hb)
  dsimp only
  generalize ((start net config).1.performAll cs).monitors = m at hlegible ⊢
  refine ⟨fun paint hpaint => ?_, ⟨escaping_paint, m.colouredDisplay_eq⟩,
    Monitors.reading?_display hlegible⟩
  rw [hpaint.plainText_paintedDisplay fun t ht => (hlegible t ht).not_mem (by decide) (by decide)]
  exact m.unlines_lines

/-- Labels of different lengths, and samples that start later than those above them. -/
theorem latchAndRing_displays_agree :
    latchAndRing.build { allowFeedback := true } = .ok latchAndRing.network ∧
    let m := ((start latchAndRing.network {}).1.performAll [.setSwitch "H" false, .advance,
      .addMonitor ⟨"F", some "QBAR"⟩, .addMonitor ⟨"C", none⟩, .advanceBy 5]).monitors
    m.display = "N      : ------\nF.QBAR : -----\nC      : --__-" ∧
    plainText m.colouredDisplay = m.display ++ "\n" ∧
    (lines m.display).map reading? = [some ⟨6, "N", [true, true, true, true, true, true]⟩,
      some ⟨6, "F.QBAR", [true, true, true, true, true]⟩,
      some ⟨6, "C", [true, true, false, false, true]⟩] := by
  obtain ⟨hplain, ⟨hpaint, hcoloured⟩, hread⟩ := build_displays_agree latchAndRing
    { allowFeedback := true } latchAndRing.network rfl {} [.setSwitch "H" false, .advance,
      .addMonitor ⟨"F", some "QBAR"⟩, .addMonitor ⟨"C", none⟩, .advanceBy 5]
  refine ⟨rfl, by decide +kernel, ?_, hread.trans (by decide +kernel)⟩
  rw [hcoloured, hplain _ hpaint]
  exact if_neg (by decide +kernel)

end SyncCircuit.Run

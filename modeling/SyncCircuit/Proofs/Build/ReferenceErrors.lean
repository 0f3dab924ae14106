import SyncCircuit.Proofs.Build.Feedback
import SyncCircuit.Proofs.Build.References

/-!
# Reporting references

A connection has two ends, and each end that names an undeclared device, or a pin its device does not
have, is reported once and as just that. A monitor is reported once if it names an undeclared device,
or an output its device does not have, or the same output as a monitor before it. References to
rejected devices are reported nowhere: their declarations are. The errors about monitors stand at the
end of the report, and no monitor takes back what has been found before.

## Main definitions

* `Description.ends` — the ends of all connections.
* `Description.FaultyAfter` — what is wrong with a monitor, given those before it.
* `Description.ReportsReferences` — what a report says about references.
-/
namespace SyncCircuit

/-! ## Quoted references -/

/-- The reference that an error quotes. -/
def BuildError.reference? : BuildError → Option String
  | .unknownDeviceReference _ reference | .invalidPinReference reference _
  | .invalidMonitorTarget reference _ => some reference
  | _ => none

/-- What the errors of a kind quote, in order: one entry for each of them. -/
def quoted (kind : String) (es : List BuildError) : List (Option String) :=
  (es.filter (·.name == kind)).map (·.reference?)

section Quoted

variable {kind : String}

@[simp] theorem length_quoted (es : List BuildError) :
    (quoted kind es).length = es.countP (·.name == kind) := by
  rw [quoted, List.length_map, List.countP_eq_length_filter]

@[simp] theorem quoted_nil : quoted kind [] = [] := rfl

theorem quoted_append (es es' : List BuildError) :
    quoted kind (es ++ es') = quoted kind es ++ quoted kind es' := by
  rw [quoted, List.filter_append, List.map_append]
  rfl

theorem quoted_singleton (e : BuildError) :
    quoted kind [e] = if e.name = kind then [e.reference?] else [] := by
  by_cases h : e.name = kind <;> simp [quoted, h]

/-- The errors of a kind are among those about one subject. -/
theorem quoted_errors {d : Description} {options : BuildOptions} {s : Subject}
    (h : ∀ e : BuildError, e.name = kind → e.subject = s) :
    quoted kind (d.errors options) = quoted kind (d.reportOn options s) := by
  rw [quoted, quoted, Description.filter_errors_of_subject fun e he => h e (beq_iff_eq.mp he)]

end Quoted

/-! ## Ends of connections -/

/-- One end of a connection. -/
inductive ConnectionEnd where
  | source (r : OutputRef)
  | target (r : InputRef)
deriving DecidableEq, Repr

namespace ConnectionEnd

/-- The name of the device. -/
def device : ConnectionEnd → String
  | .source r => r.device
  | .target r => r.device

/-- The displayed form. -/
def text : ConnectionEnd → String
  | .source r => r.text
  | .target r => r.text

end ConnectionEnd

/-- The ends of a connection. -/
def Connection.ends (c : Connection) : List ConnectionEnd := [.source c.source, .target c.target]

namespace Description

variable (d : Description)

/-- The ends of all connections. -/
def ends : List ConnectionEnd := d.connections.flatMap Connection.ends

/-- The end names an undeclared device. -/
def Undeclared (e : ConnectionEnd) : Prop := d.verdict e.device = .undeclared

/-- The end names an accepted device and a pin it does not have. -/
def LacksPin : ConnectionEnd → Prop
  | .source r => d.LacksOutput r
  | .target r => d.LacksInput r

/-- Two references find the same output. -/
def SameOutput (r r' : OutputRef) : Prop :=
  r.device = r'.device ∧ ∃ offset, d.FindsOutput r offset ∧ d.FindsOutput r' offset

/-- Something is wrong with a monitor, given those before it. -/
def FaultyAfter (earlier : List OutputRef) (r : OutputRef) : Prop :=
  d.verdict r.device = .undeclared ∨ d.LacksOutput r ∨ ∃ r' ∈ earlier, d.SameOutput r' r

instance (e : ConnectionEnd) : Decidable (d.Undeclared e) := inferInstanceAs (Decidable (_ = _))

instance (e : ConnectionEnd) : Decidable (d.LacksPin e) := by
  cases e <;> unfold LacksPin <;> infer_instance

theorem FindsOutput.lt_two {d : Description} {r : OutputRef} {offset : Nat}
    (h : d.FindsOutput r offset) : offset < 2 := by
  obtain ⟨part, -, houtput⟩ := h
  have hlt := houtput.lt_outputCount
  cases hcomp : part.component <;> simp [hcomp, Component.outputCount] at hlt <;> omega

instance (r r' : OutputRef) : Decidable (d.SameOutput r r') :=
  decidable_of_iff
    (r.device = r'.device ∧ ∃ offset, offset < 2 ∧ d.FindsOutput r offset ∧ d.FindsOutput r' offset)
    (and_congr_right fun _ => exists_congr fun _ => and_iff_right_of_imp fun h => h.1.lt_two)

instance (earlier : List OutputRef) (r : OutputRef) : Decidable (d.FaultyAfter earlier r) :=
  inferInstanceAs (Decidable (_ ∨ _ ∨ _))

/-- The monitors something is wrong with. -/
def faultyMonitors (rs : List OutputRef) : List OutputRef :=
  (rs.zipIdx.filter fun p => d.FaultyAfter (rs.take p.2) p.1).map (·.1)

/-- **What a report says about references.** Errors of each of the three kinds are as many as there
are references with that fault, and quote just these, in order. -/
structure ReportsReferences (es : List BuildError) : Prop where
  undeclared : es.countP (·.name == "UnknownDeviceReference") = d.ends.countP (d.Undeclared ·)
  lacking : es.countP (·.name == "InvalidPinReference") = d.ends.countP (d.LacksPin ·)
  monitors : es.countP (·.name == "InvalidMonitorTarget") =
    d.monitors.zipIdx.countP fun p => d.FaultyAfter (d.monitors.take p.2) p.1
  quoted_undeclared : quoted "UnknownDeviceReference" es =
    (d.ends.filter (d.Undeclared ·)).map (some ·.text)
  quoted_lacking : quoted "InvalidPinReference" es =
    (d.ends.filter (d.LacksPin ·)).map (some ·.text)
  quoted_monitors : quoted "InvalidMonitorTarget" es =
    (d.faultyMonitors d.monitors).map (some ·.text)

variable {d}

/-! ## Errors of connections -/

/-- The error an end of a connection causes. -/
def endError? (d : Description) : ConnectionEnd → Option BuildError
  | .source r => (d.table.resolveOutput r).fault?.map (·.buildError r.text)
  | .target r => (d.table.resolveInput r).fault?.map (·.buildError r.text)

theorem endErrors_eq_filterMap (c : Connection) :
    d.table.endErrors c = c.ends.filterMap d.endError? := by
  have hends : d.table.endErrors c =
      (d.endError? (.source c.source)).toList ++ (d.endError? (.target c.target)).toList := rfl
  rw [hends, Connection.ends]
  cases h : d.endError? (.source c.source) <;> cases h' : d.endError? (.target c.target) <;>
    simp [h, h']

/-- **What a table reports of a reference** follows from the verdict on its device. -/
theorem error?_resolve_cases (name text : String) (position : Instance → Except PinFault Nat) :
    let lacks := ∃ part, d.verdict name = .accepted part ∧ ¬ ∃ k, position part = .ok k
    let error? := (d.table.resolve name position).fault?.map (·.buildError text)
    (d.verdict name = .undeclared ∧ ¬ lacks ∧
      error? = some (.unknownDeviceReference name text)) ∨
    (¬ d.verdict name = .undeclared ∧ lacks ∧
      ∃ fault, error? = some (.invalidPinReference text fault)) ∨
    (¬ d.verdict name = .undeclared ∧ ¬ lacks ∧ error? = none) := by
  rw [resolve_eq]
  cases d.verdict name with
  | undeclared => exact .inl ⟨rfl, by simp, rfl⟩
  | rejected => exact .inr (.inr ⟨by simp, by simp, rfl⟩)
  | accepted part =>
    cases hposition : position part with
    | ok k => exact .inr (.inr ⟨by simp, by simp [hposition], by simp [hposition, Resolution.fault?]⟩)
    | error fault =>
      refine .inr (.inl ⟨by simp, ⟨part, rfl, by simp [hposition]⟩, fault, ?_⟩)
      simp [hposition, Resolution.fault?, ReferenceFault.buildError]

theorem lacksOutput_iff {r : OutputRef} : d.LacksOutput r ↔
    ∃ part, d.verdict r.device = .accepted part ∧
      ¬ ∃ k, part.component.outputOffset r.pin = .ok k := by
  simp only [LacksOutput, Component.outputOffset_eq_ok_iff]

theorem lacksInput_iff {r : InputRef} : d.LacksInput r ↔
    ∃ part, d.verdict r.device = .accepted part ∧
      ¬ ∃ k, part.component.inputSlot part.inputs r.pin = .ok k := by
  refine exists_congr fun part => and_congr_right fun hpart => ?_
  simp only [Component.inputSlot_eq_ok_iff (allowsInputs_of_accepted hpart).lt_numeralBound]

/-- **Every end has its error**, or none: the three cases exclude each other. -/
theorem endError?_cases (e : ConnectionEnd) :
    (d.Undeclared e ∧ ¬ d.LacksPin e ∧
      d.endError? e = some (.unknownDeviceReference e.device e.text)) ∨
    (¬ d.Undeclared e ∧ d.LacksPin e ∧
      ∃ fault, d.endError? e = some (.invalidPinReference e.text fault)) ∨
    (¬ d.Undeclared e ∧ ¬ d.LacksPin e ∧ d.endError? e = none) := by
  cases e with
  | source r =>
    rw [LacksPin, lacksOutput_iff]
    exact error?_resolve_cases r.device r.text _
  | target r =>
    rw [LacksPin, lacksInput_iff]
    exact error?_resolve_cases r.device r.text _

end Description

/-- A question that is not about duplicates is one about the ends of the connections. -/
theorem Table.filter_connectionErrors_of_ends {t : Table} {q : BuildError → Bool}
    (hq : ∀ input first second, q (.duplicateDriver input first second) = false)
    (cs : List Connection) :
    (t.connectionErrors [] cs).filter q = (cs.flatMap t.endErrors).filter q := by
  induction cs using List.reverseRecOn with
  | nil => rfl
  | append_singleton cs c ih =>
    have htake : ∀ holder?, (takeErrors c holder?).filter q = [] := by
      intro holder?
      cases holder? <;> simp [takeErrors, hq]
    rw [connectionErrors_concat, List.filter_append, List.filter_append, ih, htake,
      List.append_nil, List.flatMap_append, List.filter_append, List.flatMap_singleton]

namespace Description

variable {d : Description}

theorem quoted_connectionErrors {kind : String} (hkind : kind ≠ "DuplicateDriver") :
    quoted kind (d.table.connectionErrors [] d.connections) =
      quoted kind (d.ends.filterMap d.endError?) := by
  have hq : ∀ input first second,
      ((BuildError.duplicateDriver input first second).name == kind) = false :=
    fun _ _ _ => beq_false_of_ne hkind.symm
  have hends : d.connections.flatMap d.table.endErrors = d.ends.filterMap d.endError? := by
    rw [ends, List.filterMap_flatMap]
    exact List.flatMap_congr fun c _ => endErrors_eq_filterMap c
  rw [quoted, Table.filter_connectionErrors_of_ends hq, hends, quoted]

/-- If the errors of a kind are those of the ends with a fault, they quote these ends. -/
theorem quoted_filterMap {kind : String} {P : ConnectionEnd → Prop} [DecidablePred P]
    (h : ∀ e, quoted kind (d.endError? e).toList = if P e then [some e.text] else [])
    (es : List ConnectionEnd) :
    quoted kind (es.filterMap d.endError?) = (es.filter (P ·)).map (some ·.text) := by
  induction es with
  | nil => rfl
  | cons e es ih =>
    have hcons : (e :: es).filterMap d.endError? =
        (d.endError? e).toList ++ es.filterMap d.endError? := by
      cases he : d.endError? e <;> simp [he]
    rw [hcons, quoted_append, ih, h]
    by_cases hP : P e <;> simp [hP]

/-- A kind of error that only ends of connections cause quotes these ends. -/
theorem quoted_errors_of_ends {kind : String} {P : ConnectionEnd → Prop} [DecidablePred P]
    {options : BuildOptions} (hsubject : ∀ e : BuildError, e.name = kind → e.subject = .connection)
    (hkind : kind ≠ "DuplicateDriver")
    (h : ∀ e, quoted kind (d.endError? e).toList = if P e then [some e.text] else []) :
    quoted kind (d.errors options) = (d.ends.filter (P ·)).map (some ·.text) := by
  rw [quoted_errors hsubject, reportOn, quoted_connectionErrors hkind, quoted_filterMap h]

theorem quoted_undeclared_errors {options : BuildOptions} :
    quoted "UnknownDeviceReference" (d.errors options) =
      (d.ends.filter (d.Undeclared ·)).map (some ·.text) := by
  refine quoted_errors_of_ends (fun e => BuildError.subject_eq_of_name_eq
    (.unknownDeviceReference "" "")) (by decide) fun e => ?_
  rcases d.endError?_cases e with ⟨hu, -, h⟩ | ⟨hu, -, fault, h⟩ | ⟨hu, -, h⟩
  · simp [h, hu, quoted_singleton, BuildError.name, BuildError.reference?]
  · simp [h, hu, quoted_singleton, BuildError.name]
  · simp [h, hu]

theorem quoted_lacking_errors {options : BuildOptions} :
    quoted "InvalidPinReference" (d.errors options) =
      (d.ends.filter (d.LacksPin ·)).map (some ·.text) := by
  refine quoted_errors_of_ends (fun e => BuildError.subject_eq_of_name_eq
    (.invalidPinReference "" .outputLabelMissing)) (by decide) fun e => ?_
  rcases d.endError?_cases e with ⟨-, hl, h⟩ | ⟨-, hl, fault, h⟩ | ⟨-, hl, h⟩
  · simp [h, hl, quoted_singleton, BuildError.name]
  · simp [h, hl, quoted_singleton, BuildError.name, BuildError.reference?]
  · simp [h, hl]

/-! ## Errors of monitors -/

/-- An output was named before exactly if an earlier reference finds it too. -/
theorem mem_named_iff {rs : List OutputRef} {r : OutputRef} {pin : Pin}
    (h : d.table.resolveOutput r = .found pin) :
    pin ∈ d.table.named rs ↔ ∃ r' ∈ rs, d.SameOutput r' r := by
  obtain ⟨hfinds, hdevice⟩ := resolveOutput_eq_found_iff.mp h
  obtain ⟨part, hpart, houtput⟩ := id hfinds
  rw [Table.named, List.mem_filterMap]
  refine exists_congr fun r' => and_congr_right fun _ => ?_
  have hpin? : (d.table.resolveOutput r').pin? = some pin ↔
      d.table.resolveOutput r' = .found pin := by
    cases d.table.resolveOutput r' <;> simp [Resolution.pin?]
  rw [hpin?, resolveOutput_eq_found_iff, SameOutput]
  constructor
  · rintro ⟨hfinds', hdevice'⟩
    obtain ⟨part', hpart', -⟩ := id hfinds'
    exact ⟨entryIndex_inj hpart' hpart (hdevice'.symm.trans hdevice), _, hfinds', hfinds⟩
  · rintro ⟨hsame, k, hfinds', part', hpart', houtput'⟩
    obtain rfl := Verdict.accepted.inj (hpart.symm.trans hpart')
    rw [hsame]
    exact ⟨houtput'.unique houtput ▸ hfinds', hdevice⟩

/-- **Every monitor has its error**, or none. -/
theorem monitorStep_cases (rs : List OutputRef) (r : OutputRef) :
    (d.FaultyAfter rs r ∧ ∃ fault, d.table.monitorStep (d.table.named rs) r =
        [.invalidMonitorTarget r.text fault]) ∨
      (¬ d.FaultyAfter rs r ∧ d.table.monitorStep (d.table.named rs) r = []) := by
  have hnone : ∀ {r : OutputRef}, (∀ pin, d.table.resolveOutput r ≠ .found pin) →
      ¬ ∃ r' ∈ rs, d.SameOutput r' r := by
    rintro r hne ⟨r', -, hsame⟩
    obtain ⟨-, k, -, hfinds⟩ := hsame
    exact hne ⟨d.entryIndex r.device, k⟩ (resolveOutput_eq_found_iff.mpr ⟨hfinds, rfl⟩)
  have hcases := d.endError?_cases (.source r)
  rw [Table.monitorStep]
  simp only [Undeclared, LacksPin, ConnectionEnd.device, endError?] at hcases
  cases hres : d.table.resolveOutput r with
  | rejected =>
    have hno := hnone (r := r) (by simp [hres])
    simp only [hres, Resolution.fault?] at hcases
    simp_all [FaultyAfter]
  | invalid fault =>
    simp only [hres, Resolution.fault?] at hcases
    refine .inl ⟨?_, .reference fault, rfl⟩
    rcases hcases with ⟨hu, -⟩ | ⟨-, hl, -⟩ | ⟨-, -, h⟩
    · exact .inl hu
    · exact .inr (.inl hl)
    · cases h
  | found pin =>
    have hnamed : pin ∈ d.table.named rs ↔ ∃ r' ∈ rs, d.SameOutput r' r := mem_named_iff hres
    simp only [hres, Resolution.fault?] at hcases
    dsimp only
    rw [if_congr hnamed rfl rfl]
    have hfaulty : d.FaultyAfter rs r ↔ ∃ r' ∈ rs, d.SameOutput r' r := by
      simp_all [FaultyAfter]
    rw [hfaulty]
    by_cases h : ∃ r' ∈ rs, d.SameOutput r' r
    · exact .inl ⟨h, _, if_pos h⟩
    · exact .inr ⟨h, if_neg h⟩

theorem faultyMonitors_concat (rs : List OutputRef) (r : OutputRef) :
    d.faultyMonitors (rs ++ [r]) =
      d.faultyMonitors rs ++ if d.FaultyAfter rs r then [r] else [] := by
  have hbefore : (rs.zipIdx.filter fun p => d.FaultyAfter ((rs ++ [r]).take p.2) p.1) =
      rs.zipIdx.filter fun p => d.FaultyAfter (rs.take p.2) p.1 := by
    refine List.filter_congr fun p hp => ?_
    have hlt := (List.getElem?_eq_some_iff.mp (List.mk_mem_zipIdx_iff_getElem?.mp hp)).1
    rw [List.take_append_of_le_length hlt.le]
  rw [faultyMonitors, List.zipIdx_append, List.filter_append, hbefore, List.map_append,
    faultyMonitors]
  by_cases h : d.FaultyAfter rs r <;> simp [h]

theorem quoted_monitorErrors (rs : List OutputRef) :
    quoted "InvalidMonitorTarget" (d.table.monitorErrors [] rs) =
      (d.faultyMonitors rs).map (some ·.text) := by
  induction rs using List.reverseRecOn with
  | nil => rfl
  | append_singleton rs r ih =>
    have hconcat : d.table.monitorErrors [] (rs ++ [r]) =
        d.table.monitorErrors [] rs ++ d.table.monitorStep (d.table.named rs) r :=
      Table.monitorErrors_concat d.table [] rs r
    rw [hconcat, quoted_append, ih, faultyMonitors_concat, List.map_append]
    rcases monitorStep_cases (d := d) rs r with ⟨hfaulty, fault, hnew⟩ | ⟨hfaulty, hnew⟩
    · simp [hnew, hfaulty, quoted_singleton, BuildError.name, BuildError.reference?]
    · simp [hnew, hfaulty]

/-- **Monitors come last**: more of them only add errors about monitors to the report. -/
theorem errors_monitors_append (d : Description) (options : BuildOptions) (rs rs' : List OutputRef) :
    ∃ new, AllAbout .monitor new ∧
      ({ d with monitors := rs ++ rs' } : Description).errors options =
        ({ d with monitors := rs } : Description).errors options ++ new := by
  induction rs' using List.reverseRecOn with
  | nil => exact ⟨[], .nil, by rw [List.append_nil, List.append_nil]⟩
  | append_singleton rs' r ih =>
    obtain ⟨new, habout, hnew⟩ := ih
    refine ⟨new ++ d.table.monitorStep (d.table.named (rs ++ rs')) r,
      habout.append (.monitorStep _ _ _), ?_⟩
    have hstep := Table.monitorErrors_concat d.table [] (rs ++ rs') r
    rw [← List.append_assoc, ← List.append_assoc, ← hnew]
    exact (congrArg (_ ++ ·) hstep).trans (List.append_assoc _ _ _).symm

/-! ## Rejected devices -/

theorem not_lacksPin_of_rejected {e : ConnectionEnd} (h : d.verdict e.device = .rejected) :
    ¬ d.Undeclared e ∧ ¬ d.LacksPin e := by
  cases e <;> simp_all [Undeclared, LacksPin, LacksOutput, LacksInput, ConnectionEnd.device]

theorem not_faultyAfter_of_rejected {rs : List OutputRef} {r : OutputRef}
    (h : d.verdict r.device = .rejected) : ¬ d.FaultyAfter rs r := by
  simp [FaultyAfter, LacksOutput, SameOutput, FindsOutput, h]

/-! ## The report -/

theorem errors_reportsReferences (d : Description) (options : BuildOptions) :
    d.ReportsReferences (d.errors options) := by
  have hmonitors : quoted "InvalidMonitorTarget" (d.errors options) =
      (d.faultyMonitors d.monitors).map (some ·.text) := by
    have hsubject : ∀ e : BuildError, e.name = "InvalidMonitorTarget" → e.subject = .monitor :=
      fun e => BuildError.subject_eq_of_name_eq (.invalidMonitorTarget "" .alreadyMonitored)
    rw [quoted_errors hsubject]
    exact quoted_monitorErrors d.monitors
  constructor
  · rw [← length_quoted, quoted_undeclared_errors, List.length_map, List.countP_eq_length_filter]
  · rw [← length_quoted, quoted_lacking_errors, List.length_map, List.countP_eq_length_filter]
  · rw [← length_quoted, hmonitors, List.length_map, faultyMonitors, List.length_map,
      List.countP_eq_length_filter]
  · exact quoted_undeclared_errors
  · exact quoted_lacking_errors
  · exact hmonitors

/-- **References are reported once and in the right kind**, for every description, with and without
feedback. More monitors add errors about monitors, and take no other back; and nothing is wrong with a
reference to a rejected device. The builder that goes over the statements pass by pass makes the same
report. -/
theorem build_reports_references (d : Description) (options : BuildOptions) :
    d.ReportsReferences (reported (d.build options)) ∧
      (∀ rs rs', ∃ new, (∀ e ∈ new, e.name = "InvalidMonitorTarget") ∧
        reported (({ d with monitors := rs ++ rs' } : Description).build options) =
          reported (({ d with monitors := rs } : Description).build options) ++ new) ∧
      (∀ e ∈ d.ends, d.verdict e.device = .rejected → ¬ d.Undeclared e ∧ ¬ d.LacksPin e) ∧
      (∀ rs r, d.verdict r.device = .rejected → ¬ d.FaultyAfter rs r) ∧
      reported (Builder.build d options) = reported (d.build options) := by
  refine ⟨?_, fun rs rs' => ?_, fun e _ => not_lacksPin_of_rejected,
    fun rs r => not_faultyAfter_of_rejected, reported_builder d options⟩
  · rw [reported_build]
    exact errors_reportsReferences d options
  · obtain ⟨new, habout, hnew⟩ := errors_monitors_append d options rs rs'
    refine ⟨new, fun e he => ?_, ?_⟩
    · have hsubject := habout e he
      cases e <;> simp_all [BuildError.subject, BuildError.name]
    · rw [reported_build, reported_build, hnew]

/-- A gate, a rejected clock, and references of every sort to them and to an undeclared device. -/
def dangling : Description where
  devices := [⟨"S", .switch, some 0⟩, ⟨"C", .clock, some 0⟩, ⟨"G", .gate .and, some 1⟩]
  connections := [⟨⟨"X", none⟩, ⟨"G", "I2"⟩⟩, ⟨⟨"C", some "Z"⟩, ⟨"C", "I1"⟩⟩,
    ⟨⟨"S", none⟩, ⟨"G", "I1"⟩⟩]
  monitors := [⟨"G", none⟩, ⟨"G", none⟩, ⟨"X", none⟩, ⟨"C", none⟩, ⟨"G", some "Q"⟩]

theorem references_dangling :
    let es := reported (dangling.build {})
    es.countP (·.name == "UnknownDeviceReference") = 1 ∧
      es.countP (·.name == "InvalidPinReference") = 1 ∧
      quoted "InvalidMonitorTarget" es = [some "G", some "X", some "G.Q"] := by
  obtain ⟨hreport, -⟩ := build_reports_references dangling {}
  exact ⟨hreport.undeclared.trans (by decide), hreport.lacking.trans (by decide),
    hreport.quoted_monitors.trans (by decide)⟩

end Description

end SyncCircuit

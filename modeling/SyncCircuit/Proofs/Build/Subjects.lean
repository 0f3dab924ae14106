import Mathlib.Data.List.Induction
import SyncCircuit.Proofs.Build.Reports

/-!
# What errors are about

A report has five parts: on the declarations, the connections, the inputs left open, the loops and
the monitors. An error tells by its kind which part it belongs to, so a question about one kind of
error is a question about one part.

## Main definitions

* `BuildError.subject` — the part an error belongs to.
* `Description.reportOn` — the parts.
-/
namespace SyncCircuit

/-- What an error can be about. -/
inductive Subject where
  | declaration
  | connection
  | openInput
  | loop
  | monitor
deriving DecidableEq, Repr

/-- The parts of a report in order. -/
def Subject.all : List Subject := [.declaration, .connection, .openInput, .loop, .monitor]

/-- What an error is about. -/
def BuildError.subject : BuildError → Subject
  | .duplicateDeviceName _ | .invalidDeviceName _ _ | .invalidDeviceParameter _ _ => .declaration
  | .unknownDeviceReference _ _ | .invalidPinReference _ _ | .duplicateDriver _ _ _ => .connection
  | .unconnectedInput _ _ => .openInput
  | .combinationalCycle _ => .loop
  | .invalidMonitorTarget _ _ => .monitor

/-- The kind of an error decides what it is about. -/
theorem BuildError.subject_eq_of_name_eq {e : BuildError} (e' : BuildError) (h : e.name = e'.name) :
    e.subject = e'.subject := by
  cases e <;> cases e' <;> first | rfl | simp [name] at h

/-- All errors are about one thing. -/
def AllAbout (s : Subject) (es : List BuildError) : Prop := ∀ e ∈ es, e.subject = s

namespace AllAbout

variable {s : Subject} {es es' : List BuildError}

theorem nil : AllAbout s [] := by simp [AllAbout]

theorem singleton {e : BuildError} (h : e.subject = s) : AllAbout s [e] := by simpa [AllAbout]

theorem append (h : AllAbout s es) (h' : AllAbout s es') : AllAbout s (es ++ es') :=
  List.forall_mem_append.mpr ⟨h, h'⟩

/-- A question about another subject has no answer among the errors. -/
theorem filter_eq_nil {q : BuildError → Bool} {s' : Subject} (h : AllAbout s es)
    (hq : ∀ e, q e → e.subject = s') (hne : s ≠ s') : es.filter q = [] := by
  rw [List.filter_eq_nil_iff]
  intro e he hqe
  exact hne ((h e he).symm.trans (hq e hqe))

theorem declarationErrors (ds : List Declaration) :
    AllAbout .declaration (declarationErrors [] ds) := by
  induction ds using List.reverseRecOn with
  | nil => exact nil
  | append_singleton ds c ih =>
    rw [declarationErrors_concat]
    refine ih.append (append ?_ ?_)
    · rw [Declaration.nameErrors]
      cases nameFault? c.name <;> simp [AllAbout, BuildError.subject]
    · split
      · exact singleton rfl
      · rw [Declaration.parameterErrors]
        split
        · exact nil
        · exact singleton rfl

/-- A faulty reference is an error of its connection. -/
theorem endErrors (t : Table) (c : Connection) : AllAbout .connection (t.endErrors c) := by
  have hend : ∀ (r : Resolution) (text : String),
      AllAbout .connection (r.fault?.map (·.buildError text)).toList := by
    intro r text
    cases r with
    | found pin => exact nil
    | rejected => exact nil
    | invalid fault => cases fault <;> exact singleton rfl
  exact (hend _ _).append (hend _ _)

theorem connectionErrors (t : Table) (cs : List Connection) :
    AllAbout .connection (t.connectionErrors [] cs) := by
  induction cs using List.reverseRecOn with
  | nil => exact nil
  | append_singleton cs c ih =>
    rw [Table.connectionErrors_concat]
    refine ih.append ((endErrors t c).append ?_)
    intro e he
    obtain ⟨first, -, rfl⟩ := List.mem_map.mp he
    rfl

theorem openInputErrors (w : Wiring) : AllAbout .openInput w.openInputErrors := by
  intro e he
  obtain ⟨⟨entry, i⟩, -, he⟩ := List.mem_flatMap.mp he
  dsimp only at he
  split at he
  · cases he
  · obtain ⟨slot, -, rfl⟩ := List.mem_map.mp he
    rfl

theorem loopErrors (w : Wiring) : AllAbout .loop w.loopErrors := by
  intro e he
  obtain ⟨loop, -, rfl⟩ := List.mem_map.mp he
  rfl

theorem monitorStep (t : Table) (named : List Pin) (r : OutputRef) :
    AllAbout .monitor (t.monitorStep named r) := by
  rw [Table.monitorStep]
  split
  · exact nil
  · exact singleton rfl
  · split
    · exact singleton rfl
    · exact nil

theorem monitorErrors (t : Table) (rs : List OutputRef) :
    AllAbout .monitor (t.monitorErrors [] rs) := by
  induction rs using List.reverseRecOn with
  | nil => exact nil
  | append_singleton rs r ih =>
    rw [Table.monitorErrors_concat]
    exact ih.append (monitorStep t _ r)

end AllAbout

namespace Description

variable {d : Description} {options : BuildOptions}

/-- One part of the report on a description. -/
def reportOn (d : Description) (options : BuildOptions) : Subject → List BuildError
  | .declaration => declarationErrors [] d.devices
  | .connection => d.table.connectionErrors [] d.connections
  | .openInput => d.wiring.openInputErrors
  | .loop => if options.allowFeedback then [] else d.wiring.loopErrors
  | .monitor => d.table.monitorErrors [] d.monitors

theorem errors_eq_flatMap : d.errors options = Subject.all.flatMap (d.reportOn options) := by
  simp [errors, Subject.all, reportOn]

theorem allAbout_reportOn (s : Subject) : AllAbout s (d.reportOn options s) := by
  cases s with
  | declaration => exact .declarationErrors _
  | connection => exact .connectionErrors _ _
  | openInput => exact .openInputErrors _
  | loop =>
    rw [reportOn]
    split
    · exact .nil
    · exact .loopErrors _
  | monitor => exact .monitorErrors _ _

/-- **A question about one subject** is answered by one part of the report. -/
theorem filter_errors_of_subject {q : BuildError → Bool} {s : Subject}
    (hq : ∀ e, q e → e.subject = s) :
    (d.errors options).filter q = (d.reportOn options s).filter q := by
  have hother : ∀ s', s' ≠ s → (d.reportOn options s').filter q = [] := fun s' hne =>
    (allAbout_reportOn s').filter_eq_nil hq hne
  rw [errors_eq_flatMap, List.filter_flatMap]
  cases s <;> simp [Subject.all, hother]

/-- An error is reported as often as in the part it belongs to. -/
theorem count_errors (e : BuildError) :
    (d.errors options).count e = (d.reportOn options e.subject).count e := by
  have hq : ∀ e', (e' == e) = true → e'.subject = e.subject := by simp +contextual
  rw [List.count_eq_length_filter, List.count_eq_length_filter, filter_errors_of_subject hq]

theorem mem_errors_iff_of_subject {e : BuildError} :
    e ∈ d.errors options ↔ e ∈ d.reportOn options e.subject := by
  rw [← List.count_pos_iff, ← List.count_pos_iff, count_errors]

end Description

end SyncCircuit

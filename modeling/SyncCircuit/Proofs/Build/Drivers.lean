import SyncCircuit.Proofs.Build.Feedback
import SyncCircuit.Proofs.Build.References

/-!
# Accounting for drivers

Every input of an accepted device should have one driver. The connections that take an input are those
whose target finds it and whose source finds an output or names a rejected device. If there are none
the input is reported open; if there are several, each but the first is reported as a duplicate of the
first. This is exact for every description, whatever else is wrong with it: inputs are told apart by
the pins they are, not by the labels they are called by, and nothing is said of rejected devices.

## Main definitions

* `Description.takers` — the connections that take an input.
* `Description.AccountsForDrivers` — what a report says about the drivers of inputs.
-/
namespace SyncCircuit

/-! ## Texts of references -/

/-- The last dot of a text divides it in one way. -/
theorem append_dot_inj {xs xs' ys ys' : List Char} (hys : '.' ∉ ys) (hys' : '.' ∉ ys')
    (h : xs ++ '.' :: ys = xs' ++ '.' :: ys') : xs = xs' ∧ ys = ys' := by
  have hnone : ∀ {zs zs' us : List Char}, '.' ∉ zs → '.' :: zs = us ++ '.' :: zs' → us = [] := by
    intro zs zs' us hzs heq
    cases us with
    | nil => rfl
    | cons u us =>
      obtain ⟨-, rfl⟩ := List.cons.inj heq
      simp at hzs
  rcases List.append_eq_append_iff.mp h with ⟨us, rfl, heq⟩ | ⟨us, rfl, heq⟩
  · obtain rfl := hnone hys heq
    simpa using heq
  · obtain rfl := hnone hys' heq
    simpa using heq.symm

namespace Description

variable {d : Description}

theorem FindsInput.noDot {r : InputRef} {slot : Nat} (h : d.FindsInput r slot) :
    '.' ∉ r.pin.toList := by
  obtain ⟨part, -, hinput⟩ := h
  exact hinput.noDot

/-- References to inputs that exist are told apart by their texts. -/
theorem FindsInput.text_inj {r r' : InputRef} {slot slot' : Nat} (h : d.FindsInput r slot)
    (h' : d.FindsInput r' slot') (heq : r.text = r'.text) : r = r' := by
  have hlist := congrArg String.toList heq
  simp only [InputRef.text, String.toList_append, List.append_assoc] at hlist
  obtain ⟨hdevice, hpin⟩ := append_dot_inj h.noDot h'.noDot hlist
  obtain ⟨device, pin⟩ := r
  obtain ⟨device', pin'⟩ := r'
  simp_all [String.toList_inj]

end Description

/-! ## Taking inputs -/

/-- What is reported of the connections that take one input: all but the first are too many. -/
def duplicateErrors : List Connection → List BuildError
  | [] => []
  | first :: rest => rest.map fun c =>
    .duplicateDriver c.target.text first.source.text c.source.text

theorem duplicateErrors_concat (cs : List Connection) (c : Connection) :
    duplicateErrors (cs ++ [c]) = duplicateErrors cs ++ cs.head?.toList.map fun first =>
      .duplicateDriver c.target.text first.source.text c.source.text := by
  cases cs <;> simp [duplicateErrors]

namespace Table

variable {t : Table}

theorem exists_of_mem_endErrors {c : Connection} {e : BuildError} (h : e ∈ t.endErrors c) :
    ∃ (fault : ReferenceFault) (text : String), e = fault.buildError text := by
  rw [endErrors] at h
  rcases List.mem_append.mp h with h | h
  all_goals
    obtain ⟨fault, -, rfl⟩ := Option.map_eq_some_iff.mp (Option.mem_toList.mp h)
    exact ⟨fault, _, rfl⟩

/-- **The errors about one pin** among those of the connections, for a test that singles them out,
are the duplicates among the connections that take it. -/
theorem filter_connectionErrors {pin : Pin} {q : BuildError → Bool} {cs : List Connection}
    (hends : ∀ c ∈ cs, (t.endErrors c).filter q = [])
    (htake : ∀ c ∈ cs, ∀ a first, t.attachment? c = some a →
      q (.duplicateDriver c.target.text first c.source.text) = (a.target == pin)) :
    (t.connectionErrors [] cs).filter q =
      duplicateErrors (cs.filter fun c => (t.attachment? c).any (·.target == pin)) := by
  induction cs using List.reverseRecOn with
  | nil => rfl
  | append_singleton cs c ih =>
    simp only [List.mem_append, List.mem_singleton, or_imp, forall_and, forall_eq] at hends htake
    rw [connectionErrors_concat, List.filter_append, List.filter_append, ih hends.1 htake.1,
      hends.2, List.nil_append, List.filter_append]
    cases ha : t.attachment? c with
    | none => simp [takeErrors, ha]
    | some a =>
      have hq := fun first => htake.2 a first ha
      by_cases htarget : a.target = pin
      · -- The holder of the pin is the first of its takers so far.
        have hholder : (cs.filterMap t.attachment?).find? (·.target == a.target) =
            (cs.filter fun c => (t.attachment? c).any (·.target == pin)).head?.bind
              t.attachment? := by
          rw [List.find?_filterMap, List.head?_filter, htarget]
        have htaker : [c].filter (fun c => (t.attachment? c).any (·.target == pin)) = [c] := by
          simp [ha, htarget]
        rw [htaker, duplicateErrors_concat, Option.bind_some, List.find?_nil, Option.none_or,
          hholder]
        cases hfirst : (cs.filter fun c => (t.attachment? c).any (·.target == pin)).head? with
        | none => simp [takeErrors]
        | some first =>
          have htook := (List.mem_filter.mp (List.mem_of_head? hfirst)).2
          obtain ⟨b, hb, -⟩ := (Option.any_eq_true _ _).mp htook
          simp [takeErrors, hb, hq, htarget, t.connection_of_attachment? hb]
      · have hnone : [c].filter (fun c => (t.attachment? c).any (·.target == pin)) = [] := by
          simp [ha, htarget]
        rw [hnone, List.append_nil, takeErrors, List.filter_map]
        simp [Function.comp_def, hq, htarget]

/-- A duplicate is an error of a connection that takes an input. -/
theorem exists_taker_of_mem_connectionErrors {cs : List Connection} {input first second : String}
    (h : .duplicateDriver input first second ∈ t.connectionErrors [] cs) :
    ∃ c ∈ cs, ∃ a, t.attachment? c = some a ∧ c.target.text = input := by
  induction cs using List.reverseRecOn with
  | nil => cases h
  | append_singleton cs c ih =>
    rw [connectionErrors_concat, List.mem_append, List.mem_append] at h
    rcases h with h | h | h
    · obtain ⟨c', hc', htook⟩ := ih h
      exact ⟨c', List.mem_append_left _ hc', htook⟩
    · obtain ⟨fault, text, heq⟩ := exists_of_mem_endErrors h
      cases fault <;> cases heq
    · obtain ⟨holder, hholder, heq⟩ := List.mem_map.mp h
      obtain ⟨a, ha, -⟩ := Option.bind_eq_some_iff.mp (Option.mem_toList.mp hholder)
      exact ⟨c, by simp, a, ha, (BuildError.duplicateDriver.inj heq).1⟩

end Table

namespace Description

variable (d : Description)

/-- The reference names the input with this slot of the device with this name. -/
def NamesSlot (name : String) (slot : Nat) (r : InputRef) : Prop :=
  r.device = name ∧ d.FindsInput r slot

/-- The reference finds an output, or it names a rejected device. -/
def MayDrive (r : OutputRef) : Prop :=
  (∃ offset, d.FindsOutput r offset) ∨ d.verdict r.device = .rejected

/-- The error calls a driver of this input a duplicate. -/
def Blames (name : String) (slot : Nat) : BuildError → Prop
  | .duplicateDriver input _ _ =>
    ∃ c ∈ d.connections, d.NamesSlot name slot c.target ∧ c.target.text = input
  | _ => False

instance (name : String) (slot : Nat) (r : InputRef) : Decidable (d.NamesSlot name slot r) :=
  inferInstanceAs (Decidable (_ ∧ _))

instance (r : OutputRef) : Decidable (d.MayDrive r) := inferInstanceAs (Decidable (_ ∨ _))

instance (name : String) (slot : Nat) (e : BuildError) : Decidable (d.Blames name slot e) := by
  cases e <;> unfold Blames <;> infer_instance

/-- The connections that take an input, in order. -/
def takers (name : String) (slot : Nat) : List Connection :=
  d.connections.filter fun c => d.NamesSlot name slot c.target ∧ d.MayDrive c.source

/-- **What a report says about the drivers of inputs.** An input of an accepted device is reported
open once if nothing takes it, and otherwise not; all connections that take it but the first are
reported as duplicates of the first, each of them once, in order. There are no other errors of the two
kinds. -/
structure AccountsForDrivers (es : List BuildError) : Prop where
  openInput : ∀ name part slot, d.verdict name = .accepted part → slot < part.inputs →
    es.count (.unconnectedInput name (part.component.inputLabel slot)) =
      if d.takers name slot = [] then 1 else 0
  duplicates : ∀ name part slot, d.verdict name = .accepted part → slot < part.inputs →
    es.filter (d.Blames name slot) = duplicateErrors (d.takers name slot)
  openInput_only : ∀ name label, .unconnectedInput name label ∈ es → ∃ part slot,
    d.verdict name = .accepted part ∧ slot < part.inputs ∧ label = part.component.inputLabel slot
  duplicates_only : ∀ e ∈ es, e.name = "DuplicateDriver" → ∃ name part slot,
    d.verdict name = .accepted part ∧ slot < part.inputs ∧ d.Blames name slot e

variable {d} {name : String} {part : Instance} {slot : Nat}

/-! ## Takers in the table -/

theorem resolveInput_eq_entryIndex_iff (h : d.verdict name = .accepted part) {r : InputRef} :
    d.table.resolveInput r = .found ⟨d.entryIndex name, slot⟩ ↔ d.NamesSlot name slot r := by
  rw [resolveInput_eq_found_iff, NamesSlot]
  constructor
  · rintro ⟨hfinds, hindex⟩
    obtain ⟨part', hpart', -⟩ := id hfinds
    exact ⟨entryIndex_inj hpart' h hindex.symm, hfinds⟩
  · rintro ⟨rfl, hfinds⟩
    exact ⟨hfinds, rfl⟩

theorem mayDrive_iff {r : OutputRef} : d.MayDrive r ↔
    (∃ pin, d.table.resolveOutput r = .found pin) ∨ d.table.resolveOutput r = .rejected := by
  simp only [MayDrive, resolveOutput_eq_rejected_iff, resolveOutput_eq_found_iff]
  refine or_congr_left ⟨fun ⟨k, hk⟩ => ⟨⟨d.entryIndex r.device, k⟩, hk, rfl⟩, fun ⟨pin, hpin, _⟩ => ?_⟩
  exact ⟨pin.position, hpin⟩

/-- **The takers of an input** are the connections attached to its pin. -/
theorem any_attachment?_iff (h : d.verdict name = .accepted part) {c : Connection} :
    (d.table.attachment? c).any (·.target == ⟨d.entryIndex name, slot⟩) = true ↔
      d.NamesSlot name slot c.target ∧ d.MayDrive c.source := by
  rw [← resolveInput_eq_entryIndex_iff h, mayDrive_iff, Table.attachment?]
  cases d.table.resolveInput c.target with
  | rejected => simp
  | invalid fault => simp
  | found pin => cases d.table.resolveOutput c.source <;> simp

theorem takers_eq_filter (h : d.verdict name = .accepted part) : d.takers name slot =
    d.connections.filter fun c =>
      (d.table.attachment? c).any (·.target == ⟨d.entryIndex name, slot⟩) := by
  rw [takers]
  refine List.filter_congr fun c _ => ?_
  rw [Bool.eq_iff_iff, any_attachment?_iff h, decide_eq_true_iff]

theorem takers_eq_nil_iff (h : d.verdict name = .accepted part) :
    d.takers name slot = [] ↔ d.wiring.holder? ⟨d.entryIndex name, slot⟩ = none := by
  rw [takers_eq_filter h, wiring, Wiring.holder?_ofConnections, List.filter_eq_nil_iff,
    List.find?_eq_none]
  simp only [List.mem_filterMap, Option.any_eq_true, beq_iff_eq]
  constructor
  · rintro hnone a ⟨c, hc, ha⟩ htarget
    exact hnone c hc ⟨a, ha, htarget⟩
  · rintro hnone c hc ⟨a, ha, htarget⟩
    exact hnone a ⟨c, hc, ha⟩ htarget

/-! ## Duplicates -/

theorem filter_blames_endErrors (c : Connection) :
    (d.table.endErrors c).filter (d.Blames name slot) = [] := by
  rw [List.filter_eq_nil_iff]
  intro e he hblames
  rw [decide_eq_true_iff] at hblames
  obtain ⟨fault, text, rfl⟩ := Table.exists_of_mem_endErrors he
  cases fault <;> exact hblames

/-- A duplicate is blamed on the pin that its connection is attached to. -/
theorem blames_iff_target_eq (h : d.verdict name = .accepted part) {c : Connection}
    (hc : c ∈ d.connections) {a : Attachment} (ha : d.table.attachment? c = some a)
    (first second : String) : d.Blames name slot (.duplicateDriver c.target.text first second) ↔
      a.target = ⟨d.entryIndex name, slot⟩ := by
  obtain ⟨htarget, -⟩ := Table.attachment?_cases ha
  have hslot : d.NamesSlot name slot c.target ↔ a.target = ⟨d.entryIndex name, slot⟩ := by
    rw [← resolveInput_eq_entryIndex_iff h, htarget, Resolution.found.injEq]
  rw [Blames, ← hslot]
  constructor
  · rintro ⟨c', -, hslot', htext⟩
    have hsame := hslot'.2.text_inj (resolveInput_eq_found_iff.mp htarget).1 htext
    exact hsame ▸ hslot'
  · intro hslot
    exact ⟨c, hc, hslot, rfl⟩

theorem filter_blames_errors (h : d.verdict name = .accepted part) {options : BuildOptions} :
    (d.errors options).filter (d.Blames name slot) = duplicateErrors (d.takers name slot) := by
  have hsubject : ∀ e, decide (d.Blames name slot e) = true → e.subject = .connection := by
    intro e he
    rw [decide_eq_true_iff] at he
    cases e <;> first | rfl | exact he.elim
  rw [filter_errors_of_subject hsubject, takers_eq_filter h]
  refine Table.filter_connectionErrors (fun c _ => filter_blames_endErrors c) ?_
  intro c hc a first ha
  rw [Bool.eq_iff_iff, decide_eq_true_iff, blames_iff_target_eq h hc ha, beq_iff_eq]

/-- Every duplicate is blamed on an input of an accepted device. -/
theorem exists_blamed {options : BuildOptions} {e : BuildError} (he : e ∈ d.errors options)
    (hname : e.name = "DuplicateDriver") : ∃ name part slot,
      d.verdict name = .accepted part ∧ slot < part.inputs ∧ d.Blames name slot e := by
  obtain ⟨input, first, second, rfl⟩ : ∃ input first second,
      e = .duplicateDriver input first second := by
    cases e <;> simp_all [BuildError.name]
  have hmem := mem_errors_iff_of_subject.mp he
  obtain ⟨c, hc, a, ha, rfl⟩ := Table.exists_taker_of_mem_connectionErrors hmem
  obtain ⟨htarget, -⟩ := Table.attachment?_cases ha
  obtain ⟨hfinds, hdevice⟩ := resolveInput_eq_found_iff.mp htarget
  obtain ⟨part, hpart, hinput⟩ := id hfinds
  exact ⟨c.target.device, part, a.target.position, hpart,
    hinput.lt (allowsInputs_of_accepted hpart), c, hc, ⟨rfl, hfinds⟩, rfl⟩

/-! ## Open inputs -/

theorem mem_openInputErrors_iff {e : BuildError} : e ∈ d.wiring.openInputErrors ↔
    ∃ name part slot, d.verdict name = .accepted part ∧ slot < part.inputs ∧
      d.takers name slot = [] ∧ e = .unconnectedInput name (part.component.inputLabel slot) := by
  rw [Wiring.openInputErrors, List.mem_flatMap]
  constructor
  · rintro ⟨⟨⟨name, part?⟩, i⟩, hentry, he⟩
    rw [List.mk_mem_zipIdx_iff_getElem?] at hentry
    cases part? with
    | none => cases he
    | some part =>
      obtain ⟨hpart, rfl⟩ := getElem?_entries_eq_accepted_iff.mp hentry
      obtain ⟨slot, hslot, rfl⟩ := List.mem_map.mp he
      obtain ⟨hlt, hopen⟩ := List.mem_filter.mp hslot
      rw [Option.isNone_iff_eq_none, ← takers_eq_nil_iff hpart] at hopen
      exact ⟨name, part, slot, hpart, List.mem_range.mp hlt, hopen, rfl⟩
  · rintro ⟨name, part, slot, hpart, hlt, hopen, rfl⟩
    rw [takers_eq_nil_iff hpart, ← Option.isNone_iff_eq_none] at hopen
    refine ⟨(⟨name, some part⟩, d.entryIndex name), ?_, ?_⟩
    · exact List.mk_mem_zipIdx_iff_getElem?.mpr (getElem?_entryIndex_of_accepted hpart)
    · exact List.mem_map.mpr ⟨slot, List.mem_filter.mpr ⟨List.mem_range.mpr hlt, hopen⟩, rfl⟩

/-- No input is reported open twice. -/
theorem nodup_openInputErrors : d.wiring.openInputErrors.Nodup := by
  rw [Wiring.openInputErrors, List.nodup_flatMap]
  constructor
  · rintro ⟨⟨name, part?⟩, i⟩ hentry
    rw [List.mk_mem_zipIdx_iff_getElem?] at hentry
    cases part? with
    | none => exact List.nodup_nil
    | some part =>
      obtain ⟨hpart, -⟩ := getElem?_entries_eq_accepted_iff.mp hentry
      refine List.Nodup.map_on ?_ (List.nodup_range.filter _)
      intro slot hslot slot' hslot' heq
      have hlt := List.mem_range.mp (List.mem_filter.mp hslot).1
      have hlt' := List.mem_range.mp (List.mem_filter.mp hslot').1
      exact Component.inputLabel_inj (allowsInputs_of_accepted hpart) hlt hlt'
        (BuildError.unconnectedInput.inj heq).2
  · have hnames : (d.table.entries.zipIdx.map fun p => p.1.name).Nodup := by
      rw [map_fst_zipIdx]
      exact Table.nodup_names_ofDeclarations d.devices
    refine (List.pairwise_map.mp hnames).imp ?_
    -- Errors of different entries name different devices.
    rintro ⟨⟨name, part?⟩, i⟩ ⟨⟨name', part'?⟩, j⟩ hne e he he'
    dsimp only at hne he he'
    split at he
    · cases he
    · split at he'
      · cases he'
      · obtain ⟨slot, -, rfl⟩ := List.mem_map.mp he
        obtain ⟨slot', -, heq⟩ := List.mem_map.mp he'
        exact hne (BuildError.unconnectedInput.inj heq).1.symm

theorem count_unconnectedInput_errors (h : d.verdict name = .accepted part)
    (hlt : slot < part.inputs) {options : BuildOptions} :
    (d.errors options).count (.unconnectedInput name (part.component.inputLabel slot)) =
      if d.takers name slot = [] then 1 else 0 := by
  rw [count_errors, BuildError.subject, reportOn, nodup_openInputErrors.count]
  refine if_congr ?_ rfl rfl
  rw [mem_openInputErrors_iff]
  constructor
  · rintro ⟨name', part', slot', hpart', hlt', hopen, heq⟩
    obtain ⟨rfl, hlabel⟩ := BuildError.unconnectedInput.inj heq
    obtain rfl := Verdict.accepted.inj (h.symm.trans hpart')
    rwa [Component.inputLabel_inj (allowsInputs_of_accepted h) hlt hlt' hlabel]
  · intro hopen
    exact ⟨name, part, slot, h, hlt, hopen, rfl⟩

/-! ## The account -/

/-- **Driver accounting is exact** on every description, valid or not, with and without feedback. The
builder that goes over the statements pass by pass makes the same report. -/
theorem build_accounts_for_drivers (d : Description) (options : BuildOptions) :
    d.AccountsForDrivers (reported (d.build options)) ∧
      reported (Builder.build d options) = reported (d.build options) := by
  refine ⟨?_, reported_builder d options⟩
  rw [reported_build]
  constructor
  · intro name part slot hpart hlt
    exact count_unconnectedInput_errors hpart hlt
  · intro name part slot hpart _
    exact filter_blames_errors hpart
  · intro name label he
    obtain ⟨name', part, slot, hpart, hlt, -, heq⟩ :=
      mem_openInputErrors_iff.mp (mem_errors_iff_of_subject.mp he)
    obtain ⟨rfl, rfl⟩ := BuildError.unconnectedInput.inj heq
    exact ⟨part, slot, hpart, hlt, rfl⟩
  · intro e he hname
    exact exists_blamed he hname

/-- A gate with an input that is taken three times under different labels, an input whose only
connection names no output, and an open one; its first driver is rejected. -/
def crossed : Description where
  devices := [⟨"S", .switch, some 0⟩, ⟨"C", .clock, some 0⟩, ⟨"G", .gate .and, some 3⟩]
  connections := [⟨⟨"C", none⟩, ⟨"G", "I1"⟩⟩, ⟨⟨"S", none⟩, ⟨"G", "I01"⟩⟩,
    ⟨⟨"S", some "Q"⟩, ⟨"G", "I2"⟩⟩, ⟨⟨"C", none⟩, ⟨"G", "I001"⟩⟩, ⟨⟨"S", none⟩, ⟨"C", "I1"⟩⟩]

theorem drivers_crossed :
    (reported (crossed.build {})).filter (crossed.Blames "G" 0) =
        [.duplicateDriver "G.I01" "C" "S", .duplicateDriver "G.I001" "C" "C"] ∧
      (reported (crossed.build {})).count (.unconnectedInput "G" "I1") = 0 ∧
      (reported (crossed.build {})).count (.unconnectedInput "G" "I2") = 1 := by
  have hgate : crossed.verdict "G" = .accepted ⟨.gate .and, 3⟩ := by decide
  obtain ⟨haccount, -⟩ := build_accounts_for_drivers crossed {}
  refine ⟨?_, ?_, ?_⟩
  · rw [haccount.duplicates _ _ 0 hgate (by decide)]
    decide
  · exact (haccount.openInput _ _ 0 hgate (by decide)).trans (by decide)
  · exact (haccount.openInput _ _ 1 hgate (by decide)).trans (by decide)

end Description

end SyncCircuit

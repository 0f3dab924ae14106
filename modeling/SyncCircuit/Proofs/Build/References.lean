import SyncCircuit.Proofs.Build.Nodes

/-!
# What references find

In a description that need not be valid a name stands for its first declaration: it is undeclared,
rejected, or accepted as some part. A reference to an accepted device finds a pin or lacks one. All
this is said of the statements alone, and a table of the declared devices resolves every reference
just so (`Description.resolve_eq`).

## Main definitions

* `Description.verdict` — what becomes of a name.
* `Description.FindsOutput`, `Description.FindsInput` — references and the pins they name.
* `Description.LacksOutput`, `Description.LacksInput` — references to pins that a device has not.
-/
namespace SyncCircuit

/-- What becomes of a name. -/
inductive Verdict where
  /-- No declaration gives the name. -/
  | undeclared
  /-- The parameter of its first declaration is refused. -/
  | rejected
  /-- Its first declaration makes it this part. -/
  | accepted (part : Instance)
deriving DecidableEq, Repr

namespace Description

variable (d : Description)

/-- What becomes of a name: its first declaration decides. -/
def verdict (name : String) : Verdict :=
  match d.devices.find? (·.name == name) with
  | none => .undeclared
  | some c =>
    match c.kind.instantiate c.parameter with
    | .ok part => .accepted part
    | .error _ => .rejected

/-- The reference names an accepted device and, there, the output with this offset. -/
def FindsOutput (r : OutputRef) (offset : Nat) : Prop :=
  ∃ part, d.verdict r.device = .accepted part ∧ part.component.HasOutput r.pin offset

/-- The reference names an accepted device and, there, the input with this slot. -/
def FindsInput (r : InputRef) (slot : Nat) : Prop :=
  ∃ part, d.verdict r.device = .accepted part ∧ part.component.HasInput part.inputs r.pin slot

/-- The reference names an accepted device and an output it does not have. -/
def LacksOutput (r : OutputRef) : Prop :=
  ∃ part, d.verdict r.device = .accepted part ∧ ¬ ∃ offset, part.component.HasOutput r.pin offset

/-- The reference names an accepted device and an input it does not have. -/
def LacksInput (r : InputRef) : Prop :=
  ∃ part, d.verdict r.device = .accepted part ∧
    ¬ ∃ slot, part.component.HasInput part.inputs r.pin slot

/-- Whether an accepted part has a property can be decided if the property can. -/
instance decidableAccepted (name : String) (p : Instance → Prop) [DecidablePred p] :
    Decidable (∃ part, d.verdict name = .accepted part ∧ p part) :=
  match d.verdict name with
  | .accepted part => decidable_of_iff (p part) (by simp)
  | .rejected | .undeclared => isFalse (by simp)

instance (r : OutputRef) (offset : Nat) : Decidable (d.FindsOutput r offset) :=
  d.decidableAccepted r.device _

instance (r : InputRef) (slot : Nat) : Decidable (d.FindsInput r slot) :=
  d.decidableAccepted r.device _

instance (r : OutputRef) : Decidable (∃ offset, d.FindsOutput r offset) :=
  decidable_of_iff (∃ part, d.verdict r.device = .accepted part ∧
      ∃ offset, part.component.HasOutput r.pin offset)
    ⟨fun ⟨part, hpart, offset, h⟩ => ⟨offset, part, hpart, h⟩,
      fun ⟨offset, part, hpart, h⟩ => ⟨part, hpart, offset, h⟩⟩

instance (r : OutputRef) : Decidable (d.LacksOutput r) := d.decidableAccepted r.device _

instance (r : InputRef) : Decidable (d.LacksInput r) := d.decidableAccepted r.device _

/-! ## Names in the table -/

variable {d}

theorem verdict_eq_undeclared_iff {name : String} :
    d.verdict name = .undeclared ↔ name ∉ d.devices.map (·.name) := by
  have hfind : d.devices.find? (·.name == name) = none ↔ name ∉ d.devices.map (·.name) := by simp
  rw [← hfind, verdict]
  cases hc : d.devices.find? (·.name == name) with
  | none => simp
  | some c => cases hpart : c.kind.instantiate c.parameter <;> simp [hpart]

/-- The index of a declared name in the table. -/
def entryIndex (d : Description) (name : String) : Nat :=
  (d.table.entries.findIdx? (·.name == name)).getD d.table.entries.length

/-- A name leads to the entry of its first declaration. -/
theorem find?_entries (name : String) : d.table.entries.find? (·.name == name) =
    (d.devices.find? (·.name == name)).map Entry.ofDeclaration := by
  rw [table, Table.ofDeclarations, List.find?_map]
  exact congrArg _ (find?_firsts (·.name) d.devices name)

theorem findIdx?_entries_eq_none_iff {name : String} :
    d.table.entries.findIdx? (·.name == name) = none ↔ d.verdict name = .undeclared := by
  have hfind : d.table.entries.find? (·.name == name) = none ↔
      d.table.entries.findIdx? (·.name == name) = none := by simp
  rw [verdict_eq_undeclared_iff, ← hfind, find?_entries]
  simp

theorem getElem?_entryIndex {name : String} (h : d.verdict name ≠ .undeclared) :
    d.table.entries[d.entryIndex name]? =
      (d.devices.find? (·.name == name)).map Entry.ofDeclaration := by
  rw [← find?_entries, List.find?_eq_bind_findIdx?_getElem?, entryIndex]
  cases hi : d.table.entries.findIdx? (·.name == name) with
  | none => exact absurd (findIdx?_entries_eq_none_iff.mp hi) h
  | some i => simp

/-- The entry of an accepted name. -/
theorem getElem?_entryIndex_of_accepted {name : String} {part : Instance}
    (h : d.verdict name = .accepted part) :
    d.table.entries[d.entryIndex name]? = some ⟨name, some part⟩ := by
  rw [getElem?_entryIndex (by simp [h])]
  rw [verdict] at h
  cases hc : d.devices.find? (·.name == name) with
  | none => simp [hc] at h
  | some c =>
    have hname : c.name = name := by simpa using List.find?_some hc
    cases hpart : c.kind.instantiate c.parameter with
    | error fault => simp [hc, hpart] at h
    | ok part' =>
      obtain rfl : part' = part := by simpa [hc, hpart] using h
      simp [Entry.ofDeclaration, hpart, hname, Except.toOption]

/-- Accepted names have different entries. -/
theorem entryIndex_inj {name name' : String} {part part' : Instance}
    (h : d.verdict name = .accepted part) (h' : d.verdict name' = .accepted part')
    (heq : d.entryIndex name = d.entryIndex name') : name = name' := by
  have hentry := getElem?_entryIndex_of_accepted h
  rw [heq, getElem?_entryIndex_of_accepted h'] at hentry
  exact (congrArg Entry.name (Option.some.inj hentry)).symm

/-- The entries with a part are those of the accepted names, each at its index. -/
theorem getElem?_entries_eq_accepted_iff {i : Nat} {name : String} {part : Instance} :
    d.table.entries[i]? = some ⟨name, some part⟩ ↔
      d.verdict name = .accepted part ∧ i = d.entryIndex name := by
  constructor
  · intro he
    have hnodup : (d.table.entries.map (·.name)).Nodup := Table.nodup_names_ofDeclarations d.devices
    have hi := (findIdx?_key_eq_some_iff hnodup).mpr ⟨_, he, rfl⟩
    have hindex : d.entryIndex name = i := by simp [entryIndex, hi]
    have hdeclared : d.verdict name ≠ .undeclared := by simp [← findIdx?_entries_eq_none_iff, hi]
    have hfind := getElem?_entryIndex hdeclared
    rw [hindex, he] at hfind
    obtain ⟨c, hc, hentry⟩ := Option.map_eq_some_iff.mp hfind.symm
    refine ⟨?_, hindex.symm⟩
    cases hpart : c.kind.instantiate c.parameter <;>
      simp_all [verdict, Entry.ofDeclaration, Except.toOption]
  · rintro ⟨hverdict, rfl⟩
    exact getElem?_entryIndex_of_accepted hverdict

/-- An accepted part has as many inputs as its component may have. -/
theorem allowsInputs_of_accepted {name : String} {part : Instance}
    (h : d.verdict name = .accepted part) : part.component.AllowsInputs part.inputs := by
  have hpart : (Table.ofDeclarations d.devices).part? (d.entryIndex name) = some part := by
    rw [Table.part?, show Table.ofDeclarations d.devices = d.table from rfl,
      getElem?_entryIndex_of_accepted h]
    rfl
  exact Table.allowsInputs_of_part? hpart

/-! ## Resolving -/

/-- **How a table resolves a reference**: an undeclared name is a fault, a rejected one is set aside,
and of an accepted part the pin is asked for. -/
theorem resolve_eq (name : String) (position : Instance → Except PinFault Nat) :
    d.table.resolve name position =
      match d.verdict name with
      | .undeclared => .invalid (.unknownDevice name)
      | .rejected => .rejected
      | .accepted part =>
        match position part with
        | .ok k => .found ⟨d.entryIndex name, k⟩
        | .error fault => .invalid (.pin fault) := by
  rw [Table.resolve]
  cases hi : d.table.entries.findIdx? (·.name == name) with
  | none => simp [findIdx?_entries_eq_none_iff.mp hi]
  | some i =>
    have hdeclared : d.verdict name ≠ .undeclared := by simp [← findIdx?_entries_eq_none_iff, hi]
    have hindex : d.entryIndex name = i := by simp [entryIndex, hi]
    have hentry := getElem?_entryIndex hdeclared
    rw [hindex] at hentry
    have hpart : d.table.part? i = ((d.devices.find? (·.name == name)).map
        Entry.ofDeclaration).bind (·.part) := congrArg (·.bind (·.part)) hentry
    rw [verdict] at hdeclared ⊢
    cases hc : d.devices.find? (·.name == name) with
    | none => simp [hc] at hdeclared
    | some c =>
      cases hinstance : c.kind.instantiate c.parameter with
      | error fault =>
        have hnone : d.table.part? i = none := by
          simp [hpart, hc, hinstance, Entry.ofDeclaration, Except.toOption]
        simp only [hnone, hinstance]
      | ok part =>
        have hsome : d.table.part? i = some part := by
          simp [hpart, hc, hinstance, Entry.ofDeclaration, Except.toOption]
        cases hposition : position part <;> simp [hsome, hinstance, hindex, hposition]

theorem resolveOutput_eq_found_iff {r : OutputRef} {pin : Pin} :
    d.table.resolveOutput r = .found pin ↔
      d.FindsOutput r pin.position ∧ pin.device = d.entryIndex r.device := by
  rw [Table.resolveOutput, resolve_eq, FindsOutput]
  cases d.verdict r.device with
  | undeclared => simp
  | rejected => simp
  | accepted part =>
    simp only [Verdict.accepted.injEq, exists_eq_left', ← Component.outputOffset_eq_ok_iff]
    cases part.component.outputOffset r.pin with
    | error fault => simp
    | ok k =>
      cases pin
      simp [and_comm, eq_comm]

theorem resolveInput_eq_found_iff {r : InputRef} {pin : Pin} :
    d.table.resolveInput r = .found pin ↔
      d.FindsInput r pin.position ∧ pin.device = d.entryIndex r.device := by
  rw [Table.resolveInput, resolve_eq, FindsInput]
  cases hverdict : d.verdict r.device with
  | undeclared => simp
  | rejected => simp
  | accepted part =>
    have hbound := (allowsInputs_of_accepted hverdict).lt_numeralBound
    simp only [Verdict.accepted.injEq, exists_eq_left', ← Component.inputSlot_eq_ok_iff hbound]
    cases part.component.inputSlot part.inputs r.pin with
    | error fault => simp
    | ok k =>
      cases pin
      simp [and_comm, eq_comm]

theorem resolveOutput_eq_rejected_iff {r : OutputRef} :
    d.table.resolveOutput r = .rejected ↔ d.verdict r.device = .rejected := by
  rw [Table.resolveOutput, resolve_eq]
  cases d.verdict r.device with
  | undeclared => simp
  | rejected => simp
  | accepted part => cases hoffset : part.component.outputOffset r.pin <;> simp [hoffset]

end Description

end SyncCircuit

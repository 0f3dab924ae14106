import SyncCircuit.Proofs.Build.Distinct
import SyncCircuit.Proofs.Build.Valid

/-!
# Checking declarations

The declarations are reported faultless exactly if they are `WellDeclared`. The table of such
declarations has one entry for each, none of them refused, and resolves a reference exactly to the
pin it names.
-/
namespace SyncCircuit

/-! ## Names -/

theorem nameFault?_eq_none_iff {name : String} : nameFault? name = none ↔ ValidName name := by
  unfold nameFault?
  split
  · rename_i hnil
    refine iff_of_false (by simp) fun h => ?_
    obtain ⟨c, cs, hcons, -⟩ := h.letter
    simp [hnil] at hcons
  · rename_i c cs hcons
    constructor
    · intro h
      split at h
      · cases h
      · rename_i halpha
        split at h
        · cases h
        · rename_i hall
          split at h
          · cases h
          · rename_i hkeyword
            have hall' : (c :: cs).all Char.isAlphanum = true := by simpa using hall
            refine ⟨⟨c, cs, hcons, by simpa using halpha⟩, ?_, hkeyword⟩
            rw [hcons]
            exact List.all_eq_true.mp hall'
    · rintro ⟨⟨c', cs', hcons', halpha⟩, halphanum, hkeyword⟩
      obtain ⟨rfl, rfl⟩ := List.cons.inj (hcons.symm.trans hcons')
      rw [hcons] at halphanum
      rw [if_neg (by simp [halpha]), if_neg (by simpa using halphanum)]
      exact if_neg hkeyword

namespace Declaration

theorem nameErrors_eq_nil_iff {c : Declaration} : c.nameErrors = [] ↔ ValidName c.name := by
  rw [nameErrors, List.map_eq_nil_iff, Option.toList_eq_nil_iff, nameFault?_eq_none_iff]

theorem parameterErrors_eq_nil_iff {c : Declaration} :
    c.parameterErrors = [] ↔ ∃ part, c.kind.instantiate c.parameter = .ok part := by
  rw [parameterErrors]
  split <;> rename_i h <;> simp [h]

end Declaration

/-- No error is reported exactly if names are valid, new and distinct, and parameters accepted. -/
theorem declarationErrors_eq_nil_iff {seen : List String} {ds : List Declaration} :
    declarationErrors seen ds = [] ↔
      (∀ c ∈ ds, ValidName c.name) ∧ (∀ c ∈ ds, c.name ∉ seen) ∧ (ds.map (·.name)).Nodup ∧
        ∀ c ∈ ds, ∃ part, c.kind.instantiate c.parameter = .ok part := by
  induction ds generalizing seen with
  | nil => simp [declarationErrors]
  | cons c ds ih =>
    rw [declarationErrors, List.append_eq_nil_iff, Declaration.nameErrors_eq_nil_iff]
    by_cases hseen : c.name ∈ seen
    · simp [hseen]
    · rw [if_neg hseen, List.append_eq_nil_iff, Declaration.parameterErrors_eq_nil_iff, ih,
        List.forall_mem_cons, List.forall_mem_cons, List.forall_mem_cons]
      simp only [List.map_cons, List.nodup_cons, List.mem_cons, List.mem_map, not_or, not_exists,
        not_and]
      constructor
      · rintro ⟨hname, hpart, hnames, hfresh, hnodup, hparts⟩
        exact ⟨⟨hname, hnames⟩, ⟨hseen, fun x hx => (hfresh x hx).2⟩,
          ⟨fun x hx => (hfresh x hx).1, hnodup⟩, hpart, hparts⟩
      · rintro ⟨⟨hname, hnames⟩, ⟨-, hfresh⟩, ⟨hne, hnodup⟩, hpart, hparts⟩
        exact ⟨hname, hpart, hnames, fun x hx => ⟨hne x hx, hfresh x hx⟩, hnodup, hparts⟩

theorem Description.declarationErrors_eq_nil_iff {d : Description} :
    declarationErrors [] d.devices = [] ↔ d.WellDeclared := by
  rw [SyncCircuit.declarationErrors_eq_nil_iff]
  constructor
  · rintro ⟨hnames, -, hdistinct, hparts⟩
    exact ⟨hnames, hdistinct, hparts⟩
  · intro h
    exact ⟨h.names, by simp, h.distinct, h.parameters⟩

/-! ## The table -/

theorem Resolution.fault?_eq_none_iff {r : Resolution} (h : r ≠ .rejected) :
    r.fault? = none ↔ ∃ pin, r = .found pin := by
  cases r <;> simp_all [fault?]

namespace Table

variable {t : Table}

theorem lt_of_part? {i : Nat} {part : Instance} (h : t.part? i = some part) :
    i < t.entries.length := by
  obtain ⟨e, he, -⟩ := Option.bind_eq_some_iff.mp h
  exact (List.getElem?_eq_some_iff.mp he).1

/-- A reference finds pins of devices of the table. -/
theorem exists_of_resolve {device : String} {position : Instance → Except PinFault Nat} {pin : Pin}
    (h : t.resolve device position = .found pin) :
    ∃ part, t.part? pin.device = some part ∧ position part = .ok pin.position := by
  rw [resolve] at h
  cases hindex : t.entries.findIdx? (·.name == device) with
  | none => simp [hindex] at h
  | some i =>
    cases hpart : t.part? i with
    | none => simp [hindex, hpart] at h
    | some part =>
      cases hposition : position part with
      | error fault => simp [hindex, hpart, hposition] at h
      | ok k =>
        simp only [hindex, hpart, hposition, Resolution.found.injEq] at h
        subst h
        exact ⟨part, hpart, hposition⟩

end Table

namespace Description

variable {d : Description}

theorem Declares.unique {i : Nat} {name name' : String} {part part' : Instance}
    (h : d.Declares i name part) (h' : d.Declares i name' part') : name = name' ∧ part = part' := by
  obtain ⟨c, hc, rfl, hpart⟩ := h
  obtain ⟨c', hc', rfl, hpart'⟩ := h'
  obtain rfl := Option.some.inj (hc.symm.trans hc')
  exact ⟨rfl, Except.ok.inj (hpart.symm.trans hpart')⟩

namespace WellDeclared

theorem entries_table (h : d.WellDeclared) :
    d.table.entries = d.devices.map Entry.ofDeclaration := by
  simp only [table, Table.ofDeclarations, firstDeclarations, firsts_eq_self h.distinct]

theorem length_entries (h : d.WellDeclared) : d.table.entries.length = d.devices.length := by
  rw [h.entries_table, List.length_map]

theorem getElem?_entries_eq_some_iff (h : d.WellDeclared) {i : Nat} {e : Entry} :
    d.table.entries[i]? = some e ↔ ∃ part, d.Declares i e.name part ∧ e.part = some part := by
  rw [h.entries_table, List.getElem?_map, Option.map_eq_some_iff]
  constructor
  · rintro ⟨c, hc, rfl⟩
    obtain ⟨part, hpart⟩ := h.parameters c (List.mem_of_getElem? hc)
    exact ⟨part, ⟨c, hc, rfl, hpart⟩, by simp [Entry.ofDeclaration, hpart, Except.toOption]⟩
  · rintro ⟨part, ⟨c, hc, hname, hpart⟩, he⟩
    refine ⟨c, hc, ?_⟩
    cases e
    simp_all [Entry.ofDeclaration, Except.toOption]

theorem part?_table_eq_some_iff (h : d.WellDeclared) {i : Nat} {part : Instance} :
    d.table.part? i = some part ↔ ∃ name, d.Declares i name part := by
  rw [Table.part?, Option.bind_eq_some_iff]
  constructor
  · rintro ⟨e, he, hpart⟩
    obtain ⟨part', hdecl, hpart'⟩ := h.getElem?_entries_eq_some_iff.mp he
    obtain rfl := Option.some.inj (hpart.symm.trans hpart')
    exact ⟨e.name, hdecl⟩
  · rintro ⟨name, hdecl⟩
    exact ⟨⟨name, some part⟩, h.getElem?_entries_eq_some_iff.mpr ⟨part, hdecl, rfl⟩, rfl⟩

/-- A name finds the declaration that gives it. -/
theorem findIdx?_table_eq_some_iff (h : d.WellDeclared) {name : String} {i : Nat} :
    d.table.entries.findIdx? (·.name == name) = some i ↔ ∃ part, d.Declares i name part := by
  have hnodup : (d.table.entries.map (·.name)).Nodup := Table.nodup_names_ofDeclarations d.devices
  rw [findIdx?_key_eq_some_iff hnodup]
  constructor
  · rintro ⟨e, he, rfl⟩
    obtain ⟨part, hdecl, -⟩ := h.getElem?_entries_eq_some_iff.mp he
    exact ⟨part, hdecl⟩
  · rintro ⟨part, hdecl⟩
    exact ⟨⟨name, some part⟩, h.getElem?_entries_eq_some_iff.mpr ⟨part, hdecl, rfl⟩, rfl⟩

theorem resolve_eq_found_iff (h : d.WellDeclared) {device : String}
    {position : Instance → Except PinFault Nat} {pin : Pin} :
    d.table.resolve device position = .found pin ↔
      ∃ part, d.Declares pin.device device part ∧ position part = .ok pin.position := by
  unfold Table.resolve
  cases hi : d.table.entries.findIdx? (·.name == device) with
  | none =>
    refine iff_of_false (by simp) ?_
    rintro ⟨part, hdecl, -⟩
    rw [h.findIdx?_table_eq_some_iff.mpr ⟨part, hdecl⟩] at hi
    cases hi
  | some i =>
    obtain ⟨part, hdecl⟩ := h.findIdx?_table_eq_some_iff.mp hi
    have hpart := h.part?_table_eq_some_iff.mpr ⟨device, hdecl⟩
    simp only [hpart]
    constructor
    · intro hres
      split at hres
      · rename_i k hk
        obtain rfl := Resolution.found.inj hres
        exact ⟨part, hdecl, hk⟩
      · cases hres
    · rintro ⟨part', hdecl', hk⟩
      have hj := h.findIdx?_table_eq_some_iff.mpr ⟨part', hdecl'⟩
      obtain rfl : i = pin.device := Option.some.inj (hi.symm.trans hj)
      obtain ⟨-, rfl⟩ := hdecl.unique hdecl'
      rw [hk]

theorem resolve_ne_rejected (h : d.WellDeclared) {device : String}
    {position : Instance → Except PinFault Nat} : d.table.resolve device position ≠ .rejected := by
  unfold Table.resolve
  cases hi : d.table.entries.findIdx? (·.name == device) with
  | none => simp
  | some i =>
    obtain ⟨part, hdecl⟩ := h.findIdx?_table_eq_some_iff.mp hi
    simp only [h.part?_table_eq_some_iff.mpr ⟨device, hdecl⟩]
    split <;> simp

theorem resolveOutput_eq_found_iff (h : d.WellDeclared) {r : OutputRef} {pin : Pin} :
    d.table.resolveOutput r = .found pin ↔ d.NamesOutput r pin := by
  simp only [Table.resolveOutput, h.resolve_eq_found_iff, NamesOutput,
    Component.outputOffset_eq_ok_iff]

theorem resolveInput_eq_found_iff (h : d.WellDeclared) {r : InputRef} {pin : Pin} :
    d.table.resolveInput r = .found pin ↔ d.NamesInput r pin := by
  simp only [Table.resolveInput, h.resolve_eq_found_iff, NamesInput]
  refine exists_congr fun part => and_congr_right fun hdecl => ?_
  obtain ⟨c, -, -, hpart⟩ := hdecl
  exact Component.inputSlot_eq_ok_iff (Kind.instantiate_spec hpart).2.lt_numeralBound

theorem fault?_resolveOutput_eq_none_iff (h : d.WellDeclared) {r : OutputRef} :
    (d.table.resolveOutput r).fault? = none ↔ ∃ pin, d.NamesOutput r pin := by
  have hne : d.table.resolveOutput r ≠ .rejected := h.resolve_ne_rejected
  simp only [Resolution.fault?_eq_none_iff hne, h.resolveOutput_eq_found_iff]

theorem fault?_resolveInput_eq_none_iff (h : d.WellDeclared) {r : InputRef} :
    (d.table.resolveInput r).fault? = none ↔ ∃ pin, d.NamesInput r pin := by
  have hne : d.table.resolveInput r ≠ .rejected := h.resolve_ne_rejected
  simp only [Resolution.fault?_eq_none_iff hne, h.resolveInput_eq_found_iff]

end WellDeclared

end Description

end SyncCircuit

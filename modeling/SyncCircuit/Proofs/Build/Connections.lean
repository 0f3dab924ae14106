import SyncCircuit.Proofs.Build.Declarations

/-!
# Checking connections

For well-declared devices, connections and open inputs are reported faultless exactly if the
description is `WellConnected`. Then no connection is passed over: the wiring holds all of them, in
order, and is a function of the description alone.
-/
namespace SyncCircuit

/-- Answering every element of a list keeps the places. -/
theorem getElem?_filterMap_of_isSome {α β : Type} {f : α → Option β} {as : List α}
    (h : ∀ a ∈ as, (f a).isSome) (k : Nat) : (as.filterMap f)[k]? = as[k]?.bind f := by
  induction as generalizing k with
  | nil => simp
  | cons a as ih =>
    obtain ⟨b, hb⟩ := Option.isSome_iff_exists.mp (h a (by simp))
    rw [List.filterMap_cons_some hb]
    cases k with
    | zero => simp [hb]
    | succ k =>
      rw [List.getElem?_cons_succ, List.getElem?_cons_succ]
      exact ih (fun x hx => h x (List.mem_cons_of_mem a hx)) k

/-! ## The reports -/

/-- No error is reported exactly if both ends of every connection are faultless and no two
connections take the same pin. -/
theorem Table.connectionErrors_eq_nil_iff {t : Table} {held : List Attachment}
    {cs : List Connection} :
    t.connectionErrors held cs = [] ↔ (∀ c ∈ cs, t.endErrors c = []) ∧
      ((cs.filterMap t.attachment?).map (·.target)).Nodup ∧
      ∀ a ∈ cs.filterMap t.attachment?, ∀ b ∈ held, b.target ≠ a.target := by
  induction cs generalizing held with
  | nil => simp [connectionErrors]
  | cons c cs ih =>
    rw [connectionErrors, List.append_eq_nil_iff, List.forall_mem_cons, and_assoc]
    refine and_congr_right fun _ => ?_
    cases ha : t.attachment? c with
    | none => rw [List.filterMap_cons_none ha]; exact ih
    | some a =>
      rw [List.filterMap_cons_some ha, List.map_cons, List.nodup_cons, List.forall_mem_cons]
      dsimp only
      cases hfind : held.find? (·.target == a.target) with
      | some first =>
        have heq := List.find?_some hfind
        have hmem := List.mem_of_find?_eq_some hfind
        simp only [reduceCtorEq, false_iff]
        rintro ⟨-, -, hheld, -⟩
        exact hheld first hmem (by simpa using heq)
      | none =>
        have hheld : ∀ b ∈ held, b.target ≠ a.target := by simpa using hfind
        dsimp only
        rw [ih]
        simp only [List.mem_cons, List.mem_map, not_exists, not_and]
        constructor
        · rintro ⟨hends, hnodup, hfresh⟩
          exact ⟨hends, ⟨fun b hb e => hfresh b hb a (.inl rfl) e.symm, hnodup⟩, hheld,
            fun b hb x hx => hfresh b hb x (.inr hx)⟩
        · rintro ⟨hends, ⟨hne, hnodup⟩, -, hfresh⟩
          refine ⟨hends, hnodup, fun b hb x hx => ?_⟩
          rcases hx with rfl | hx
          · exact fun e => hne b hb e.symm
          · exact hfresh b hb x hx

/-! ## Attachments -/

namespace Table

variable {t : Table}

/-- A connection that takes a pin leads there from an output or a refused device. -/
theorem attachment?_cases {c : Connection} {a : Attachment} (h : t.attachment? c = some a) :
    t.resolveInput c.target = .found a.target ∧
      ((∃ source, a.driver = some source ∧ t.resolveOutput c.source = .found source) ∨
        (a.driver = none ∧ t.resolveOutput c.source = .rejected)) := by
  rw [attachment?] at h
  split at h
  case h_1 target driver htarget hdriver =>
    cases h
    exact ⟨htarget, .inl ⟨driver, rfl, hdriver⟩⟩
  case h_2 target htarget hdriver =>
    cases h
    exact ⟨htarget, .inr ⟨rfl, hdriver⟩⟩
  case h_3 => cases h

/-- Devices of the table drive devices of the table. -/
theorem lt_of_mem_dependents {cs : List Connection} {i j : Nat}
    (h : j ∈ (Wiring.ofConnections t cs).dependents i) :
    i < t.entries.length ∧ j < t.entries.length := by
  rw [Wiring.dependents, List.mem_eraseDups, List.mem_map] at h
  obtain ⟨a, ha, rfl⟩ := h
  obtain ⟨hmem, hdrives⟩ := List.mem_filter.mp ha
  obtain ⟨c, -, hc⟩ := List.mem_filterMap.mp (mem_of_mem_firsts hmem)
  obtain ⟨htarget, ⟨source, hdriver, hsource⟩ | ⟨hdriver, -⟩⟩ := attachment?_cases hc
  · obtain ⟨part, hpart, -⟩ := exists_of_resolve htarget
    obtain ⟨part', hpart', -⟩ := exists_of_resolve hsource
    rw [hdriver, Option.any_some, beq_iff_eq] at hdrives
    exact ⟨hdrives ▸ lt_of_part? hpart', lt_of_part? hpart⟩
  · rw [hdriver] at hdrives
    cases hdrives

end Table

namespace Description

variable {d : Description}

theorem NamesInput.isInput {r : InputRef} {pin : Pin} (h : d.NamesInput r pin) :
    d.IsInput pin := by
  obtain ⟨part, hdecl, hinput⟩ := h
  obtain ⟨c, -, -, hpart⟩ := id hdecl
  exact ⟨r.device, part, hdecl, hinput.lt (Kind.instantiate_spec hpart).2⟩

namespace WellDeclared

theorem endErrors_eq_nil_iff (h : d.WellDeclared) {c : Connection} :
    d.table.endErrors c = [] ↔
      (∃ pin, d.NamesOutput c.source pin) ∧ ∃ pin, d.NamesInput c.target pin := by
  rw [Table.endErrors, List.append_eq_nil_iff, Option.toList_eq_nil_iff, Option.toList_eq_nil_iff,
    Option.map_eq_none_iff, Option.map_eq_none_iff, h.fault?_resolveOutput_eq_none_iff,
    h.fault?_resolveInput_eq_none_iff]

/-- A connection takes a pin exactly if both ends exist. -/
theorem attachment?_eq_some_iff (h : d.WellDeclared) {c : Connection} {a : Attachment} :
    d.table.attachment? c = some a ↔ ∃ source, d.NamesOutput c.source source ∧
      d.NamesInput c.target a.target ∧ a.driver = some source ∧ a.connection = c := by
  simp only [← h.resolveOutput_eq_found_iff, ← h.resolveInput_eq_found_iff]
  have hne : d.table.resolveOutput c.source ≠ .rejected := h.resolve_ne_rejected
  rw [Table.attachment?]
  cases htarget : d.table.resolveInput c.target with
  | rejected => simp
  | invalid fault => simp
  | found target =>
    cases hsource : d.table.resolveOutput c.source with
    | rejected => exact absurd hsource hne
    | invalid fault => simp
    | found source =>
      cases a
      simp only [Option.some.injEq, Attachment.mk.injEq, Resolution.found.injEq]
      constructor
      · rintro ⟨rfl, rfl, rfl⟩
        exact ⟨source, rfl, rfl, rfl, rfl⟩
      · rintro ⟨_, rfl, rfl, rfl, rfl⟩
        exact ⟨rfl, rfl, rfl⟩

theorem openInputErrors_eq_nil_iff (h : d.WellDeclared) :
    d.wiring.openInputErrors = [] ↔ ∀ pin, d.IsInput pin → (d.wiring.holder? pin).isSome := by
  have hentry : ∀ e i, (e, i) ∈ d.wiring.table.entries.zipIdx ↔
      ∃ part, d.Declares i e.name part ∧ e.part = some part := by
    intro e i
    rw [List.mk_mem_zipIdx_iff_getElem?]
    exact h.getElem?_entries_eq_some_iff
  rw [Wiring.openInputErrors, List.flatMap_eq_nil_iff]
  constructor
  · rintro hall pin ⟨name, part, hdecl, hlt⟩
    have := hall (⟨name, some part⟩, pin.device) ((hentry _ _).mpr ⟨part, hdecl, rfl⟩)
    simp only [List.map_eq_nil_iff, List.filter_eq_nil_iff, List.mem_range] at this
    rw [Option.isSome_iff_ne_none]
    simpa using this pin.position hlt
  · rintro hall ⟨e, i⟩ hmem
    obtain ⟨part, hdecl, hpart⟩ := (hentry e i).mp hmem
    simp only [hpart, List.map_eq_nil_iff, List.filter_eq_nil_iff, List.mem_range]
    intro slot hslot
    have := hall ⟨i, slot⟩ ⟨e.name, part, hdecl, hslot⟩
    rw [Option.isSome_iff_ne_none] at this
    simpa using this

end WellDeclared

/-! ## Well-connected descriptions -/

/-- What the connection with an index takes, if both its ends exist. -/
def Takes (d : Description) (k : Nat) (a : Attachment) : Prop :=
  d.connections[k]?.bind d.table.attachment? = some a

theorem Takes.unique {k : Nat} {a b : Attachment} (ha : d.Takes k a) (hb : d.Takes k b) : a = b :=
  Option.some.inj (Eq.trans (Eq.symm ha) hb)

theorem WellDeclared.takes_iff (h : d.WellDeclared) {k : Nat} {a : Attachment} :
    d.Takes k a ↔ d.connections[k]? = some a.connection ∧ ∃ source, a.driver = some source ∧
      d.NamesOutput a.connection.source source ∧ d.NamesInput a.connection.target a.target := by
  rw [Takes, Option.bind_eq_some_iff]
  constructor
  · intro ⟨c, hc, hca⟩
    obtain ⟨source, hsource, htarget, hdriver, rfl⟩ := h.attachment?_eq_some_iff.mp hca
    exact ⟨hc, source, hdriver, hsource, htarget⟩
  · intro ⟨hc, source, hdriver, hsource, htarget⟩
    exact ⟨a.connection, hc,
      h.attachment?_eq_some_iff.mpr ⟨source, hsource, htarget, hdriver, rfl⟩⟩

/-- With all ends in place, a connection takes every pin its target names. -/
theorem WellDeclared.exists_takes_iff (h : d.WellDeclared)
    (hsources : ∀ c ∈ d.connections, ∃ pin, d.NamesOutput c.source pin) {k : Nat} {pin : Pin} :
    (∃ a, d.Takes k a ∧ a.target = pin) ↔
      ∃ c, d.connections[k]? = some c ∧ d.NamesInput c.target pin := by
  constructor
  · intro ⟨a, hk, htarget⟩
    obtain ⟨hc, -, -, -, hinput⟩ := h.takes_iff.mp hk
    exact ⟨a.connection, hc, htarget ▸ hinput⟩
  · intro ⟨c, hc, hinput⟩
    obtain ⟨source, hsource⟩ := hsources c (List.mem_of_getElem? hc)
    exact ⟨⟨pin, some source, c⟩, h.takes_iff.mpr ⟨hc, source, rfl, hsource, hinput⟩, rfl⟩

/-- With all ends in place, no connection is passed over. -/
theorem WellDeclared.isSome_attachment? (h : d.WellDeclared)
    (hsources : ∀ c ∈ d.connections, ∃ pin, d.NamesOutput c.source pin)
    (htargets : ∀ c ∈ d.connections, ∃ pin, d.NamesInput c.target pin) :
    ∀ c ∈ d.connections, (d.table.attachment? c).isSome := by
  intro c hc
  obtain ⟨source, hsource⟩ := hsources c hc
  obtain ⟨target, htarget⟩ := htargets c hc
  have hsome : d.table.attachment? c = some ⟨target, some source, c⟩ :=
    h.attachment?_eq_some_iff.mpr ⟨source, hsource, htarget, rfl, rfl⟩
  rw [hsome]
  rfl

/-- With all ends in place, the attachments are those of the connections, place by place. -/
theorem WellDeclared.getElem?_attachments (h : d.WellDeclared)
    (hsources : ∀ c ∈ d.connections, ∃ pin, d.NamesOutput c.source pin)
    (htargets : ∀ c ∈ d.connections, ∃ pin, d.NamesInput c.target pin) {k : Nat}
    {a : Attachment} :
    (d.connections.filterMap d.table.attachment?)[k]? = some a ↔ d.Takes k a := by
  rw [getElem?_filterMap_of_isSome (h.isSome_attachment? hsources htargets), Takes]

theorem holder?_isSome_iff {pin : Pin} :
    (d.wiring.holder? pin).isSome ↔
      ∃ a ∈ d.connections.filterMap d.table.attachment?, a.target = pin := by
  rw [wiring, Wiring.holder?_ofConnections, List.find?_isSome]
  simp

/-- **Connections and open inputs** are faultless exactly if the description is well connected. -/
theorem WellDeclared.wellConnected_iff (h : d.WellDeclared) :
    d.table.connectionErrors [] d.connections = [] ∧ d.wiring.openInputErrors = [] ↔
      d.WellConnected := by
  rw [Table.connectionErrors_eq_nil_iff, h.openInputErrors_eq_nil_iff]
  simp only [h.endErrors_eq_nil_iff, holder?_isSome_iff]
  constructor
  · intro ⟨⟨hends, hnodup, _⟩, hheld⟩
    have hsources := fun c hc => (hends c hc).1
    have htargets := fun c hc => (hends c hc).2
    refine ⟨hsources, htargets, fun pin hpin => ?_⟩
    obtain ⟨a, ha, htarget⟩ := hheld pin hpin
    obtain ⟨k, hk⟩ := List.mem_iff_getElem?.mp ha
    have htakes := (h.getElem?_attachments hsources htargets).mp hk
    refine ⟨k, (h.exists_takes_iff hsources).mp ⟨a, htakes, htarget⟩, fun k' hk' => ?_⟩
    obtain ⟨b, hb, hbtarget⟩ := (h.exists_takes_iff hsources).mpr hk'
    have hb := (h.getElem?_attachments hsources htargets).mpr hb
    -- Two connections to one pin would be two equal entries of the list of targets.
    have hlt : k' < ((d.connections.filterMap d.table.attachment?).map (·.target)).length := by
      simpa using (List.getElem?_eq_some_iff.mp hb).1
    apply (List.getElem?_inj hlt hnodup).mp
    rw [List.getElem?_map, List.getElem?_map, hb, hk, Option.map_some, Option.map_some, hbtarget,
      htarget]
  · intro hconn
    refine ⟨⟨fun c hc => ⟨hconn.sources c hc, hconn.targets c hc⟩, ?_, by simp⟩, ?_⟩
    · rw [List.nodup_iff_getElem?_ne_getElem?]
      intro i j hij hj heq
      rw [List.getElem?_map, List.getElem?_map] at heq
      have hj' : j < (d.connections.filterMap d.table.attachment?).length := by simpa using hj
      have hi' : i < (d.connections.filterMap d.table.attachment?).length := by omega
      rw [List.getElem?_eq_getElem hi', List.getElem?_eq_getElem hj'] at heq
      have hti := (h.getElem?_attachments hconn.sources hconn.targets).mp
        (List.getElem?_eq_getElem hi')
      have htj := (h.getElem?_attachments hconn.sources hconn.targets).mp
        (List.getElem?_eq_getElem hj')
      have hci := (h.exists_takes_iff hconn.sources).mp ⟨_, hti, Option.some.inj heq⟩
      have hcj := (h.exists_takes_iff hconn.sources).mp ⟨_, htj, rfl⟩
      obtain ⟨c, -, hinput⟩ := id hcj
      have := (hconn.driven _ hinput.isInput).unique hci hcj
      omega
    · intro pin hpin
      obtain ⟨k, hk, -⟩ := hconn.driven pin hpin
      obtain ⟨a, hka, htarget⟩ := (h.exists_takes_iff hconn.sources).mpr hk
      have := (h.getElem?_attachments hconn.sources hconn.targets).mpr hka
      exact ⟨a, List.mem_of_getElem? this, htarget⟩

end Description

end SyncCircuit

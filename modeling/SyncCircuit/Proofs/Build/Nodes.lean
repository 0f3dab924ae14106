import SyncCircuit.Build.Builder
import SyncCircuit.Proofs.Build.Reports
import SyncCircuit.Proofs.Graph.Traversal
import SyncCircuit.Proofs.Network.Tables

/-!
# What a builder holds

After some declarations and some connections the nodes of the builder are those of the table of the
declarations, with the slots and dependents that the wiring of the connections gives them. A slot
remembers by its index which of the connections took it, where the wiring has the connection itself.

## Main definitions

* `Table.holderIdx?`, `Table.slot` — what the connections bind a pin to.
* `Table.builder` — the builder after some declarations and connections.
-/
namespace SyncCircuit

namespace Table

section Holds

variable (t : Table) (cs : List Connection)

/-- The index of the connection that holds a pin. -/
def holderIdx? (pin : Pin) : Option Nat :=
  cs.findIdx? fun c => (t.attachment? c).any (·.target == pin)

/-- What the connection with an index binds a pin to, given the driver. -/
def binding (driver : Option Pin) (k : Nat) : Slot :=
  match driver with
  | some source => .driven (t.outputNumber source) k
  | none => .refused k

/-- What connections bind a pin to. -/
def slot (pin : Pin) : Slot :=
  match t.holderIdx? cs pin with
  | none => .vacant
  | some k => t.binding ((cs[k]?.bind t.attachment?).bind (·.driver)) k

/-- The node of an entry with its index, bound by connections. -/
def node (p : Entry × Nat) : BuildNode where
  component := p.1.part.map (·.component)
  slots := (List.range (p.1.part.elim 0 (·.inputs))).map fun k => t.slot cs ⟨p.2, k⟩
  firstOutput := t.firstOutput p.2
  dependents := (Wiring.ofConnections t cs).dependents p.2

/-- The outputs of all entries. -/
def outputs : List Pin := pins Entry.outputCount t.entries

/-- The builder that has gone over the declarations of a table and over some connections. -/
def builder (errors : List BuildError) : Builder where
  nodes := t.entries.zipIdx.map (t.node cs)
  names := t.entries.zipIdx.map fun (e, i) => (e.name, i)
  outputs := t.outputs
  errors := errors

end Holds

variable {t : Table} {cs : List Connection} {es : List BuildError}

/-! ### Reading -/

@[simp] theorem report_builder (es' : List BuildError) :
    (t.builder cs es).report es' = t.builder cs (es ++ es') := rfl

theorem names_builder :
    (t.builder cs es).names = t.entries.zipIdx.map fun p => (p.1.name, p.2) := rfl

theorem getElem?_nodes_builder (i : Nat) :
    (t.builder cs es).nodes[i]? = t.entries[i]?.map fun e => t.node cs (e, i) := by
  rw [builder, List.getElem?_map, List.getElem?_zipIdx, Option.map_map, Nat.zero_add]
  rfl

theorem index?_builder (name : String) :
    (t.builder cs es).index? name = t.entries.findIdx? (·.name == name) := by
  rw [Builder.index?, builder, List.find?_map, Option.map_map, List.findIdx?_eq_fst_find?_zipIdx]
  rfl

theorem component?_builder (i : Nat) :
    (t.builder cs es).component? i = (t.part? i).map (·.component) := by
  rw [Builder.component?, getElem?_nodes_builder, part?]
  cases t.entries[i]? <;> rfl

theorem slots_builder {i : Nat} {part : Instance} (h : t.part? i = some part) :
    (t.builder cs es).slots i = (List.range part.inputs).map fun k => t.slot cs ⟨i, k⟩ := by
  obtain ⟨e, he, hpart⟩ := Option.bind_eq_some_iff.mp h
  rw [Builder.slots, getElem?_nodes_builder, he, Option.map_some, Option.elim_some, node, hpart,
    Option.elim_some]

theorem firstOutput_builder {i : Nat} {part : Instance} (h : t.part? i = some part) :
    (t.builder cs es).firstOutput i = t.firstOutput i := by
  obtain ⟨e, he, -⟩ := Option.bind_eq_some_iff.mp h
  rw [Builder.firstOutput, getElem?_nodes_builder, he]
  rfl

theorem getElem?_slots_builder {pin : Pin} {part : Instance}
    (hpart : t.part? pin.device = some part) (hlt : pin.position < part.inputs) :
    ((t.builder cs es).slots pin.device)[pin.position]? = some (t.slot cs pin) := by
  rw [slots_builder hpart, List.getElem?_map, List.getElem?_range hlt]
  rfl

/-! ### Resolving references -/

/-- **Resolving an output** reports the fault of the reference, if it has one. -/
theorem resolveOutput_builder (r : OutputRef) : (t.builder cs es).resolveOutput r =
    (t.builder cs (es ++ ((t.resolveOutput r).fault?.map (·.buildError r.text)).toList),
      (t.resolveOutput r).pin?.map t.outputNumber) := by
  rw [Builder.resolveOutput, Builder.lookup, index?_builder, resolveOutput, resolve]
  cases t.entries.findIdx? (·.name == r.device) with
  | none => rfl
  | some i =>
    dsimp only
    rw [component?_builder]
    cases hpart : t.part? i with
    | none => simp [Resolution.fault?, Resolution.pin?]
    | some part =>
      dsimp only [Option.map_some]
      rw [firstOutput_builder hpart]
      cases part.component.outputOffset r.pin with
      | ok k => simp [Resolution.fault?, Resolution.pin?, outputNumber]
      | error fault => rfl

/-- **Resolving an input** reports the fault of the reference, if it has one. -/
theorem resolveInput_builder (r : InputRef) : (t.builder cs es).resolveInput r =
    (t.builder cs (es ++ ((t.resolveInput r).fault?.map (·.buildError r.text)).toList),
      (t.resolveInput r).pin?) := by
  rw [Builder.resolveInput, Builder.lookup, index?_builder, resolveInput, resolve]
  cases t.entries.findIdx? (·.name == r.device) with
  | none => rfl
  | some i =>
    dsimp only
    rw [component?_builder]
    cases hpart : t.part? i with
    | none => simp [Resolution.fault?, Resolution.pin?]
    | some part =>
      dsimp only [Option.map_some]
      rw [slots_builder hpart, List.length_map, List.length_range]
      cases part.component.inputSlot part.inputs r.pin with
      | ok k => simp [Resolution.fault?, Resolution.pin?]
      | error fault => rfl

theorem isRefused_builder (r : OutputRef) :
    (t.builder cs es).isRefused r.device = true ↔ t.resolveOutput r = .rejected := by
  rw [Builder.isRefused, index?_builder, resolveOutput, resolve]
  cases t.entries.findIdx? (·.name == r.device) with
  | none => simp
  | some i =>
    rw [Option.any_some, component?_builder]
    cases hpart : t.part? i with
    | none => simp [hpart]
    | some part => cases hoffset : part.component.outputOffset r.pin <;> simp [hpart, hoffset]

/-! ### Pins -/

/-- The outputs that references name are in the table of outputs. -/
theorem getElem?_outputs_of_resolveOutput {r : OutputRef} {pin : Pin}
    (h : t.resolveOutput r = .found pin) : t.outputs[t.outputNumber pin]? = some pin := by
  obtain ⟨part, hpart, hoffset⟩ := exists_of_resolve h
  obtain ⟨e, he, hpart⟩ := Option.bind_eq_some_iff.mp hpart
  refine (getElem?_pins_eq_some_iff _ _).mpr ⟨e, he, ?_, rfl⟩
  rw [Entry.outputCount, hpart]
  exact (Component.outputOffset_eq_ok_iff.mp hoffset).lt_outputCount

theorem allowsInputs_of_part? {ds : List Declaration} {i : Nat} {part : Instance}
    (h : (ofDeclarations ds).part? i = some part) :
    part.component.AllowsInputs part.inputs := by
  obtain ⟨e, he, hpart⟩ := Option.bind_eq_some_iff.mp h
  obtain ⟨c, -, rfl⟩ := List.mem_map.mp (List.mem_of_getElem? he)
  rw [Entry.ofDeclaration] at hpart
  cases hinstance : c.kind.instantiate c.parameter with
  | error fault => simp [hinstance, Except.toOption] at hpart
  | ok part' =>
    rw [hinstance] at hpart
    obtain rfl := Option.some.inj hpart
    exact (Kind.instantiate_spec hinstance).2

/-- The inputs that references name are inputs of the device. -/
theorem exists_of_resolveInput {ds : List Declaration} {r : InputRef} {pin : Pin}
    (h : (ofDeclarations ds).resolveInput r = .found pin) :
    ∃ part, (ofDeclarations ds).part? pin.device = some part ∧ pin.position < part.inputs := by
  obtain ⟨part, hpart, hslot⟩ := exists_of_resolve h
  have hallows := allowsInputs_of_part? hpart
  exact ⟨part, hpart,
    ((Component.inputSlot_eq_ok_iff hallows.lt_numeralBound).mp hslot).lt hallows⟩

/-! ### Slots -/

theorem holder?_eq_bind (pin : Pin) : (Wiring.ofConnections t cs).holder? pin =
    (t.holderIdx? cs pin).bind fun k => cs[k]?.bind t.attachment? := by
  rw [Wiring.holder?_ofConnections, List.find?_filterMap, List.find?_eq_bind_findIdx?_getElem?,
    Option.bind_assoc]
  rfl

theorem exists_of_holderIdx? {pin : Pin} {k : Nat} (h : t.holderIdx? cs pin = some k) :
    ∃ c a, cs[k]? = some c ∧ t.attachment? c = some a ∧
      (Wiring.ofConnections t cs).holder? pin = some a := by
  obtain ⟨hlt, hany, -⟩ := List.findIdx?_eq_some_iff_getElem.mp h
  rw [Option.any_eq_true] at hany
  obtain ⟨a, ha, -⟩ := hany
  refine ⟨cs[k], a, List.getElem?_eq_getElem hlt, ha, ?_⟩
  rw [holder?_eq_bind, h, Option.bind_some, List.getElem?_eq_getElem hlt, Option.bind_some, ha]

theorem holderIdx?_eq_none_iff {pin : Pin} :
    t.holderIdx? cs pin = none ↔ (Wiring.ofConnections t cs).holder? pin = none := by
  constructor
  · intro h
    rw [holder?_eq_bind, h, Option.bind_none]
  · intro h
    cases hk : t.holderIdx? cs pin with
    | none => rfl
    | some k =>
      obtain ⟨c, a, -, -, ha⟩ := exists_of_holderIdx? hk
      rw [h] at ha
      cases ha

theorem connection?_binding (driver : Option Pin) (k : Nat) :
    (t.binding driver k).connection? = some k := by
  cases driver <;> rfl

theorem output?_binding (driver : Option Pin) (k : Nat) :
    (t.binding driver k).output? = driver.map t.outputNumber := by
  cases driver <;> rfl

theorem connection?_slot (pin : Pin) : (t.slot cs pin).connection? = t.holderIdx? cs pin := by
  rw [slot]
  cases t.holderIdx? cs pin with
  | none => rfl
  | some k => exact connection?_binding _ k

theorem slot_eq_vacant_iff {pin : Pin} :
    t.slot cs pin = .vacant ↔ (Wiring.ofConnections t cs).holder? pin = none := by
  rw [← holderIdx?_eq_none_iff, ← connection?_slot]
  cases t.slot cs pin <;> simp [Slot.connection?]

/-- **A slot is bound to the driver of the pin.** -/
theorem output?_slot (pin : Pin) : (t.slot cs pin).output? =
    ((Wiring.ofConnections t cs).driver? pin).map t.outputNumber := by
  rw [slot, Wiring.driver?, holder?_eq_bind]
  cases t.holderIdx? cs pin with
  | none => rfl
  | some k => exact output?_binding _ k

/-! ### One more connection -/

section Concat

variable {c : Connection} {a : Attachment}

theorem holderIdx?_concat (cs : List Connection) (c : Connection) (pin : Pin) :
    t.holderIdx? (cs ++ [c]) pin = (t.holderIdx? cs pin).or
      (if (t.attachment? c).any (·.target == pin) then some cs.length else none) := by
  rw [holderIdx?, List.findIdx?_append]
  congr 1
  rw [List.findIdx?_cons]
  split
  · rw [Option.map_some, Nat.zero_add]
  · rfl

/-- A held pin stays bound as it is. -/
theorem slot_concat_of_held {pin : Pin} {k : Nat} (h : t.holderIdx? cs pin = some k) :
    t.slot (cs ++ [c]) pin = t.slot cs pin := by
  obtain ⟨c', a, hc', -, -⟩ := exists_of_holderIdx? h
  have hlt := (List.getElem?_eq_some_iff.mp hc').1
  rw [slot, slot, holderIdx?_concat, h, Option.some_or]
  dsimp only
  rw [List.getElem?_append_left hlt]

theorem slot_concat_of_none (h : t.attachment? c = none) (pin : Pin) :
    t.slot (cs ++ [c]) pin = t.slot cs pin := by
  cases hk : t.holderIdx? cs pin with
  | some k => exact slot_concat_of_held hk
  | none =>
    rw [slot, slot, holderIdx?_concat, hk, h]
    rfl

theorem slot_concat (h : t.attachment? c = some a) (pin : Pin) :
    t.slot (cs ++ [c]) pin =
      if pin = a.target ∧ (Wiring.ofConnections t cs).holder? pin = none then
        t.binding a.driver cs.length
      else t.slot cs pin := by
  cases hk : t.holderIdx? cs pin with
  | some k =>
    rw [slot_concat_of_held hk, if_neg]
    rintro ⟨-, hfree⟩
    rw [holderIdx?_eq_none_iff.mpr hfree] at hk
    cases hk
  | none =>
    rw [slot, slot, holderIdx?_concat, hk, h, Option.none_or, Option.any_some]
    by_cases hpin : a.target = pin
    · have hlast : (cs ++ [c])[cs.length]? = some c := by simp
      rw [hpin, beq_self_eq_true, if_pos rfl, if_pos ⟨rfl, holderIdx?_eq_none_iff.mp hk⟩]
      dsimp only
      rw [hlast, Option.bind_some, h, Option.bind_some]
    · rw [beq_false_of_ne hpin, if_neg Bool.false_ne_true, if_neg fun hboth => hpin hboth.1.symm]

/-- A connection that takes no pin leaves the builder as it is. -/
theorem builder_concat_of_same (hslot : ∀ pin, t.slot (cs ++ [c]) pin = t.slot cs pin)
    (hwiring : Wiring.ofConnections t (cs ++ [c]) = Wiring.ofConnections t cs) :
    t.builder (cs ++ [c]) es = t.builder cs es := by
  have hnode : t.node (cs ++ [c]) = t.node cs := by
    funext p
    rw [node, node, hwiring, funext hslot]
  rw [builder, builder, hnode]

theorem builder_concat_of_none (h : t.attachment? c = none) :
    t.builder (cs ++ [c]) es = t.builder cs es :=
  builder_concat_of_same (slot_concat_of_none h) (Wiring.ofConnections_concat_of_none h)

theorem builder_concat_of_held (h : t.attachment? c = some a)
    (hheld : ((Wiring.ofConnections t cs).holder? a.target).isSome) :
    t.builder (cs ++ [c]) es = t.builder cs es := by
  refine builder_concat_of_same (fun pin => ?_) (Wiring.ofConnections_concat_of_held h hheld)
  rw [slot_concat h, if_neg]
  rintro ⟨rfl, hfree⟩
  rw [hfree] at hheld
  cases hheld

/-- **A connection to a free pin** binds the slot, and enters a dependent of the driver. -/
theorem node_concat_of_free (h : t.attachment? c = some a)
    (hfree : (Wiring.ofConnections t cs).holder? a.target = none) (e : Entry) (i : Nat) :
    t.node (cs ++ [c]) (e, i) =
      { t.node cs (e, i) with
        slots := if a.target.device = i then
            (t.node cs (e, i)).slots.set a.target.position (t.binding a.driver cs.length)
          else (t.node cs (e, i)).slots
        dependents := if a.driver.any (·.device == i) then
            Builder.insertNew (t.node cs (e, i)).dependents a.target.device
          else (t.node cs (e, i)).dependents } := by
  have hslot : ∀ k, t.slot (cs ++ [c]) ⟨i, k⟩ =
      if a.target.device = i ∧ a.target.position = k then t.binding a.driver cs.length
      else t.slot cs ⟨i, k⟩ := by
    intro k
    rw [slot_concat h]
    refine if_congr ?_ rfl rfl
    constructor
    · rintro ⟨heq, -⟩
      rw [← heq]
      exact ⟨rfl, rfl⟩
    · rintro ⟨rfl, rfl⟩
      exact ⟨rfl, hfree⟩
  have hslots : ((List.range (e.part.elim 0 (·.inputs))).map fun k => t.slot (cs ++ [c]) ⟨i, k⟩) =
      if a.target.device = i then
        ((List.range (e.part.elim 0 (·.inputs))).map fun k => t.slot cs ⟨i, k⟩).set
          a.target.position (t.binding a.driver cs.length)
      else (List.range (e.part.elim 0 (·.inputs))).map fun k => t.slot cs ⟨i, k⟩ := by
    by_cases hi : a.target.device = i
    · rw [if_pos hi]
      refine List.ext_getElem (by simp) fun k hk _ => ?_
      rw [List.getElem_set, List.getElem_map, List.getElem_map, List.getElem_range, hslot]
      exact if_congr (and_iff_right hi) rfl rfl
    · rw [if_neg hi]
      refine List.map_congr_left fun k _ => ?_
      rw [hslot, if_neg fun hboth => hi hboth.1]
  have hdependents : (Wiring.ofConnections t (cs ++ [c])).dependents i =
      if a.driver.any (·.device == i) then
        Builder.insertNew ((Wiring.ofConnections t cs).dependents i) a.target.device
      else (Wiring.ofConnections t cs).dependents i := by
    rw [Wiring.dependents_concat_of_free h hfree, Builder.insertNew]
    cases a.driver.any (·.device == i) <;> simp [ite_not]
  rw [node, hslots, hdependents]
  rfl

end Concat

end Table

end SyncCircuit

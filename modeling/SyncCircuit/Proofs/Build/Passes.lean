import SyncCircuit.Proofs.Build.Nodes

/-!
# The passes

Each pass does for every list of statements, step by step, what the description of its result says,
also where other statements are wrong. So all of them together build the network of the description,
or report all that is wrong with it (`Builder.build_eq`).

## Main definitions

* `Table.named`, `Table.monitored` — the outputs that references name, and their numbers.
-/
namespace SyncCircuit

namespace Table

variable {t : Table} {cs : List Connection} {es : List BuildError}

/-! ### Declarations -/

theorem node_nil (e : Entry) (i : Nat) : t.node [] (e, i) =
    ⟨e.part.map (·.component), .replicate (e.part.elim 0 (·.inputs)) .vacant, t.firstOutput i,
      []⟩ := by
  have hslots : ((List.range (e.part.elim 0 (·.inputs))).map fun k => t.slot [] ⟨i, k⟩) =
      .replicate (e.part.elim 0 (·.inputs)) .vacant := by
    rw [List.eq_replicate_iff, List.length_map, List.length_range]
    exact ⟨rfl, fun slot hslot => by obtain ⟨k, -, rfl⟩ := List.mem_map.mp hslot; rfl⟩
  rw [node, hslots]
  rfl

theorem firstOutput_concat (e : Entry) {i : Nat} (hi : i ≤ t.entries.length) :
    (⟨t.entries ++ [e]⟩ : Table).firstOutput i = t.firstOutput i :=
  pinsBefore_append _ _ _ hi

theorem length_outputs : t.outputs.length = t.firstOutput t.entries.length :=
  length_pins _ _

/-- A node is added for an entry. -/
theorem add_builder (e : Entry) :
    (t.builder [] es).add e.name e.part = (⟨t.entries ++ [e]⟩ : Table).builder [] es := by
  have hnodes : (t.builder [] es).nodes.length = t.entries.length := by
    rw [builder, List.length_map, List.length_zipIdx]
  have hold : t.entries.zipIdx.map ((⟨t.entries ++ [e]⟩ : Table).node []) =
      t.entries.zipIdx.map (t.node []) := by
    refine List.map_congr_left fun p hp => ?_
    have hlt := (List.getElem?_eq_some_iff.mp (List.mk_mem_zipIdx_iff_getElem?.mp hp)).1
    rw [node_nil, node_nil, firstOutput_concat e hlt.le]
  have hnew : (⟨t.entries ++ [e]⟩ : Table).node [] (e, t.entries.length) =
      ⟨e.part.map (·.component), .replicate (e.part.elim 0 (·.inputs)) .vacant, t.outputs.length,
        []⟩ := by
    rw [node_nil, firstOutput_concat e le_rfl, length_outputs]
  rw [Builder.add, hnodes]
  simp only [builder, outputs, pins, List.zipIdx_append, List.map_append, List.flatMap_append, hold]
  simp [hnew, outputs, pins, Entry.outputCount]

theorem isSome_index?_builder (ds : List Declaration) (name : String) :
    (((ofDeclarations ds).builder cs es).index? name).isSome = true ↔ name ∈ ds.map (·.name) := by
  rw [index?_builder, List.findIdx?_isSome, ← mem_map_firsts_iff]
  have hnames : (firsts (·.name) ds).map (·.name) = (ofDeclarations ds).entries.map (·.name) :=
    (names_ofDeclarations ds).symm
  rw [hnames, List.any_eq_true, List.mem_map]
  simp only [beq_iff_eq]

/-- **Going over a declaration.** -/
theorem declare_builder (ds : List Declaration) (c : Declaration) :
    ((ofDeclarations ds).builder [] es).declare c =
      (ofDeclarations (ds ++ [c])).builder [] (es ++ (c.nameErrors ++
        if c.name ∈ ds.map (·.name) then [.duplicateDeviceName c.name] else c.parameterErrors)) := by
  have hentries := entries_ofDeclarations_concat ds c
  have hindex : (((ofDeclarations ds).builder [] (es ++ c.nameErrors)).index? c.name).isSome = true ↔
      c.name ∈ ds.map (·.name) := isSome_index?_builder ds c.name
  rw [Builder.declare, report_builder]
  by_cases hold : c.name ∈ ds.map (·.name)
  · rw [if_pos hold] at hentries ⊢
    rw [if_pos (hindex.mpr hold), report_builder, List.append_assoc,
      show ofDeclarations (ds ++ [c]) = ofDeclarations ds from congrArg Table.mk hentries]
  · rw [if_neg hold] at hentries ⊢
    rw [if_neg fun h => hold (hindex.mp h), Declaration.parameterErrors,
      show ofDeclarations (ds ++ [c]) = ⟨(ofDeclarations ds).entries ++ [.ofDeclaration c]⟩ from
        congrArg Table.mk hentries, ← add_builder, Entry.ofDeclaration]
    cases c.kind.instantiate c.parameter with
    | ok part => rw [List.append_nil]; rfl
    | error fault =>
      dsimp only
      rw [report_builder, List.append_assoc]
      rfl

/-- **The first pass** leaves the table of the declarations and their errors. -/
theorem foldl_declare (ds : List Declaration) :
    ds.foldl Builder.declare {} = (ofDeclarations ds).builder [] (declarationErrors [] ds) := by
  induction ds using List.reverseRecOn with
  | nil => rfl
  | append_singleton ds c ih =>
    rw [List.foldl_append, ih, List.foldl_cons, List.foldl_nil, declare_builder,
      declarationErrors_concat]
    simp only [List.not_mem_nil, false_or]

/-! ### Connections -/

section Connect

variable {c : Connection} {a : Attachment} {ds : List Declaration} {all : List Connection}

/-- **Taking a pin that is held** reports the connection that holds it. -/
theorem take_builder_of_held {first : Attachment} {part : Instance} (hinit : cs <+: all)
    (h : t.attachment? c = some a) (hpart : t.part? a.target.device = some part)
    (hlt : a.target.position < part.inputs)
    (hheld : (Wiring.ofConnections t cs).holder? a.target = some first) (slot : Slot) :
    (t.builder cs es).take all c a.target slot =
      t.builder (cs ++ [c]) (es ++ takeErrors c (some first)) := by
  have hk : ∃ k, t.holderIdx? cs a.target = some k := by
    cases hk : t.holderIdx? cs a.target with
    | none =>
      rw [holderIdx?_eq_none_iff.mp hk] at hheld
      cases hheld
    | some k => exact ⟨k, rfl⟩
  obtain ⟨k, hk⟩ := hk
  obtain ⟨c', a', hc', ha', hholder⟩ := exists_of_holderIdx? hk
  obtain rfl := Option.some.inj (hheld.symm.trans hholder)
  have hall : all[k]? = some first.connection := by
    obtain ⟨rest, rfl⟩ := hinit
    rw [t.connection_of_attachment? ha',
      List.getElem?_append_left (List.getElem?_eq_some_iff.mp hc').1, hc']
  rw [Builder.take, getElem?_slots_builder hpart hlt, Option.bind_some, connection?_slot, hk,
    builder_concat_of_held h (by rw [hheld]; rfl)]
  dsimp only
  rw [hall]
  rfl

/-- Node by node, what binding an input does. -/
theorem getElem?_nodes_setSlot (pin : Pin) (slot : Slot) (i : Nat) :
    ((t.builder cs es).setSlot pin slot).nodes[i]? = t.entries[i]?.map fun e =>
      if pin.device = i then
        { t.node cs (e, i) with slots := (t.node cs (e, i)).slots.set pin.position slot }
      else t.node cs (e, i) := by
  rw [Builder.setSlot, List.getElem?_modify, getElem?_nodes_builder]
  cases t.entries[i]? with
  | none => rfl
  | some e => split <;> rfl

/-- **Taking a free pin** binds it. -/
theorem take_builder_of_free {part : Instance} (h : t.attachment? c = some a)
    (hpart : t.part? a.target.device = some part) (hlt : a.target.position < part.inputs)
    (hfree : (Wiring.ofConnections t cs).holder? a.target = none) :
    (t.builder cs es).take all c a.target (t.binding a.driver cs.length) =
      t.builder (cs ++ [c]) es := by
  rw [Builder.take, getElem?_slots_builder hpart hlt, Option.bind_some, connection?_slot,
    holderIdx?_eq_none_iff.mpr hfree]
  dsimp only
  rw [Builder.addDependent, output?_binding]
  obtain ⟨-, ⟨source, hdriver, hsource⟩ | ⟨hdriver, -⟩⟩ := attachment?_cases h
  · have houtput : ((t.builder cs es).setSlot a.target
        (t.binding a.driver cs.length)).outputs[t.outputNumber source]? = some source :=
      getElem?_outputs_of_resolveOutput hsource
    have hdrives : ∀ i, a.driver.any (·.device == i) = true ↔ source.device = i := by
      simp [hdriver]
    rw [show (a.driver.map t.outputNumber).bind _ = some source by rw [hdriver]; exact houtput]
    refine congrArg (Builder.mk · _ _ _) (List.ext_getElem? fun i => ?_)
    show _ = (t.builder (cs ++ [c]) es).nodes[i]?
    rw [List.getElem?_modify, getElem?_nodes_builder, getElem?_nodes_setSlot]
    cases t.entries[i]? with
    | none => rfl
    | some e =>
      simp only [Option.map_some, Option.map_eq_map, node_concat_of_free h hfree e i, hdrives]
      split <;> split <;> rfl
  · rw [show (a.driver.map t.outputNumber).bind _ = none by rw [hdriver]; rfl]
    refine congrArg (Builder.mk · _ _ _) (List.ext_getElem? fun i => ?_)
    show _ = (t.builder (cs ++ [c]) es).nodes[i]?
    rw [getElem?_nodes_builder]
    refine (getElem?_nodes_setSlot _ _ _).trans (Option.map_congr fun e _ => ?_)
    rw [node_concat_of_free h hfree e i, hdriver]
    split <;> rfl

/-- **Going over a connection.** -/
theorem connect_builder (hinit : cs <+: all) :
    Builder.connect all ((ofDeclarations ds).builder cs es) (c, cs.length) =
      (ofDeclarations ds).builder (cs ++ [c]) (es ++ ((ofDeclarations ds).endErrors c ++
        takeErrors c (((ofDeclarations ds).attachment? c).bind fun a =>
          (Wiring.ofConnections (ofDeclarations ds) cs).holder? a.target))) := by
  have hpart : ∀ pin, (ofDeclarations ds).resolveInput c.target = .found pin →
      ∃ part, (ofDeclarations ds).part? pin.device = some part ∧ pin.position < part.inputs :=
    fun _ => exists_of_resolveInput
  generalize ofDeclarations ds = t at hpart ⊢
  have hends : t.endErrors c = ((t.resolveOutput c.source).fault?.map
      (·.buildError c.source.text)).toList ++ ((t.resolveInput c.target).fault?.map
        (·.buildError c.target.text)).toList := rfl
  rw [Builder.connect, resolveOutput_builder]
  dsimp only
  rw [resolveInput_builder, List.append_assoc, ← hends, ← List.append_assoc]
  -- A connection without attachment reports what is wrong with its ends and takes no pin.
  cases ha : t.attachment? c with
  | none =>
    rw [builder_concat_of_none ha, Option.bind_none, takeErrors, Option.toList_none, List.map_nil,
      List.append_nil]
    rw [attachment?] at ha
    cases hin : t.resolveInput c.target with
    | rejected | invalid fault => cases (t.resolveOutput c.source).pin? <;> rfl
    | found target =>
      cases hout : t.resolveOutput c.source with
      | found source | rejected => simp [hin, hout] at ha
      | invalid fault =>
        have hrefused : (t.builder cs (es ++ t.endErrors c)).isRefused c.source.device = false := by
          rw [← Bool.not_eq_true, isRefused_builder, hout]
          exact Resolution.noConfusion
        simp only [Resolution.pin?, Option.map_none, hrefused]
        rfl
  | some a =>
    obtain ⟨htarget, hdriver⟩ := attachment?_cases ha
    obtain ⟨part, hpart, hlt⟩ := hpart _ htarget
    have htake : (t.builder cs (es ++ t.endErrors c)).take all c a.target
        (t.binding a.driver cs.length) = t.builder (cs ++ [c]) (es ++ t.endErrors c ++
          takeErrors c ((Wiring.ofConnections t cs).holder? a.target)) := by
      cases hheld : (Wiring.ofConnections t cs).holder? a.target with
      | none =>
        rw [take_builder_of_free ha hpart hlt hheld, takeErrors, Option.toList_none, List.map_nil,
          List.append_nil]
      | some first => exact take_builder_of_held hinit ha hpart hlt hheld _
    rw [Option.bind_some, ← htake, htarget]
    obtain ⟨source, hdriver, hsource⟩ | ⟨hdriver, hrefused⟩ := hdriver
    · rw [hsource, hdriver]
      rfl
    · have hrefused' : (t.builder cs (es ++ t.endErrors c)).isRefused c.source.device = true :=
        (isRefused_builder _).mpr hrefused
      rw [hrefused, hdriver]
      simp only [Resolution.pin?, Option.map_none, hrefused']
      rfl

/-- **The second pass** leaves the wiring of the connections and their errors. -/
theorem foldl_connect (hinit : cs <+: all) :
    cs.zipIdx.foldl (Builder.connect all) ((ofDeclarations ds).builder [] es) =
      (ofDeclarations ds).builder cs (es ++ (ofDeclarations ds).connectionErrors [] cs) := by
  induction cs using List.reverseRecOn with
  | nil => rw [connectionErrors, List.append_nil]; rfl
  | append_singleton cs c ih =>
    have hcs : cs <+: all := (List.prefix_append cs [c]).trans hinit
    rw [List.zipIdx_append, List.foldl_append, ih hcs, Nat.zero_add, List.zipIdx_singleton,
      List.foldl_cons, List.foldl_nil, connect_builder hcs, connectionErrors_concat,
      List.append_assoc]
    simp only [List.find?_nil, Option.none_or, Wiring.holder?_ofConnections]

end Connect

/-! ### Checks -/

theorem zipIdx_map_range {α : Type} (f : Nat → α) (n : Nat) :
    ((List.range n).map f).zipIdx = (List.range n).map fun k => (f k, k) :=
  List.ext_getElem (by simp) (by simp)

/-- **The open slots** are the pins that no connection holds. -/
theorem openErrors_builder :
    (t.builder cs es).openErrors = (Wiring.ofConnections t cs).openInputErrors := by
  rw [Builder.openErrors, names_builder, List.flatMap_map, Wiring.openInputErrors]
  refine List.flatMap_congr fun p hp => ?_
  obtain ⟨e, i⟩ := p
  have he : t.entries[i]? = some e := List.mk_mem_zipIdx_iff_getElem?.mp hp
  have hpart? : t.part? i = e.part := by rw [part?, he, Option.bind_some]
  dsimp only
  rw [component?_builder, hpart?]
  cases hpart : e.part with
  | none => rfl
  | some part =>
    dsimp only [Option.map_some]
    rw [slots_builder (hpart?.trans hpart), zipIdx_map_range, List.filterMap_map,
      ← List.filterMap_eq_map, List.filterMap_filter]
    refine List.filterMap_congr fun k _ => ?_
    rw [Function.comp_apply]
    dsimp only
    rw [if_congr slot_eq_vacant_iff rfl rfl]
    cases (Wiring.ofConnections t cs).holder? ⟨i, k⟩ <;> rfl

theorem isGate_builder : (t.builder cs es).isGate = (Wiring.ofConnections t cs).isGate := by
  funext i
  rw [Builder.isGate, component?_builder, Wiring.isGate, Option.any_map]
  rfl

theorem dependents_builder :
    (t.builder cs es).dependents = (Wiring.ofConnections t cs).dependents := by
  funext i
  rw [Builder.dependents, getElem?_nodes_builder]
  cases he : t.entries[i]? with
  | some e => rfl
  | none =>
    symm
    refine List.eq_nil_iff_forall_not_mem.mpr fun j hj => ?_
    rw [List.getElem?_eq_getElem (lt_of_mem_dependents hj).1] at he
    cases he

theorem mapM_eq_some_filterMap {α β : Type} {f : α → Option β} {as : List α}
    (h : ∀ a ∈ as, (f a).isSome) : as.mapM f = some (as.filterMap f) := by
  induction as with
  | nil => rfl
  | cons a as ih =>
    obtain ⟨b, hb⟩ := Option.isSome_iff_exists.mp (h a List.mem_cons_self)
    rw [List.mapM_cons, List.filterMap_cons_some hb, hb,
      ih fun x hx => h x (List.mem_cons_of_mem a hx)]
    rfl

/-- **The loops of the nodes** are those of the wiring. -/
theorem loopErrors_builder :
    (t.builder cs es).loopErrors = (Wiring.ofConnections t cs).loopErrors := by
  have hlength : (t.builder cs es).nodes.length = t.entries.length := by simp [builder]
  have hnext : ∀ u < t.entries.length, ∀ w ∈ (Wiring.ofConnections t cs).dependents u,
      w < t.entries.length := fun u _ w hw => (lt_of_mem_dependents hw).2
  rw [Builder.loopErrors, hlength, isGate_builder, dependents_builder,
    Graph.Traversal.loops?_eq _ hnext, Option.getD_some]
  refine List.map_congr_left fun loop hloop => ?_
  have hname : ∀ i : Nat, (t.builder cs es).names[i]?.map (·.1) = t.entries[i]?.map (·.name) := by
    intro i
    rw [names_builder, List.getElem?_map, List.getElem?_zipIdx, Option.map_map, Option.map_map]
    rfl
  have hsome : ∀ i ∈ loop, (t.entries[i]?.map (·.name)).isSome := by
    intro i hi
    have hlt := ((Graph.isLoop_of_mem_findLoops hnext hloop).2 i hi).1
    rw [List.getElem?_eq_getElem hlt]
    rfl
  rw [funext hname, mapM_eq_some_filterMap hsome]
  rfl

/-! ### Monitors -/

/-- The outputs that references name. -/
def named (t : Table) (rs : List OutputRef) : List Pin :=
  rs.filterMap fun r => (t.resolveOutput r).pin?

/-- The numbers of the outputs that references name, each of them once. -/
def monitored (t : Table) (rs : List OutputRef) : List Nat :=
  ((t.named rs).map t.outputNumber).eraseDups

theorem named_concat (rs : List OutputRef) (r : OutputRef) :
    t.named (rs ++ [r]) = t.named rs ++ (t.resolveOutput r).pin?.toList := by
  rw [named, List.filterMap_append, named]
  cases hpin : (t.resolveOutput r).pin? <;> simp [hpin]

theorem monitored_concat_of_none {rs : List OutputRef} {r : OutputRef}
    (h : (t.resolveOutput r).pin? = none) : t.monitored (rs ++ [r]) = t.monitored rs := by
  rw [monitored, named_concat, h, Option.toList_none, List.append_nil]
  rfl

/-- Named outputs have different numbers. -/
theorem mem_monitored_iff {rs : List OutputRef} {r : OutputRef} {pin : Pin}
    (h : t.resolveOutput r = .found pin) :
    t.outputNumber pin ∈ t.monitored rs ↔ pin ∈ t.named rs := by
  rw [monitored, List.mem_eraseDups, List.mem_map]
  constructor
  · rintro ⟨pin', hpin', heq⟩
    obtain ⟨r', -, hr'⟩ := List.mem_filterMap.mp hpin'
    have hfound : t.resolveOutput r' = .found pin' := by
      cases hres : t.resolveOutput r' <;> rw [hres] at hr' <;> cases hr'
      rfl
    have hsame := getElem?_outputs_of_resolveOutput hfound
    rw [heq, getElem?_outputs_of_resolveOutput h] at hsame
    exact Option.some.inj hsame ▸ hpin'
  · exact fun hmem => ⟨pin, hmem, rfl⟩

theorem monitored_concat_of_found {rs : List OutputRef} {r : OutputRef} {pin : Pin}
    (h : t.resolveOutput r = .found pin) : t.monitored (rs ++ [r]) =
      if t.outputNumber pin ∈ t.monitored rs then t.monitored rs
      else t.monitored rs ++ [t.outputNumber pin] := by
  have hmem : t.outputNumber pin ∈ t.monitored rs ↔
      t.outputNumber pin ∈ (t.named rs).map t.outputNumber := List.mem_eraseDups
  rw [if_congr hmem rfl rfl, monitored, named_concat, h, Resolution.pin?, Option.toList_some,
    List.map_append, List.map_singleton, eraseDups_concat]
  rfl

/-- A reference to a declared device can only fail at its pin. -/
theorem exists_pin_of_resolve {device : String} {position : Instance → Except PinFault Nat}
    {i : Nat} {fault : ReferenceFault} (hindex : t.entries.findIdx? (·.name == device) = some i)
    (h : t.resolve device position = .invalid fault) : ∃ pinFault, fault = .pin pinFault := by
  rw [resolve, hindex] at h
  cases hpart : t.part? i with
  | none => simp [hpart] at h
  | some part =>
    cases hposition : position part with
    | ok k => simp [hpart, hposition] at h
    | error pinFault =>
      simp only [hpart, hposition, Resolution.invalid.injEq] at h
      exact ⟨pinFault, h.symm⟩

/-- **Going over a monitor.** What is reported about its pin is taken back and worded anew. -/
theorem monitor_builder (rs : List OutputRef) (r : OutputRef) :
    Builder.monitor (t.builder cs es, t.monitored rs) r =
      (t.builder cs (es ++ t.monitorStep (t.named rs) r), t.monitored (rs ++ [r])) := by
  rw [Builder.monitor, index?_builder]
  cases hindex : t.entries.findIdx? (·.name == r.device) with
  | none =>
    have hres : t.resolveOutput r = .invalid (.unknownDevice r.device) := by
      rw [resolveOutput, resolve, hindex]
    rw [monitored_concat_of_none (by rw [hres]; rfl), monitorStep, hres]
    rfl
  | some i =>
    rw [Option.isNone_some, if_neg Bool.false_ne_true, resolveOutput_builder]
    rw [monitorStep]
    cases hres : t.resolveOutput r with
    | rejected =>
      have hlast : (es ++ [])[es.length]? = none := by simp
      rw [monitored_concat_of_none (by rw [hres]; rfl)]
      simp only [Resolution.fault?, Resolution.pin?, Option.map_none, Option.toList_none, builder,
        hlast]
    | invalid fault =>
      obtain ⟨pinFault, rfl⟩ := exists_pin_of_resolve hindex hres
      have hlast : (es ++ [BuildError.invalidPinReference r.text pinFault])[es.length]? =
          some (.invalidPinReference r.text pinFault) := by simp
      rw [monitored_concat_of_none (by rw [hres]; rfl)]
      simp only [Resolution.fault?, Resolution.pin?, Option.map_none, Option.map_some,
        Option.toList_some, builder, ReferenceFault.buildError, hlast, List.take_left]
      rfl
    | found pin =>
      rw [monitored_concat_of_found hres]
      simp only [Resolution.fault?, Resolution.pin?, Option.map_none, Option.map_some,
        Option.toList_none, List.append_nil, ← mem_monitored_iff hres]
      split
      · rfl
      · rw [List.append_nil]

/-- **The last pass** leaves the monitored outputs and their errors. -/
theorem foldl_monitor (rs : List OutputRef) :
    rs.foldl Builder.monitor (t.builder cs es, []) =
      (t.builder cs (es ++ t.monitorErrors [] rs), t.monitored rs) := by
  induction rs using List.reverseRecOn with
  | nil =>
    rw [monitorErrors, List.append_nil]
    rfl
  | append_singleton rs r ih =>
    rw [List.foldl_append, ih, List.foldl_cons, List.foldl_nil, monitor_builder,
      monitorErrors_concat, List.nil_append, List.append_assoc]
    rfl

/-! ### The end -/

theorem zipIdx_zipIdx {α : Type} (as : List α) :
    as.zipIdx.zipIdx = as.zipIdx.map fun p => (p, p.2) :=
  List.ext_getElem (by simp) (by simp)

theorem indicesOf_builder (test : Component → Bool) :
    (t.builder cs es).indicesOf test = t.indicesOf test := by
  have hnodes : (t.builder cs es).nodes.zipIdx =
      t.entries.zipIdx.map fun p => (t.node cs p, p.2) := by
    rw [builder, List.zipIdx_map, zipIdx_zipIdx, List.map_map]
    rfl
  rw [Builder.indicesOf, hnodes, List.filter_map, List.map_map, indicesOf]
  congr 1
  refine List.filter_congr fun p _ => ?_
  exact Option.any_map

/-- **The finished network.** -/
theorem finish_builder (d : Description) :
    (d.table.builder d.connections es).finish (d.table.monitored d.monitors) = d.tables := by
  have hnodes : (d.table.entries.zipIdx.map (d.table.node d.connections)).filterMap (fun n =>
      n.component.map fun component =>
        (⟨component, n.slots.filterMap Slot.output?, n.firstOutput, n.dependents⟩ : Node)) =
      d.wiring.devices.map Device.node := by
    rw [List.filterMap_map, Wiring.devices, List.map_filterMap]
    refine List.filterMap_congr fun p _ => ?_
    rw [Function.comp_apply, node]
    dsimp only
    cases p.1.part with
    | none => rfl
    | some part =>
      rw [List.filterMap_map]
      simp only [Function.comp_def, output?_slot]
      rfl
  rw [Builder.finish, indicesOf_builder, indicesOf_builder, indicesOf_builder]
  exact congrArg (Tables.mk _ · _ _ _ _ _) hnodes

end Table

/-! ## The whole build -/

/-- All passes together leave what the description says, and all its errors. -/
theorem Builder.run_eq (d : Description) (options : BuildOptions) : Builder.run d options =
    (d.table.builder d.connections (d.errors options), d.table.monitored d.monitors) := by
  have htable : Table.ofDeclarations d.devices = d.table := rfl
  rw [Builder.run, Table.foldl_declare, Table.foldl_connect (List.prefix_refl _), htable,
    Table.openErrors_builder, Table.report_builder, Table.loopErrors_builder,
    Table.report_builder, Description.errors]
  cases options.allowFeedback with
  | true =>
    rw [if_pos rfl, if_pos rfl, Table.foldl_monitor, List.append_nil]
    rfl
  | false =>
    rw [if_neg Bool.false_ne_true, if_neg Bool.false_ne_true, Table.foldl_monitor]
    rfl

/-- **The passes build what the description describes**, or report all that is wrong with it. -/
theorem Builder.build_eq (d : Description) (options : BuildOptions) :
    Builder.build d options = (d.build options).map Network.tables := by
  rw [Builder.build, Builder.run_eq, Description.build]
  dsimp only
  rw [Table.finish_builder]
  by_cases h : d.errors options = []
  · have hd := (Description.errors_eq_nil_iff.mp h).toWellDeclared
    rw [dif_pos h]
    exact (dif_pos h).trans (congrArg Except.ok hd.tables_eq)
  · rw [dif_neg h]
    exact dif_neg h

end SyncCircuit

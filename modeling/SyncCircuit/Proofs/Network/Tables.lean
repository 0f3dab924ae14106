import SyncCircuit.Build.Builder
import SyncCircuit.Proofs.Build.Realization

/-!
# No lookup in the tables of a network misses

The builder fills the tables independently of each other, some of them before and some after it
leaves out what it has refused; yet for a description that builds they fit together
(`Description.WellDeclared.tables_eq`), and no lookup misses.
-/
namespace SyncCircuit

/-- Results that do not miss can be collected. -/
theorem mapM_eq_ok {α β ε : Type} {f : α → Except ε β} {g : α → β} {xs : List α}
    (h : ∀ a ∈ xs, f a = .ok (g a)) : xs.mapM f = .ok (xs.map g) := by
  induction xs with
  | nil => rfl
  | cons a xs ih =>
    rw [List.mapM_cons, h a List.mem_cons_self, ih fun b hb => h b (List.mem_cons_of_mem a hb)]
    rfl

theorem ok_bind {α β ε : Type} (a : α) (f : α → Except ε β) : (Except.ok a >>= f) = f a := rfl

/-! ## Tables that fit together -/

namespace Description.WellDeclared

variable {d : Description}

/-- What is entered of each declaration is what the network has of each device, index by index. -/
theorem zipIdx_network (h : d.WellDeclared) {α : Type} (f : Device → α) (g : Entry → α)
    (hfg : ∀ i name part, f (d.device i name part) = g ⟨name, some part⟩) :
    d.network.devices.zipIdx.map (Prod.map f id) = d.table.entries.zipIdx.map (Prod.map g id) := by
  rw [List.map_zipIdx, List.map_zipIdx, h.map_devices_network f g hfg]

theorem indicesOf_network (h : d.WellDeclared) (test : Component → Bool) :
    d.table.indicesOf test = d.network.indicesOf test := by
  have hzip := h.zipIdx_network (fun dev => test dev.component)
    (fun e => e.part.any fun part => test part.component) fun _ _ _ => rfl
  have hfilter := congrArg (fun ps => (ps.filter (·.1)).map (·.2)) hzip
  simp only [List.filter_map, List.map_map] at hfilter
  exact hfilter.symm

/-- **The tables fit together** once nothing is refused. -/
theorem tables_eq (h : d.WellDeclared) : d.tables = d.network.tables := by
  have hnames := h.zipIdx_network (·.name) (·.name) fun _ _ _ => rfl
  have houtputs : d.network.outputs = pins Entry.outputCount d.table.entries :=
    pins_congr (h.map_devices_network _ _ fun _ _ _ => rfl)
  rw [tables, Network.tables, h.indicesOf_network, h.indicesOf_network, h.indicesOf_network]
  refine congrArg₂ (fun names outputs => Tables.mk names _ outputs _ _ _ _) ?_ ?_
  · exact hnames.symm
  · exact houtputs.symm

end Description.WellDeclared

/-! ## Questions to a network, by way of its tables -/

namespace Network

variable {net : Network} {i o : Nat} {dev : Device}

/-! ### None of them misses -/

theorem index?_tables (net : Network) (name : String) :
    net.tables.index? name = net.index? name := by
  rw [Tables.index?, tables, List.find?_map, Option.map_map, index?,
    List.findIdx?_eq_fst_find?_zipIdx]
  rfl

theorem node_tables (hdev : net.devices[i]? = some dev) : net.tables.node i = .ok dev.node := by
  refine TableName.read_of_getElem? _ ?_
  rw [tables, List.getElem?_map, hdev]
  rfl

theorem pin_tables {pin : Pin} (hpin : net.outputs[o]? = some pin) : net.tables.pin o = .ok pin :=
  TableName.read_of_getElem? _ hpin

theorem names_tables (hdev : net.devices[i]? = some dev) :
    TableName.names.read net.tables.names i = .ok (dev.name, i) := by
  refine TableName.read_of_getElem? _ ?_
  rw [tables, List.getElem?_map, List.getElem?_zipIdx, hdev, Nat.zero_add]
  rfl

theorem deviceName_tables (hdev : net.devices[i]? = some dev) :
    net.tables.deviceName i = .ok dev.name := by
  rw [Tables.deviceName, names_tables hdev]
  rfl

theorem component_tables (hdev : net.devices[i]? = some dev) :
    net.tables.component i = .ok dev.component := by
  rw [Tables.component, node_tables hdev]
  rfl

theorem devices_tables (net : Network) :
    net.tables.devices = .ok (net.devices.map fun dev => (dev.name, dev.component)) := by
  have hall : ∀ p ∈ net.devices.zipIdx, (do
      let component ← net.tables.component p.2
      pure (p.1.name, component) : Except IndexFault (String × Component)) =
      .ok (p.1.name, p.1.component) := by
    intro ⟨dev, i⟩ hmem
    rw [component_tables (List.mk_mem_zipIdx_iff_getElem?.mp hmem)]
    rfl
  have hmap := map_fst_zipIdx (fun dev : Device => (dev.name, dev.component)) net.devices
  rw [Tables.devices, ← hmap, ← mapM_eq_ok hall, tables, List.mapM_map]
  rfl

theorem output_tables (net : Network) (ref : OutputRef) :
    net.tables.output ref = .ok (net.output ref) := by
  rw [Tables.output, output, index?_tables, device?_eq_bind]
  cases hi : net.index? ref.device with
  | none => rfl
  | some i =>
    have hlt : i < net.devices.length := (List.findIdx?_eq_some_iff_getElem.mp hi).1
    have hdev : net.devices[i]? = some net.devices[i] := List.getElem?_eq_getElem hlt
    rw [Option.bind_some, hdev]
    dsimp only
    rw [node_tables hdev]
    dsimp only [bind, Except.bind, Device.node]
    cases net.devices[i].component.outputOffset ref.pin <;> rfl

theorem outputDevice_tables {pin : Pin} (hpin : net.outputs[o]? = some pin) :
    net.tables.outputDevice o = .ok pin.device := by
  rw [Tables.outputDevice, pin_tables hpin]
  rfl

theorem outputLabel_tables (ho : o < net.outputCount) :
    net.tables.outputLabel o = .ok (net.outputLabel o) := by
  have hpin : net.outputs[o]? = some net.outputs[o] := List.getElem?_eq_getElem ho
  obtain ⟨dev, hdev, -⟩ := getElem?_outputs_eq_some_iff.mp hpin
  rw [Tables.outputLabel, pin_tables hpin, outputLabel, hpin]
  dsimp only [bind, Except.bind]
  rw [deviceName_tables hdev, node_tables hdev, hdev]
  rfl

theorem inputLabel_tables (hdev : net.devices[i]? = some dev) (slot : Nat) :
    net.tables.inputLabel i slot = .ok (dev.inputLabel slot) := by
  rw [Tables.inputLabel, deviceName_tables hdev, node_tables hdev]
  rfl

theorem driver?_tables (hdev : net.devices[i]? = some dev) (slot : Nat) :
    net.tables.driver? i slot = .ok (dev.driver? slot) := by
  rw [Tables.driver?, node_tables hdev]
  rfl

theorem dependents_tables (hdev : net.devices[i]? = some dev) :
    net.tables.dependents i = .ok dev.dependents := by
  rw [Tables.dependents, node_tables hdev]
  rfl

theorem vertex_tables (hdev : net.devices[i]? = some dev) : net.tables.vertex i = .ok i := by
  rw [Tables.vertex, names_tables hdev]
  rfl

theorem WellFormed.edge_tables (h : net.WellFormed) (hdev : net.devices[i]? = some dev)
    (ho : o < net.outputCount) (slot : Nat) :
    ∃ source, net.outputDevice? o = some source ∧
      net.tables.edge i dev.node o slot =
        .ok (edgeLine source i (dev.component.inputLabel slot)) := by
  obtain ⟨j, k, owner, howner, hk, rfl⟩ := h.exists_of_lt ho
  have hpin := h.getElem?_outputs howner hk
  refine ⟨j, by rw [outputDevice?, hpin]; rfl, ?_⟩
  rw [Tables.edge, pin_tables hpin]
  dsimp only [bind, Except.bind]
  rw [vertex_tables howner, vertex_tables hdev]
  rfl

/-- The edges into a device are drawn one for each of its drivers. -/
theorem WellFormed.edges_tables (h : net.WellFormed) (hdev : net.devices[i]? = some dev) :
    dev.node.drivers.zipIdx.mapM (fun (o, slot) => net.tables.edge i dev.node o slot) =
      .ok (net.edgeLines i dev) := by
  let line : Nat × Nat → String := fun (o, slot) =>
    edgeLine ((net.outputDevice? o).getD 0) i (dev.component.inputLabel slot)
  have hlt : ∀ p ∈ dev.drivers.zipIdx, p.1 < net.outputCount := fun p hp =>
    h.driver_lt dev (List.mem_of_getElem? hdev) p.1 (List.fst_mem_of_mem_zipIdx hp)
  have hlines : net.edgeLines i dev = dev.drivers.zipIdx.map line := by
    rw [edgeLines, ← List.filterMap_eq_map]
    refine List.filterMap_congr fun p hp => ?_
    obtain ⟨source, hsource, -⟩ := h.edge_tables hdev (hlt p hp) p.2
    show (net.outputDevice? p.1).map _ = some (line p)
    simp only [line, hsource, Option.map_some, Option.getD_some]
  rw [hlines]
  refine mapM_eq_ok fun p hp => ?_
  obtain ⟨source, hsource, hedge⟩ := h.edge_tables hdev (hlt p hp) p.2
  simp only [line, hsource, Option.getD_some]
  exact hedge

theorem nodeLines_tables (net : Network) :
    net.tables.nodeLines = .ok (net.devices.zipIdx.map fun (dev, i) => nodeLine i dev) := by
  have hnames : net.tables.names.zipIdx =
      net.devices.zipIdx.map fun (dev, i) => ((dev.name, i), i) := by
    refine List.ext_getElem? fun i => ?_
    simp only [tables, List.getElem?_zipIdx, List.getElem?_map, Option.map_map]
    cases net.devices[i]? with
    | none => rfl
    | some dev => simp
  rw [Tables.nodeLines, hnames, List.mapM_map]
  refine mapM_eq_ok fun (dev, i) hp => ?_
  have hnode := node_tables (List.mk_mem_zipIdx_iff_getElem?.mp hp)
  dsimp only [Function.comp_apply]
  rw [hnode]
  rfl

theorem WellFormed.edgeLines_tables (h : net.WellFormed) :
    net.tables.edgeLines = .ok (net.devices.zipIdx.map fun (dev, i) => net.edgeLines i dev) := by
  have hnodes : net.tables.nodes.zipIdx = net.devices.zipIdx.map (Prod.map Device.node id) :=
    List.zipIdx_map
  rw [Tables.edgeLines, hnodes, List.mapM_map]
  exact mapM_eq_ok fun (dev, i) hp => h.edges_tables (List.mk_mem_zipIdx_iff_getElem?.mp hp)

/-- **The drawing** leaves out no node and no edge. -/
theorem WellFormed.dot_tables (h : net.WellFormed) : net.tables.dot = .ok net.dot := by
  have hflat : net.devices.zipIdx.flatMap (fun (dev, i) => net.edgeLines i dev) =
      (net.devices.zipIdx.map fun (dev, i) => net.edgeLines i dev).flatten := List.flatMap_def
  rw [Tables.dot, nodeLines_tables, h.edgeLines_tables, ok_bind, ok_bind, ← hflat]
  rfl

end Network

end SyncCircuit

import SyncCircuit.Network.Dot
import SyncCircuit.Proofs.Catalog.Text
import SyncCircuit.Proofs.Network.Labels

/-!
# What the DOT text says

The DOT text shows a graph with labels (`Drawing`): a node for every device and an edge for every
input pin. The graph can be read off the text, whatever the spelling of its lines, and the circuit
off the graph but for which output of a flip-flop drives a pin.

## Main definitions

* `Drawing.Format.Lawful` — lines that show what they stand for.
-/
namespace SyncCircuit

/-! ## Lists entry by entry -/

section Lists

variable {α β γ : Type}

/-- Where one function tells entries apart, another one does so that sees less. -/
theorem map_eq_of_map_eq {f : α → β} {g : α → γ} {as as' : List α}
    (h : ∀ a ∈ as, ∀ a' ∈ as', f a = f a' → g a = g a') (heq : as.map f = as'.map f) :
    as.map g = as'.map g := by
  induction as generalizing as' with
  | nil =>
    cases as' with
    | nil => rfl
    | cons a' as' => cases heq
  | cons a as ih =>
    cases as' with
    | nil => cases heq
    | cons a' as' =>
      obtain ⟨hhead, htail⟩ := List.cons.inj heq
      have hrest := ih (fun x hx x' hx' =>
        h x (List.mem_cons_of_mem _ hx) x' (List.mem_cons_of_mem _ hx')) htail
      rw [List.map_cons, List.map_cons, hrest, h a List.mem_cons_self a' List.mem_cons_self hhead]

/-- Lists are equal if each entry is determined by a common partner. -/
theorem forall₂_agree {R R' : α → β → Prop} {as as' : List α} {bs : List β}
    (h : List.Forall₂ R as bs) (h' : List.Forall₂ R' as' bs)
    (huniq : ∀ a ∈ as, ∀ a' ∈ as', ∀ b, R a b → R' a' b → a = a') :
    as = as' ∧ ∀ a ∈ as, ∃ b, R a b ∧ R' a b := by
  induction h generalizing as' with
  | nil =>
    cases h'
    exact ⟨rfl, nofun⟩
  | @cons a b as bs hab _ ih =>
    cases h' with
    | @cons a' _ as' _ hab' hrest' =>
      obtain rfl := huniq a List.mem_cons_self a' List.mem_cons_self b hab hab'
      obtain ⟨rfl, hagree⟩ := ih hrest' fun x hx x' hx' =>
        huniq x (List.mem_cons_of_mem _ hx) x' (List.mem_cons_of_mem _ hx')
      exact ⟨rfl, List.forall_mem_cons.mpr ⟨⟨b, hab, hab'⟩, hagree⟩⟩

end Lists

/-! ## Drawings -/

namespace Drawing

/-- The lines show what they stand for: numbers and labels of nodes and edges can be read off them,
and they are on one line if the label is. -/
structure Format.Lawful (f : Format) : Prop where
  node_inj : ∀ {i j label label'}, f.node i label = f.node j label' → i = j ∧ label = label'
  edge_inj : ∀ {e e'}, f.edge e = f.edge e' → e = e'
  node_ne_edge : ∀ i label e, f.node i label ≠ f.edge e
  node_ne_closing : ∀ i label, f.node i label ≠ f.closing
  opening_line : '\n' ∉ f.opening.toList
  node_line : ∀ i label, '\n' ∉ label.toList → '\n' ∉ (f.node i label).toList
  edge_line : ∀ e : Edge, '\n' ∉ e.label.toList → '\n' ∉ (f.edge e).toList
  closing_line : '\n' ∉ f.closing.toList

/-- Two sorts of entries that cannot be mistaken for each other, one after the other, are told
apart. -/
theorem map_append_map_inj {α β γ : Type} {f : α → γ} {g : β → γ} {end' : γ}
    (hf : Function.Injective f) (hg : Function.Injective g) (hfg : ∀ a b, f a ≠ g b)
    (hend : ∀ a, f a ≠ end') {as as' : List α} {bs bs' : List β}
    (h : as.map f ++ (bs.map g ++ [end']) = as'.map f ++ (bs'.map g ++ [end'])) :
    as = as' ∧ bs = bs' := by
  have hother : ∀ a (bs : List β) cs, f a :: cs ≠ bs.map g ++ [end'] := by
    intro a bs cs heq
    cases bs with
    | nil => exact hend a (List.cons.inj heq).1
    | cons b bs => exact hfg a b (List.cons.inj heq).1
  induction as generalizing as' with
  | nil =>
    cases as' with
    | nil => exact ⟨rfl, List.map_injective_iff.mpr hg (List.append_cancel_right h)⟩
    | cons a as' => exact absurd h.symm (hother a bs _)
  | cons a as ih =>
    cases as' with
    | nil => exact absurd h (hother a bs' _)
    | cons a' as' =>
      obtain ⟨hhead, htail⟩ := List.cons.inj h
      obtain ⟨rfl, rfl⟩ := ih htail
      exact ⟨congrArg (· :: as) (hf hhead), rfl⟩

variable {f : Format} {d d' : Drawing}

theorem textLines_inj (hf : f.Lawful) (h : d.textLines f = d'.textLines f) : d = d' := by
  have hnode : Function.Injective fun p : String × Nat => f.node p.2 p.1 := fun p q heq => by
    obtain ⟨hindex, hlabel⟩ := hf.node_inj heq
    exact Prod.ext hlabel hindex
  obtain ⟨hnodes, hedges⟩ := map_append_map_inj hnode (fun _ _ => hf.edge_inj)
    (fun p e => hf.node_ne_edge p.2 p.1 e) (fun p => hf.node_ne_closing p.2 p.1)
    (List.cons.inj h).2
  have hlabels : d.nodes = d'.nodes := by
    have := congrArg (List.map Prod.fst) hnodes
    simpa only [List.zipIdx_map_fst] using this
  cases d
  cases d'
  simp_all

/-- A drawing whose labels are on one line. -/
structure Plain (d : Drawing) : Prop where
  nodes : ∀ label ∈ d.nodes, '\n' ∉ label.toList
  edges : ∀ e ∈ d.edges, '\n' ∉ e.label.toList

theorem lines_text (hf : f.Lawful) (hd : d.Plain) : lines (d.text f) = d.textLines f := by
  refine lines_unlines ?_
  rw [textLines, List.forall_mem_cons, List.forall_mem_append, List.forall_mem_append,
    List.forall_mem_singleton]
  refine ⟨hf.opening_line, fun l hl => ?_, fun l hl => ?_, hf.closing_line⟩
  · obtain ⟨⟨label, i⟩, hmem, rfl⟩ := List.mem_map.mp hl
    exact hf.node_line i label (hd.nodes label (List.fst_mem_of_mem_zipIdx hmem))
  · obtain ⟨e, hmem, rfl⟩ := List.mem_map.mp hl
    exact hf.edge_line e (hd.edges e hmem)

/-- **A drawing is read off its text.** -/
theorem text_inj (hf : f.Lawful) (hd : d.Plain) (hd' : d'.Plain) (h : d.text f = d'.text f) :
    d = d' := by
  refine textLines_inj hf ?_
  rw [← lines_text hf hd, ← lines_text hf hd', h]

/-! ### The DOT format -/

theorem toList_node (i : Nat) (label : String) : (dotFormat.node i label).toList =
    "    ".toList ++ ((toString i).toList ++ ' ' :: ("[ label = \"".toList ++
      (label.toList ++ "\" ]".toList))) := by
  have hlabel : " [ label = \"".toList = ' ' :: "[ label = \"".toList := by decide
  simp only [dotFormat, String.toList_append, List.append_assoc, hlabel, List.cons_append]

theorem toList_edge (e : Edge) : (dotFormat.edge e).toList =
    "    ".toList ++ ((toString e.source).toList ++ ' ' :: ("-> ".toList ++
      ((toString e.target).toList ++ ' ' :: ("[ label = \"".toList ++
        (e.label.toList ++ "\" ]".toList))))) := by
  have hlabel : " [ label = \"".toList = ' ' :: "[ label = \"".toList := by decide
  have harrow : " -> ".toList = ' ' :: "-> ".toList := by decide
  simp only [dotFormat, String.toList_append, List.append_assoc, hlabel, harrow, List.cons_append]

/-- A number ends with the first blank. -/
theorem number_blank_inj {n m : Nat} {xs ys : List Char}
    (h : (toString n).toList ++ ' ' :: xs = (toString m).toList ++ ' ' :: ys) :
    n = m ∧ xs = ys := by
  have hblank : ∀ n : Nat, ' ' ∉ (toString n).toList := not_mem_toString (by decide)
  obtain ⟨hdigits, hrest⟩ := append_separator_inj (hblank n) (hblank m) h
  exact ⟨Nat.repr_inj.mp (String.toList_inj.mp hdigits), hrest⟩

/-- A label is read off its line, whatever quotation marks it holds: what stands around it is fixed.
-/
theorem label_attribute_inj {label label' : String}
    (h : "[ label = \"".toList ++ (label.toList ++ "\" ]".toList) =
      "[ label = \"".toList ++ (label'.toList ++ "\" ]".toList)) : label = label' :=
  String.toList_inj.mp (List.append_cancel_right (List.append_cancel_left h))

theorem lawful_dotFormat : dotFormat.Lawful := by
  have hline : ∀ n : Nat, '\n' ∉ (toString n).toList := not_mem_toString (by decide)
  constructor
  case node_inj =>
    intro i j label label' h
    rw [← String.toList_inj, toList_node, toList_node, List.append_cancel_left_eq] at h
    obtain ⟨rfl, hrest⟩ := number_blank_inj h
    exact ⟨rfl, label_attribute_inj hrest⟩
  case edge_inj =>
    rintro ⟨source, target, label⟩ ⟨source', target', label'⟩ h
    rw [← String.toList_inj, toList_edge, toList_edge, List.append_cancel_left_eq] at h
    obtain ⟨rfl, hrest⟩ := number_blank_inj h
    rw [List.append_cancel_left_eq] at hrest
    obtain ⟨rfl, hrest⟩ := number_blank_inj hrest
    obtain rfl : label = label' := label_attribute_inj hrest
    rfl
  case node_ne_edge =>
    intro i label e h
    rw [← String.toList_inj, toList_node, toList_edge, List.append_cancel_left_eq] at h
    obtain ⟨-, hrest⟩ := number_blank_inj h
    -- Behind the number, a node goes on with its label and an edge with an arrow.
    simp at hrest
  case node_ne_closing =>
    intro i label h
    rw [← String.toList_inj, toList_node] at h
    simp [dotFormat] at h
  case opening_line => decide
  case node_line =>
    intro i label h
    simp only [toList_node, List.mem_append, List.mem_cons, not_or]
    exact ⟨by decide, hline i, by decide, by decide, h, by decide⟩
  case edge_line =>
    intro e h
    simp only [toList_edge, List.mem_append, List.mem_cons, not_or]
    exact ⟨by decide, hline e.source, by decide, by decide, hline e.target, by decide, by decide, h,
      by decide⟩
  case closing_line => decide

end Drawing

/-! ## The drawing of a network -/

namespace Network

variable {net net' : Network}

theorem edge?_eq_some_iff {pin : Pin} {e : Edge} :
    net.edge? pin = some e ↔ ∃ dev, net.devices[pin.device]? = some dev ∧
      net.drivingDevice? pin = some e.source ∧ pin.device = e.target ∧
        dev.component.inputLabel pin.position = e.label := by
  simp only [edge?, Option.bind_eq_bind, Option.bind_eq_some_iff, Option.some.injEq]
  constructor
  · rintro ⟨dev, hdev, source, hsource, rfl⟩
    exact ⟨dev, hdev, hsource, rfl, rfl⟩
  · rintro ⟨dev, hdev, hsource, htarget, hlabel⟩
    exact ⟨dev, hdev, _, hsource, by rw [htarget, hlabel]⟩

theorem nodeLine_eq (i : Nat) (dev : Device) : nodeLine i dev =
    Drawing.dotFormat.node i (dev.name ++ ":" ++ dev.component.text) ++ "\n" := by
  rw [← String.toList_inj]
  simp [nodeLine, Drawing.dotFormat, toString]

theorem edgeLine_eq (e : Edge) :
    edgeLine e.source e.target e.label = Drawing.dotFormat.edge e ++ "\n" := by
  rw [← String.toList_inj]
  simp [edgeLine, Drawing.dotFormat, toString]

/-- The edges into a device are those into its inputs, by slot. -/
theorem edgeLines_eq {i : Nat} {dev : Device} (hdev : net.devices[i]? = some dev) :
    net.edgeLines i dev = (((List.range dev.drivers.length).map (⟨i, ·⟩)).filterMap net.edge?).map
      (Drawing.dotFormat.edge · ++ "\n") := by
  rw [edgeLines, List.range_eq_range', ← List.zipIdx_map_snd, List.map_map, List.filterMap_map,
    List.map_filterMap]
  refine List.filterMap_congr fun (o, slot) hmem => ?_
  have hdriver : dev.driver? slot = some o := List.mk_mem_zipIdx_iff_getElem?.mp hmem
  have hdriving : net.drivingDevice? ⟨i, slot⟩ = net.outputDevice? o := by
    rw [drivingDevice?, hdev, Option.bind_eq_bind, Option.bind_some, hdriver]
    rfl
  dsimp only [Function.comp_apply]
  rw [edge?, hdev, hdriving]
  cases net.outputDevice? o with
  | none => rfl
  | some source => exact congrArg some (edgeLine_eq ⟨source, i, dev.component.inputLabel slot⟩)

/-- The text of a network is that of its drawing. -/
theorem dot_eq (net : Network) : net.dot = net.drawing.text Drawing.dotFormat := by
  have hnodes : String.join (net.devices.zipIdx.map fun p => nodeLine p.2 p.1) =
      unlines (net.drawing.nodes.zipIdx.map fun p => Drawing.dotFormat.node p.2 p.1) := by
    rw [unlines, drawing, List.zipIdx_map, List.map_map, List.map_map]
    exact congrArg _ (List.map_congr_left fun p _ => nodeLine_eq p.2 p.1)
  have hedges : String.join (net.devices.zipIdx.flatMap fun p => net.edgeLines p.2 p.1) =
      unlines (net.drawing.edges.map Drawing.dotFormat.edge) := by
    rw [unlines, drawing, inputs, pins, List.filterMap_flatMap, List.map_flatMap, List.map_flatMap]
    refine congrArg _ (List.flatMap_congr fun p hmem => ?_)
    rw [List.map_map]
    exact edgeLines_eq (List.mk_mem_zipIdx_iff_getElem?.mp hmem)
  calc net.dot
    _ = "digraph \x7b\n" ++ String.join (net.devices.zipIdx.map fun p => nodeLine p.2 p.1) ++
        String.join (net.devices.zipIdx.flatMap fun p => net.edgeLines p.2 p.1) ++ "\x7d\n" := rfl
    _ = net.drawing.text Drawing.dotFormat := by
      rw [hnodes, hedges, Drawing.text, Drawing.textLines, unlines_cons, unlines_append,
        unlines_append, unlines_cons, unlines_nil]
      simp only [String.append_assoc]
      rfl

/-- Every input is driven by a device. -/
theorem WellFormed.exists_edge? (h : net.WellFormed) {pin : Pin} (hpin : pin ∈ net.inputs) :
    ∃ e, net.edge? pin = some e := by
  obtain ⟨dev, hdev, hlt⟩ := mem_inputs_iff.mp hpin
  have ho := List.getElem_mem hlt
  obtain ⟨i, k, owner, howner, hk, heq⟩ :=
    h.exists_of_lt (h.driver_lt dev (List.mem_of_getElem? hdev) _ ho)
  have hsource : net.drivingDevice? pin = some i := by
    rw [drivingDevice?, hdev, Option.bind_eq_bind, Option.bind_some, Device.driver?,
      List.getElem?_eq_getElem hlt, heq]
    exact congrArg (Option.map Pin.device) (h.getElem?_outputs howner hk)
  exact ⟨⟨i, pin.device, dev.component.inputLabel pin.position⟩,
    edge?_eq_some_iff.mpr ⟨dev, hdev, hsource, rfl, rfl⟩⟩

/-- The drawing has the edges into the inputs, in order. -/
theorem WellFormed.forall₂_edges (h : net.WellFormed) :
    List.Forall₂ (fun pin e => net.edge? pin = some e) net.inputs net.drawing.edges :=
  forall₂_filterMap fun _ hpin => by
    obtain ⟨e, he⟩ := h.exists_edge? hpin
    exact ⟨e, he, he⟩

theorem plain_drawing (hnames : ∀ dev ∈ net.devices, ValidName dev.name) :
    net.drawing.Plain where
  nodes label hmem := by
    obtain ⟨dev, hdev, rfl⟩ := List.mem_map.mp hmem
    simp only [String.toList_append, List.mem_append, not_or]
    exact ⟨⟨(hnames dev hdev).not_mem (by decide), by decide⟩, dev.component.newline_not_mem_text⟩
  edges e hmem := by
    obtain ⟨pin, -, he⟩ := List.mem_filterMap.mp hmem
    obtain ⟨dev, -, -, -, hlabel⟩ := edge?_eq_some_iff.mp he
    exact hlabel ▸ dev.component.newline_not_mem_inputLabel _

/-! ## The circuit of a drawing -/

section SameCircuit

variable (hcomponents : net.devices.map (·.component) = net'.devices.map (·.component))
include hcomponents

theorem exists_same_component {i : Nat} {dev : Device} (hdev : net.devices[i]? = some dev) :
    ∃ dev', net'.devices[i]? = some dev' ∧ dev'.component = dev.component := by
  have hsame := congrArg (·[i]?) hcomponents
  rw [List.getElem?_map, List.getElem?_map, hdev] at hsame
  exact Option.map_eq_some_iff.mp hsame.symm

/-- Two inputs with the same edge are the same, in networks with the same components. -/
theorem WellFormed.pin_eq_of_edge? (h : net.WellFormed) (h' : net'.WellFormed) {pin pin' : Pin}
    (hpin : pin ∈ net.inputs) (hpin' : pin' ∈ net'.inputs) {e : Edge}
    (he : net.edge? pin = some e) (he' : net'.edge? pin' = some e) : pin = pin' := by
  obtain ⟨dev, hdev, hlt⟩ := mem_inputs_iff.mp hpin
  obtain ⟨dev', hdev', hlt'⟩ := mem_inputs_iff.mp hpin'
  obtain ⟨_, hsame, -, htarget, hlabel⟩ := edge?_eq_some_iff.mp he
  obtain rfl := Option.some.inj (hdev.symm.trans hsame)
  obtain ⟨_, hsame', -, htarget', hlabel'⟩ := edge?_eq_some_iff.mp he'
  obtain rfl := Option.some.inj (hdev'.symm.trans hsame')
  have hdevice : pin.device = pin'.device := htarget.trans htarget'.symm
  have hcomponent : dev'.component = dev.component := by
    obtain ⟨_, hfound, hcomponent⟩ := exists_same_component hcomponents hdev
    rw [hdevice] at hfound
    obtain rfl := Option.some.inj (hdev'.symm.trans hfound)
    exact hcomponent
  have hinput := Component.hasInput_inputLabel (h.allowsInputs _ (List.mem_of_getElem? hdev)) hlt
  have hinput' := Component.hasInput_inputLabel (h'.allowsInputs _ (List.mem_of_getElem? hdev'))
    hlt'
  rw [hlabel] at hinput
  rw [hlabel', hcomponent] at hinput'
  cases pin
  cases pin'
  exact congrArg₂ Pin.mk hdevice (hinput.unique hinput')

/-- The edge into an input depends on the components and on the device that drives it. -/
theorem WellFormed.edge?_eq (h : net.WellFormed) {pin : Pin} (hpin : pin ∈ net.inputs)
    (hdriving : net.drivingDevice? pin = net'.drivingDevice? pin) :
    net.edge? pin = net'.edge? pin := by
  obtain ⟨e, he⟩ := h.exists_edge? hpin
  obtain ⟨dev, hdev, hsource, htarget, hlabel⟩ := edge?_eq_some_iff.mp he
  obtain ⟨dev', hdev', hcomponent⟩ := exists_same_component hcomponents hdev
  rw [hdriving] at hsource
  rw [← hcomponent] at hlabel
  rw [he, edge?_eq_some_iff.mpr ⟨dev', hdev', hsource, htarget, hlabel⟩]

end SameCircuit

/-- A node says what the name and the component of its device are: names have no colon. -/
theorem nodeLabel_inj {dev dev' : Device} (hname : ValidName dev.name)
    (hname' : ValidName dev'.name)
    (heq : dev.name ++ ":" ++ dev.component.text = dev'.name ++ ":" ++ dev'.component.text) :
    dev.name = dev'.name ∧ dev.component = dev'.component := by
  have hchars : dev.name.toList ++ ':' :: dev.component.text.toList =
      dev'.name.toList ++ ':' :: dev'.component.text.toList := by
    simpa using congrArg String.toList heq
  obtain ⟨hnames, htexts⟩ :=
    append_separator_inj (hname.not_mem (by decide)) (hname'.not_mem (by decide)) hchars
  exact ⟨String.toList_inj.mp hnames, Component.text_inj (String.toList_inj.mp htexts)⟩

theorem nodes_drawing (net : Network) : net.drawing.nodes =
    List.zipWith (fun name c => name ++ ":" ++ c.text) (net.devices.map (·.name))
      (net.devices.map (·.component)) := by
  rw [List.zipWith_map, List.zipWith_self]
  rfl

/-- **The circuit is read off the drawing**, but for which output of a device drives an input. -/
theorem WellFormed.drawing_eq_iff (h : net.WellFormed) (h' : net'.WellFormed)
    (hnames : ∀ dev ∈ net.devices, ValidName dev.name)
    (hnames' : ∀ dev ∈ net'.devices, ValidName dev.name) :
    net.drawing = net'.drawing ↔
      net.devices.map (·.name) = net'.devices.map (·.name) ∧
      net.devices.map (·.component) = net'.devices.map (·.component) ∧
      net.inputs = net'.inputs ∧
      ∀ pin ∈ net.inputs, net.drivingDevice? pin = net'.drivingDevice? pin := by
  constructor
  · intro hdrawing
    have hnodes : net.drawing.nodes = net'.drawing.nodes := by rw [hdrawing]
    have hlabel : ∀ dev ∈ net.devices, ∀ dev' ∈ net'.devices,
        dev.name ++ ":" ++ dev.component.text = dev'.name ++ ":" ++ dev'.component.text →
          dev.name = dev'.name ∧ dev.component = dev'.component :=
      fun dev hdev dev' hdev' => nodeLabel_inj (hnames dev hdev) (hnames' dev' hdev')
    have hname := map_eq_of_map_eq (fun dev hdev dev' hdev' heq =>
      (hlabel dev hdev dev' hdev' heq).1) hnodes
    have hcomponents := map_eq_of_map_eq (fun dev hdev dev' hdev' heq =>
      (hlabel dev hdev dev' hdev' heq).2) hnodes
    obtain ⟨hinputs, hagree⟩ := forall₂_agree h.forall₂_edges (hdrawing ▸ h'.forall₂_edges)
      fun pin hpin pin' hpin' e he he' => h.pin_eq_of_edge? hcomponents h' hpin hpin' he he'
    refine ⟨hname, hcomponents, hinputs, fun pin hpin => ?_⟩
    obtain ⟨e, he, he'⟩ := hagree pin hpin
    obtain ⟨-, -, hsource, -⟩ := edge?_eq_some_iff.mp he
    obtain ⟨-, -, hsource', -⟩ := edge?_eq_some_iff.mp he'
    rw [hsource, hsource']
  · rintro ⟨hname, hcomponents, hinputs, hdriving⟩
    have hnodes : net.drawing.nodes = net'.drawing.nodes := by
      rw [nodes_drawing, nodes_drawing, hname, hcomponents]
    have hedges : net.drawing.edges = net'.drawing.edges := by
      rw [drawing, drawing, ← hinputs]
      exact List.filterMap_congr fun pin hpin => h.edge?_eq hcomponents hpin (hdriving pin hpin)
    exact congrArg₂ Drawing.mk hnodes hedges

/-- **The DOT text says what the circuit is**, but for which output of a flip-flop drives an input.
However the lines of nodes and edges are spelled, as long as they can be told apart, there is a line
for every device, with its name and type, and then one for every input pin, by device and slot: from
the device that drives it to the device it belongs to, with its label. Two networks have the same
text exactly if their devices have the same names, types and inputs, and every input is driven by
the same device. -/
theorem build_dot_determines (d d' : Description) (options options' : BuildOptions)
    (net net' : Network) (hb : d.build options = .ok net) (hb' : d'.build options' = .ok net') :
    (net.dot = net.drawing.text Drawing.dotFormat ∧ Drawing.dotFormat.Lawful) ∧
    (net.inputs.Pairwise (fun pin pin' => pin.device < pin'.device ∨
        pin.device = pin'.device ∧ pin.position < pin'.position) ∧
      ∀ pin, pin ∈ net.inputs ↔
        ∃ dev, net.devices[pin.device]? = some dev ∧ pin.position < dev.drivers.length) ∧
    ∀ f : Drawing.Format, f.Lawful →
      (∃ edges : List Edge,
        lines (net.drawing.text f) = f.opening ::
          ((net.devices.zipIdx.map fun (dev, i) =>
            f.node i (dev.name ++ ":" ++ dev.component.text)) ++
              (edges.map f.edge ++ [f.closing])) ∧
        List.Forall₂ (fun pin e => ∃ dev, net.devices[pin.device]? = some dev ∧
          net.drivingDevice? pin = some e.source ∧ pin.device = e.target ∧
            dev.component.inputLabel pin.position = e.label) net.inputs edges ∧
        edges.length = net.connectionCount) ∧
      (net.drawing.text f = net'.drawing.text f ↔
        net.devices.map (·.name) = net'.devices.map (·.name) ∧
        net.devices.map (·.component) = net'.devices.map (·.component) ∧
        net.inputs = net'.inputs ∧
        ∀ pin ∈ net.inputs, net.drivingDevice? pin = net'.drivingDevice? pin) := by
  have h := Description.build_wellFormed hb
  have hnames := Description.build_validName hb
  have hnames' := Description.build_validName hb'
  refine ⟨⟨net.dot_eq, Drawing.lawful_dotFormat⟩, ⟨net.pairwise_inputs, fun pin => mem_inputs_iff⟩,
    fun f hf => ⟨⟨net.drawing.edges, ?_, ?_, ?_⟩, ?_⟩⟩
  · rw [Drawing.lines_text hf (plain_drawing hnames), Drawing.textLines, drawing, List.zipIdx_map,
      List.map_map]
    rfl
  · exact h.forall₂_edges.imp fun pin e he => edge?_eq_some_iff.mp he
  · rw [← h.forall₂_edges.length_eq, length_inputs]
  · rw [← h.drawing_eq_iff (Description.build_wellFormed hb') hnames hnames']
    exact ⟨Drawing.text_inj hf (plain_drawing hnames) (plain_drawing hnames'), fun heq => heq ▸ rfl⟩

/-- A flip-flop and an inverter behind one of its outputs. -/
def invertedOutput (pin : String) : Description where
  devices := [⟨"C", .clock, some 2⟩, ⟨"S", .switch, some 1⟩, ⟨"F", .dtype, none⟩,
    ⟨"N", .gate .not, none⟩]
  connections := [⟨⟨"S", none⟩, ⟨"F", "DATA"⟩⟩, ⟨⟨"C", none⟩, ⟨"F", "CLK"⟩⟩,
    ⟨⟨"S", none⟩, ⟨"F", "SET"⟩⟩, ⟨⟨"S", none⟩, ⟨"F", "CLEAR"⟩⟩, ⟨⟨"F", some pin⟩, ⟨"N", "I1"⟩⟩]

/-- The drawing does not tell which output drives the inverter. -/
theorem invertedOutput_dot_determines :
    let net := (invertedOutput "Q").network
    let net' := (invertedOutput "QBAR").network
    (invertedOutput "Q").build {} = .ok net ∧ (invertedOutput "QBAR").build {} = .ok net' ∧
    net ≠ net' ∧ net.dot = net'.dot ∧
    net.drawing = ⟨["C:CLOCK 2", "S:SWITCH 1", "F:DTYPE", "N:NOT"],
      [⟨1, 2, "DATA"⟩, ⟨0, 2, "CLK"⟩, ⟨1, 2, "SET"⟩, ⟨1, 2, "CLEAR"⟩, ⟨2, 3, "I1"⟩]⟩ := by
  have hb : (invertedOutput "Q").build {} = .ok (invertedOutput "Q").network := rfl
  have hb' : (invertedOutput "QBAR").build {} = .ok (invertedOutput "QBAR").network := rfl
  obtain ⟨⟨hdot, hlawful⟩, -, hformat⟩ := build_dot_determines _ _ _ _ _ _ hb hb'
  have hsame := (hformat _ hlawful).2.mpr (by decide +kernel)
  refine ⟨hb, hb', by decide +kernel, ?_, by decide +kernel⟩
  rw [hdot, hsame, ← dot_eq]

end Network

end SyncCircuit

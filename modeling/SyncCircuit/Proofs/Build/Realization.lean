import Mathlib.Data.List.Forall2
import SyncCircuit.Proofs.Build.Assembly
import SyncCircuit.Proofs.Network.LoopFree

/-!
# The described network

`Network.Realizes` says that a network is the one a description describes, statement by statement:
what each device is, which numbers its outputs have, what drives its inputs, and what can be looked
up. A network that was built realizes its description.
-/
namespace SyncCircuit

/-! ## Lists side by side -/

section Forall₂

variable {α β : Type} {R : α → β → Prop}

theorem forall₂_filterMap {f : α → Option β} {as : List α}
    (h : ∀ a ∈ as, ∃ b, f a = some b ∧ R a b) : List.Forall₂ R as (as.filterMap f) := by
  induction as with
  | nil => exact .nil
  | cons a as ih =>
    obtain ⟨b, hb, hab⟩ := h a List.mem_cons_self
    rw [List.filterMap_cons_some hb]
    exact .cons hab (ih fun x hx => h x (List.mem_cons_of_mem a hx))

/-- Partners of elements that exclude having a common partner are distinct. -/
theorem nodup_of_forall₂ {S : α → α → Prop} {as : List α} {bs : List β}
    (h : List.Forall₂ R as bs) (hpair : as.Pairwise S)
    (hexcl : ∀ a a' b, R a b → R a' b → ¬ S a a') : bs.Nodup := by
  induction h with
  | nil => exact .nil
  | @cons a b as bs hab hrest ih =>
    rw [List.pairwise_cons] at hpair
    rw [List.nodup_cons]
    refine ⟨fun hb => ?_, ih hpair.2⟩
    obtain ⟨⟨k, hk⟩, rfl⟩ := List.mem_iff_get.mp hb
    have hk' : k < as.length := by rwa [hrest.length_eq]
    exact hexcl a _ _ hab (hrest.get hk' hk) (hpair.1 _ (List.get_mem as ⟨k, hk'⟩))

end Forall₂

/-! ## The correspondence -/

/-- The network is exactly the described one. -/
structure Network.Realizes (net : Network) (d : Description) : Prop where
  size : net.size = d.devices.length
  /-- A device is what the declaration with its index says. -/
  device : ∀ (i : Nat) (dev : Device), net.devices[i]? = some dev → ∃ c part,
    d.devices[i]? = some c ∧ dev.name = c.name ∧ c.kind.instantiate c.parameter = .ok part ∧
      dev.component = part.component ∧ dev.component.kind = c.kind ∧
      dev.drivers.length = part.inputs
  /-- Names and indices are each other's inverse. -/
  index? : ∀ name i, net.index? name = some i ↔ i < net.size ∧ net.deviceName i = name
  device? : ∀ name, net.device? name = (net.index? name).bind (net.devices[·]?)
  /-- Outputs are numbered in declaration order, those of one device next to each other. -/
  firstOutput : ∀ (i : Nat) (dev : Device), net.devices[i]? = some dev →
    dev.firstOutput = net.outputsBefore i
  outputs : ∀ (o : Nat) (pin : Pin), net.outputs[o]? = some pin ↔ ∃ dev,
    net.devices[pin.device]? = some dev ∧ pin.position < dev.component.outputCount ∧
      o = dev.firstOutput + pin.position
  /-- An input is driven by the output that the one connection to it names. -/
  driver : ∀ (i slot : Nat) (dev : Device), net.devices[i]? = some dev →
    slot < dev.drivers.length → ∃ (k : Nat) (c : Connection) (pin : Pin) (o : Nat),
      d.connections[k]? = some c ∧ d.NamesInput c.target ⟨i, slot⟩ ∧
        (∀ (k' : Nat) (c' : Connection), d.connections[k']? = some c' →
          d.NamesInput c'.target ⟨i, slot⟩ → k' = k) ∧
        d.NamesOutput c.source pin ∧ net.outputs[o]? = some pin ∧ dev.driver? slot = some o
  /-- The dependents of a device are those it drives, in the order of the first connections. -/
  dependents : ∀ (i : Nat) (dev : Device), net.devices[i]? = some dev → dev.dependents.Nodup ∧
    (∀ j, j ∈ dev.dependents ↔ ∃ dev', net.devices[j]? = some dev' ∧
      ∃ o ∈ dev'.drivers, net.outputDevice? o = some i) ∧
    dev.dependents.Pairwise fun j j' =>
      ∃ k, d.Connects k i j ∧ ∀ k', d.Connects k' i j' → k < k'
  connectionCount : net.connectionCount = d.connections.length
  monitors : List.Forall₂ (fun r o => ∃ pin, d.NamesOutput r pin ∧ net.outputs[o]? = some pin)
    d.monitors net.monitors
  /-- The devices of a sort of kinds are listed by index, in declaration order. -/
  indicesOf : ∀ (test : Component → Bool) (sort : Kind → Prop), (∀ c, test c ↔ sort c.kind) →
    (net.indicesOf test).Pairwise (· < ·) ∧
      ∀ i, i ∈ net.indicesOf test ↔ ∃ c, d.devices[i]? = some c ∧ sort c.kind

namespace Description

variable {d : Description}

namespace WellConnected

theorem mem_inputs_network_iff (hc : d.WellConnected) (hd : d.WellDeclared) {pin : Pin} :
    pin ∈ d.network.inputs ↔ d.IsInput pin := by
  rw [Network.mem_inputs_iff]
  constructor
  · intro ⟨dev, hdev, hlt⟩
    obtain ⟨name, part, hdecl, rfl⟩ := hd.getElem?_devices_network_eq_some_iff.mp hdev
    rw [hc.length_drivers hd hdecl] at hlt
    exact ⟨name, part, hdecl, hlt⟩
  · intro ⟨name, part, hdecl, hlt⟩
    refine ⟨_, hd.getElem?_devices_network hdecl, ?_⟩
    rwa [hc.length_drivers hd hdecl]

/-- There are as many connections as inputs, since each connection takes an input of its own. -/
theorem connectionCount_network (hc : d.WellConnected) (hd : d.WellDeclared) :
    d.network.connectionCount = d.connections.length := by
  have hmem : ∀ pin, pin ∈ d.network.inputs ↔
      pin ∈ (d.connections.filterMap d.table.attachment?).map (·.target) := by
    intro pin
    rw [hc.mem_inputs_network_iff hd, List.mem_map]
    constructor
    · intro hpin
      obtain ⟨k, hk, -⟩ := hc.driven pin hpin
      obtain ⟨a, ha, htarget⟩ := (hd.exists_takes_iff hc.sources).mpr hk
      have hka := (hd.getElem?_attachments hc.sources hc.targets).mpr ha
      exact ⟨a, List.mem_of_getElem? hka, htarget⟩
    · intro ⟨a, ha, htarget⟩
      obtain ⟨k, hka⟩ := List.mem_iff_getElem?.mp ha
      have hk := (hd.getElem?_attachments hc.sources hc.targets).mp hka
      obtain ⟨c, -, hinput⟩ := (hd.exists_takes_iff hc.sources).mp ⟨a, hk, htarget⟩
      exact hinput.isInput
  have hperm := (List.perm_ext_iff_of_nodup d.network.nodup_inputs (hc.nodup_targets hd)).mpr hmem
  rw [← Network.length_inputs, hperm.length_eq, List.length_map,
    List.filterMap_length_eq_length.mpr (hd.isSome_attachment? hc.sources hc.targets)]

/-- A device is driven by another exactly if a connection leads from the other to it. -/
theorem exists_driver_iff_connects (hc : d.WellConnected) (hd : d.WellDeclared) {i j : Nat} :
    (∃ dev, d.network.devices[j]? = some dev ∧
      ∃ o ∈ dev.drivers, d.network.outputDevice? o = some i) ↔ ∃ k, d.Connects k i j := by
  constructor
  · rintro ⟨dev, hdev, o, ho, hi⟩
    obtain ⟨name, part, hdecl, rfl⟩ := hd.getElem?_devices_network_eq_some_iff.mp hdev
    obtain ⟨slot, hslot⟩ := List.mem_iff_getElem?.mp ho
    obtain ⟨k, c, source, hk, hinput, hsource, rfl⟩ :=
      (hc.driver?_device_eq_some_iff hd hdecl).mp hslot
    rw [Network.outputDevice?, hd.getElem?_outputs_network hsource] at hi
    exact ⟨k, c, source, _, hk, hsource, hinput, Option.some.inj hi, rfl⟩
  · rintro ⟨k, c, source, target, hk, hsource, hinput, rfl, rfl⟩
    obtain ⟨part, hdecl, -⟩ := id hinput
    have hslot := (hc.driver?_device_eq_some_iff hd hdecl).mpr
      ⟨k, c, source, hk, hinput, hsource, rfl⟩
    refine ⟨_, hd.getElem?_devices_network hdecl, _, List.mem_of_getElem? hslot, ?_⟩
    rw [Network.outputDevice?, hd.getElem?_outputs_network hsource]
    rfl

end WellConnected

/-- Every monitored output is kept, with what its reference names. -/
theorem WellDeclared.forall₂_monitors (h : d.WellDeclared) (hm : d.WellMonitored) :
    List.Forall₂ (fun r o => ∃ pin, d.NamesOutput r pin ∧ d.network.outputs[o]? = some pin)
      d.monitors
      (d.monitors.filterMap fun r => (d.table.resolveOutput r).pin?.map d.table.outputNumber) := by
  refine forall₂_filterMap fun r hr => ?_
  obtain ⟨pin, hpin⟩ := hm.outputs r hr
  refine ⟨d.table.outputNumber pin, ?_, pin, hpin, h.getElem?_outputs_network hpin⟩
  rw [h.resolveOutput_eq_found_iff.mpr hpin]
  rfl

/-- No monitored output is dropped as a duplicate. -/
theorem WellDeclared.monitors_network_eq (h : d.WellDeclared) (hm : d.WellMonitored) :
    d.network.monitors =
      d.monitors.filterMap fun r => (d.table.resolveOutput r).pin?.map d.table.outputNumber := by
  have hnodup := nodup_of_forall₂ (h.forall₂_monitors hm) hm.distinct
    fun r r' o ⟨pin, hr, ho⟩ ⟨pin', hr', ho'⟩ hne => by
      obtain rfl := Option.some.inj (ho.symm.trans ho')
      exact hne pin hr hr'
  rw [network]
  dsimp only
  rw [List.map_filterMap, eraseDups_eq_self hnodup]

/-- The monitors of the network are the named outputs, in order. -/
theorem WellDeclared.monitors_network (h : d.WellDeclared) (hm : d.WellMonitored) :
    List.Forall₂ (fun r o => ∃ pin, d.NamesOutput r pin ∧ d.network.outputs[o]? = some pin)
      d.monitors d.network.monitors := by
  rw [h.monitors_network_eq hm]
  exact h.forall₂_monitors hm

/-- The kind of a device is the declared one. -/
theorem WellDeclared.getElem?_devices_kind (h : d.WellDeclared) {i : Nat} {dev : Device}
    (hdev : d.network.devices[i]? = some dev) :
    ∃ c, d.devices[i]? = some c ∧ dev.component.kind = c.kind := by
  obtain ⟨name, part, ⟨c, hc, -, hpart⟩, rfl⟩ := h.getElem?_devices_network_eq_some_iff.mp hdev
  exact ⟨c, hc, (Kind.instantiate_spec hpart).1⟩

theorem WellDeclared.mem_indicesOf_network_iff (h : d.WellDeclared) {test : Component → Bool}
    {sort : Kind → Prop} (htest : ∀ c, test c ↔ sort c.kind) {i : Nat} :
    i ∈ d.network.indicesOf test ↔ ∃ c, d.devices[i]? = some c ∧ sort c.kind := by
  rw [Network.mem_indicesOf_iff]
  constructor
  · intro ⟨dev, hdev, hpass⟩
    obtain ⟨c, hc, hkind⟩ := h.getElem?_devices_kind hdev
    exact ⟨c, hc, hkind ▸ (htest _).mp hpass⟩
  · intro ⟨c, hc, hsort⟩
    obtain ⟨part, hpart⟩ := h.parameters c (List.mem_of_getElem? hc)
    refine ⟨_, h.getElem?_devices_network ⟨c, hc, rfl, hpart⟩, (htest _).mpr ?_⟩
    have hkind : part.component.kind = c.kind := (Kind.instantiate_spec hpart).1
    exact hkind ▸ hsort

/-- The network of a valid description is the described one. -/
theorem Valid.realizes {options : BuildOptions} (h : d.Valid options) :
    d.network.Realizes d := by
  have hd := h.toWellDeclared
  have hc := h.toWellConnected
  have hw := hc.wellFormed_network hd
  constructor
  case size => exact hd.size_network
  case device =>
    intro i dev hdev
    obtain ⟨name, part, hdecl, rfl⟩ := hd.getElem?_devices_network_eq_some_iff.mp hdev
    obtain ⟨c, hci, hname, hpart⟩ := id hdecl
    exact ⟨c, part, hci, hname.symm, hpart, rfl, (Kind.instantiate_spec hpart).1,
      hc.length_drivers hd hdecl⟩
  case index? => exact fun name i => hw.index?_eq_some_iff
  case device? => exact d.network.device?_eq_bind
  case firstOutput => exact hw.firstOutput
  case outputs =>
    intro o pin
    rw [Network.getElem?_outputs_eq_some_iff]
    refine exists_congr fun dev => and_congr_right fun hdev => ?_
    rw [hw.firstOutput _ _ hdev]
  case driver =>
    intro i slot dev hdev hslot
    obtain ⟨name, part, hdecl, rfl⟩ := hd.getElem?_devices_network_eq_some_iff.mp hdev
    obtain ⟨k, c, source, hk, hinput, hsource, ho⟩ :=
      (hc.driver?_device_eq_some_iff hd hdecl).mp (List.getElem?_eq_getElem hslot)
    refine ⟨k, c, source, _, hk, hinput, fun k' c' hk' hinput' => ?_, hsource, ?_,
      List.getElem?_eq_getElem hslot⟩
    · exact (hc.driven _ hinput.isInput).unique ⟨c', hk', hinput'⟩ ⟨c, hk, hinput⟩
    · rw [ho]
      exact hd.getElem?_outputs_network hsource
  case dependents =>
    intro i dev hdev
    obtain ⟨name, part, hdecl, rfl⟩ := hd.getElem?_devices_network_eq_some_iff.mp hdev
    refine ⟨hc.nodup_dependents hd i, fun j => ?_, hc.pairwise_dependents hd i⟩
    rw [hc.exists_driver_iff_connects hd]
    exact hc.mem_dependents_iff hd
  case connectionCount => exact hc.connectionCount_network hd
  case monitors => exact hd.monitors_network h.monitored
  case indicesOf =>
    exact fun test sort htest =>
      ⟨d.network.pairwise_indicesOf test, fun i => hd.mem_indicesOf_network_iff htest⟩

/-- **A built network is exactly the described one.** -/
theorem build_realizes (d : Description) (options : BuildOptions) (net : Network)
    (h : d.build options = .ok net) : net.Realizes d := by
  obtain ⟨hvalid, rfl⟩ := build_eq_ok_iff.mp h
  exact hvalid.realizes

/-- A switch, a gate that inverts it, and a monitor on the gate. -/
def inverter : Description where
  devices := [⟨"S", .switch, some 1⟩, ⟨"N", .gate .not, none⟩]
  connections := [⟨⟨"S", none⟩, ⟨"N", "I1"⟩⟩]
  monitors := [⟨"N", none⟩]

theorem inverter_realizes : ∃ net, inverter.build {} = .ok net ∧ net.Realizes inverter :=
  ⟨inverter.network, by rfl, build_realizes inverter {} _ (by rfl)⟩

/-! ## Loops -/

theorem WellDeclared.isGate_network_iff (h : d.WellDeclared) {i : Nat} :
    d.network.IsGate i ↔ d.IsGate i := by
  constructor
  · intro ⟨dev, hdev, hgate⟩
    obtain ⟨name, part, hdecl, rfl⟩ := h.getElem?_devices_network_eq_some_iff.mp hdev
    exact ⟨name, part, hdecl, hgate⟩
  · intro ⟨name, part, hdecl, hgate⟩
    exact ⟨_, h.getElem?_devices_network hdecl, hgate⟩

/-- The wiring between the gates of a network is the described one. -/
theorem WellConnected.feeds_network_iff (hc : d.WellConnected) (hd : d.WellDeclared) {i j : Nat} :
    d.network.Feeds i j ↔ d.Feeds i j := by
  rw [Network.Feeds, Feeds, hd.isGate_network_iff, hd.isGate_network_iff,
    hc.exists_driver_iff_connects hd]

/-- What is built without allowing feedback is loop-free. -/
theorem build_loopFree {options : BuildOptions} {net : Network} (h : d.build options = .ok net)
    (hoff : options.allowFeedback = false) : net.LoopFree := by
  obtain ⟨hvalid, rfl⟩ := build_eq_ok_iff.mp h
  exact (Graph.acyclic_congr fun _ _ =>
    hvalid.toWellConnected.feeds_network_iff hvalid.toWellDeclared).mpr (hvalid.loopFree hoff)

theorem build_wellFormed {options : BuildOptions} {net : Network}
    (h : d.build options = .ok net) : net.WellFormed := by
  obtain ⟨hvalid, rfl⟩ := build_eq_ok_iff.mp h
  exact hvalid.toWellConnected.wellFormed_network hvalid.toWellDeclared

theorem build_halfPeriod_pos {options : BuildOptions} {net : Network}
    (h : d.build options = .ok net) {i : Nat} {dev : Device} (hdev : net.devices[i]? = some dev)
    {halfPeriod : UInt32} (hclock : dev.component = .clock halfPeriod) :
    0 < halfPeriod.toNat := by
  obtain ⟨hvalid, rfl⟩ := build_eq_ok_iff.mp h
  obtain ⟨name, part, ⟨c, -, -, hpart⟩, rfl⟩ :=
    hvalid.toWellDeclared.getElem?_devices_network_eq_some_iff.mp hdev
  exact Kind.halfPeriod_pos_of_instantiate hpart hclock

end Description

end SyncCircuit
